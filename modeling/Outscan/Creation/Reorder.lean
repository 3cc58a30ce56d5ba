import Outscan.Creation.Admits
import Outscan.Persistence.System
import Outscan.Quota.Windows

/-! Two requests of one network: what each sees of the other's admission, and
when the order of their commits does not matter. -/
namespace Outscan

open Relational Transactional Lifecycle

/-! ### An admission, seen from the tables -/

/-- What the admission of a request leaves: a new scan with its reservation in
place of the stored one, and its windows charged. -/
structure Effect (request : SnapshotRequest) (guestScanId : String) (network : Bytes32)
    (t t' : Tables) : Prop where
  nodup : request.networkSignalDigests.Nodup
  head : request.networkSignalDigests.head? = some network
  ready : Ready t request guestScanId
  aggregate? : ∃ nonce keyVersion, ∀ id, t'.aggregate? id =
    if id = guestScanId then
      some (freshAggregate (newGuestScan request guestScanId nonce keyVersion)
        request.guestSessionScope network request.now)
    else if t.storedId request = some id then none else t.aggregate? id
  reservations : t'.reservations.rows =
    (t.reservations.rows.filter fun row =>
      !decide (t.storedId request = some row.guestScanId)) ++
      [⟨guestScanId, request.guestSessionScope, network, request.now, request.now + 86400, none⟩]
  windows : ∃ cleared, cleared.windowCounters = t.windowCounters ∧
    Reserved cleared t' guestScanId request.guestSessionScope network request.now
  control : t'.guestAbuseControl = t.guestAbuseControl

theorem Admits.effect {node : NodeRuntime} {dependencies : GuestPersistenceDependencies}
    {request : SnapshotRequest} {db : Database} (hcounted : Counted db.val)
    (h : Admits node dependencies request.persist db) :
    ∃ action guestScanId token nonce network,
      Offered node dependencies request db.val action guestScanId token nonce ∧
      Effect request guestScanId network db.val
        (createOrReplay node dependencies request.persist db).2.val := by
  obtain ⟨hwell, action, guestScanId, token, nonce, network, rest, cleared, hoffered, hnetworks,
    hcleared, hadmitted⟩ := h.admission
  refine ⟨action, guestScanId, token, nonce, network, hoffered, hwell.nodup, ?_,
    hadmitted.ready hwell hcounted hoffered hcleared, ⟨nonce, dependencies.activeTokenKeyVersion,
      fun id => ?_⟩, ?_, ⟨_, ?_, hadmitted.reserved⟩, ?_⟩
  · rw [hnetworks]
    rfl
  · rw [hadmitted.aggregate? (hcleared.noOrphans db.property.noOrphans), hcleared.aggregate?,
      hoffered.removes hwell]
    rfl
  · rw [hadmitted.reserved.reservations, hcleared.reservations_rows, hoffered.removes hwell]
    rfl
  · exact hcleared.windows
  · rw [hadmitted.reserved.rest]
    exact hcleared.control

theorem Tables.storedId_eq_some {t : Tables} {request : SnapshotRequest} {id : String}
    (h : t.storedId request = some id) :
    ∃ row, t.guestScans.find? id = some row ∧
      row.under request.guestSessionScope request.idempotencyKey := by
  obtain ⟨row, hrow, rfl⟩ := Option.map_eq_some_iff.mp h
  obtain ⟨hmem, hunder⟩ := lookup_eq_some.mp hrow
  exact ⟨row, Table.find?_of_mem hmem, hunder⟩

theorem Tables.storedId_ne {t : Tables} {first second : SnapshotRequest} {id id' : String}
    (hsessions : first.guestSessionScope ≠ second.guestSessionScope)
    (h : t.storedId first = some id) (h' : t.storedId second = some id') : id ≠ id' := by
  rintro rfl
  obtain ⟨row, hrow, hunder⟩ := Tables.storedId_eq_some h
  obtain ⟨row', hrow', hunder'⟩ := Tables.storedId_eq_some h'
  rw [hrow] at hrow'
  cases hrow'
  exact hsessions (hunder.1.symm.trans hunder'.1)

section Effect

variable {first second : SnapshotRequest} {guestScanId : String} {network : Bytes32}
  {t t' : Tables}

theorem Effect.scan_of_other (h : Effect first guestScanId network t t')
    (hsessions : first.guestSessionScope ≠ second.guestSessionScope) {row : GuestScan}
    (hscope : row.guestSessionScope = second.guestSessionScope) :
    row ∈ t'.guestScans.rows ↔ row ∈ t.guestScans.rows := by
  have hmem : ∀ s : Tables, row ∈ s.guestScans.rows ↔
      (s.aggregate? row.id).map Aggregate.scan = some row := by
    intro s
    have hscan : (s.aggregate? row.id).map Aggregate.scan = s.guestScans.find? row.id := by
      unfold Tables.aggregate?
      rw [Option.map_map]
      exact Option.map_id'
    rw [hscan]
    exact ⟨fun hrow => Table.find?_of_mem hrow, fun hfind => Table.find?_mem hfind⟩
  obtain ⟨nonce, keyVersion, haggregate⟩ := h.aggregate?
  rw [hmem, hmem, haggregate]
  by_cases hid : row.id = guestScanId
  · rw [if_pos hid]
    constructor
    · intro hnew
      cases hnew
      exact absurd hscope hsessions
    · intro hold
      have hfind := (hmem t).mpr hold
      rcases h.ready.free with hstored | hfree
      · obtain ⟨other, hother, hunder⟩ := Tables.storedId_eq_some hstored
        have hrow := Table.find?_of_mem hfind
        change t.guestScans.find? row.id = _ at hrow
        rw [hid, hother] at hrow
        cases hrow
        exact absurd (hunder.1.symm.trans hscope) hsessions
      · exact absurd hid (Table.find?_eq_none.mp hfree row hfind)
  · rw [if_neg hid]
    by_cases hstored : t.storedId first = some row.id
    · rw [if_pos hstored]
      obtain ⟨other, hother, hunder⟩ := Tables.storedId_eq_some hstored
      constructor
      · intro hnone
        cases hnone
      · intro hold
        have hrow := Table.find?_of_mem ((hmem t).mpr hold)
        change t.guestScans.find? row.id = _ at hrow
        rw [hother] at hrow
        cases hrow
        exact absurd (hunder.1.symm.trans hscope) hsessions
    · rw [if_neg hstored]

theorem Effect.lookup_of_other (h : Effect first guestScanId network t t')
    (hsessions : first.guestSessionScope ≠ second.guestSessionScope) :
    t'.lookup second.guestSessionScope second.idempotencyKey =
      t.lookup second.guestSessionScope second.idempotencyKey := by
  ext row
  rw [lookup_eq_some, lookup_eq_some]
  constructor
  · rintro ⟨hrow, hunder⟩
    exact ⟨(h.scan_of_other hsessions hunder.1).mp hrow, hunder⟩
  · rintro ⟨hrow, hunder⟩
    exact ⟨(h.scan_of_other hsessions hunder.1).mpr hrow, hunder⟩

theorem Effect.storedId_of_other (h : Effect first guestScanId network t t')
    (hsessions : first.guestSessionScope ≠ second.guestSessionScope) :
    t'.storedId second = t.storedId second := by
  unfold Tables.storedId
  rw [h.lookup_of_other hsessions]

theorem Effect.storedId_ne_new (h : Effect first guestScanId network t t')
    (hsessions : first.guestSessionScope ≠ second.guestSessionScope) :
    t.storedId second ≠ some guestScanId := by
  intro hstored
  rcases h.ready.free with hown | hfree
  · exact Tables.storedId_ne hsessions hown hstored rfl
  · obtain ⟨row, hrow, -⟩ := Tables.storedId_eq_some hstored
    rw [hfree] at hrow
    cases hrow

theorem Effect.aggregate?_of_other (h : Effect first guestScanId network t t')
    (hsessions : first.guestSessionScope ≠ second.guestSessionScope) {id : String}
    (hstored : t.storedId second = some id) : t'.aggregate? id = t.aggregate? id := by
  obtain ⟨nonce, keyVersion, haggregate⟩ := h.aggregate?
  rw [haggregate, if_neg, if_neg]
  · exact fun hown => Tables.storedId_ne hsessions hown hstored rfl
  · rintro rfl
    exact h.storedId_ne_new hsessions hstored

theorem Effect.removable_of_other (h : Effect first guestScanId network t t')
    (hsessions : first.guestSessionScope ≠ second.guestSessionScope) {id : String} {now : Nat}
    (hstored : t.storedId second = some id) : Removable t' id now ↔ Removable t id now := by
  have hkept := h.aggregate?_of_other hsessions hstored
  have hiff : ∀ s : Tables, Removable s id now ↔ ∃ g, s.aggregate? id = some g ∧
      ∃ row, g.reservation = some row ∧
        (row.released = none → row.reservedAt ≤ now ∧ now ≤ row.deletionDeadline) := by
    intro s
    constructor
    · rintro ⟨hscan, row, hrow, htimes⟩
      obtain ⟨scan, hscan⟩ := Option.isSome_iff_exists.mp hscan
      exact ⟨⟨scan, s.attemptsOf id, s.guestResults.find? id, some row⟩,
        Tables.aggregate?_eq_some.mpr ⟨hscan, rfl, rfl, hrow⟩, row, rfl, htimes⟩
    · rintro ⟨g, hg, row, hrow, htimes⟩
      obtain ⟨hscan, -, -, hreservation⟩ := Tables.aggregate?_eq_some.mp hg
      exact ⟨by rw [hscan]; rfl, row, hreservation.trans hrow, htimes⟩
  rw [hiff, hiff, hkept]

theorem Effect.free_iff (h : Effect first guestScanId network t t') {id : String} :
    t'.guestScans.find? id = none ↔
      id ≠ guestScanId ∧ (t.storedId first = some id ∨ t.guestScans.find? id = none) := by
  obtain ⟨nonce, keyVersion, haggregate⟩ := h.aggregate?
  rw [← Tables.aggregate?_eq_none, ← Tables.aggregate?_eq_none, haggregate]
  by_cases hid : id = guestScanId
  · simp [hid]
  · by_cases hstored : t.storedId first = some id
    · simp [hid, hstored]
    · simp [hid, hstored]

end Effect

/-! ### Slots -/

theorem slots_le_succ (t : Tables) (kind : ScopeKind) (digests : List Bytes32)
    (gone : List (Option String)) (removed : Option String) :
    t.slots kind digests gone ≤ t.slots kind digests (removed :: gone) + 1 := by
  unfold Tables.slots
  cases removed with
  | none =>
    refine Nat.le_succ_of_le (List.countP_mono_left fun row _ h => ?_)
    simpa [List.contains_cons] using h
  | some id =>
    have hone : t.reservations.rows.countP (fun row => decide (row.guestScanId = id)) ≤ 1 := by
      cases hfind : t.reservations.find? id with
      | none =>
        have hzero : t.reservations.rows.countP (fun row => decide (row.guestScanId = id)) = 0 :=
          List.countP_eq_zero.mpr fun row hrow => by
            have hne : row.guestScanId ≠ id := Table.find?_eq_none.mp hfind row hrow
            simpa using hne
        omega
      | some row =>
        have hcount := Table.countP_key (p := fun _ => true) hfind rfl
        simp only [Bool.and_true] at hcount
        exact hcount.le
    refine (List.countP_mono_left fun row _ h => ?_).trans
      ((Table.countP_or_le _ _ _).trans (Nat.add_le_add_left hone _))
    simp only [Bool.and_eq_true, Bool.not_eq_true', Bool.or_eq_true, decide_eq_true_eq,
      List.contains_cons, Bool.or_eq_false_iff, beq_eq_false_iff_ne, ne_eq] at h ⊢
    by_cases hid : row.guestScanId = id
    · exact .inr hid
    · exact .inl ⟨h.1, fun hsame => hid (Option.some.inj hsame), h.2⟩

theorem slots_session_of_other {first second : SnapshotRequest} {t : Tables} (howned : Owned t)
    (hsessions : first.guestSessionScope ≠ second.guestSessionScope)
    (gone : List (Option String)) :
    t.slots .session [second.guestSessionScope] (t.storedId first :: gone) =
      t.slots .session [second.guestSessionScope] gone := by
  refine List.countP_congr fun row hrow => ?_
  simp only [Bool.and_eq_true, Bool.not_eq_true', List.contains_cons, Bool.or_eq_false_iff,
    beq_eq_false_iff_ne, ne_eq, decide_eq_true_eq, List.mem_singleton]
  refine and_congr_right fun hheld => and_iff_right fun hsame => ?_
  obtain ⟨scan, hscan, hid, hscope, -⟩ := howned.reservation row hrow
  obtain ⟨stored, hstored, hunder⟩ := Tables.storedId_eq_some hsame.symm
  have hfind := Table.find?_of_mem hscan
  change t.guestScans.find? scan.id = _ at hfind
  rw [hid, hstored] at hfind
  cases hfind
  exact hsessions (hunder.1.symm.trans (hscope.trans hheld.2))

section Effect

variable {first second : SnapshotRequest} {guestScanId : String} {network : Bytes32}
  {t t' : Tables}

def SnapshotRequest.charged (request : SnapshotRequest) (network : Bytes32) : ScopeKind → Bytes32
  | .session => request.guestSessionScope
  | .network => network

theorem Effect.slots (h : Effect first guestScanId network t t') (kind : ScopeKind)
    (digests : List Bytes32) (gone : List (Option String))
    (hnew : some guestScanId ∉ gone) :
    t'.slots kind digests gone = t.slots kind digests (t.storedId first :: gone) +
      if first.charged network kind ∈ digests then 1 else 0 := by
  unfold Tables.slots
  rw [h.reservations, List.countP_append, List.countP_filter]
  congr 1
  · refine List.countP_congr fun row _ => ?_
    rw [List.contains_cons]
    by_cases hgone : t.storedId first = some row.guestScanId
    · simp [hgone]
    · have hgone' : ¬ some row.guestScanId = t.storedId first := fun heq => hgone heq.symm
      simp [hgone, hgone']
  · have hkept : gone.contains (some guestScanId) = false := by simpa using hnew
    rw [List.countP_singleton]
    by_cases hdigest : first.charged network kind ∈ digests
    · rw [if_pos hdigest, if_pos]
      cases kind <;> simp_all [SnapshotRequest.charged, Reservation.digest]
    · rw [if_neg hdigest, if_neg]
      cases kind <;> simp_all [SnapshotRequest.charged, Reservation.digest]

/-! ### Windows -/

inductive Recharged (now : Nat) (dimension : WindowDimension) (found : Option WindowCounter)
    (row : WindowCounter) : Prop
  | live (old : WindowCounter) (found : found = some old) (live : now < old.resetAt)
      (count : row.usageCount = old.usageCount + 1) (reset : row.resetAt = old.resetAt)
  | opened (stale : ∀ old, found = some old → old.resetAt ≤ now) (count : row.usageCount = 1)
      (reset : row.resetAt = now + expectedWindowSeconds dimension)

theorem Effect.window_other (h : Effect first guestScanId network t t')
    {dimension : WindowDimension} {digest : Bytes32}
    (hdigest : digest ≠ first.charged network dimension.scopeKind) :
    t'.windowCounters.find? (windowKey dimension digest) =
      t.windowCounters.find? (windowKey dimension digest) := by
  obtain ⟨cleared, hsame, hreserved⟩ := h.windows
  rw [← hsame]
  refine hreserved.otherWindows _ fun hmem => hdigest ?_
  obtain ⟨spec, hspec, hkey⟩ := List.mem_map.mp hmem
  have hshape := (windowSpec_shape hspec).1.symm.trans hkey
  simp only [windowKey, Prod.mk.injEq] at hshape
  have hcharged := windowSpec_digest hspec
  rw [hshape.2.1, hshape.2.2] at hcharged
  cases hkind : dimension.scopeKind <;> rw [hkind] at hcharged <;>
    exact List.mem_singleton.mp hcharged

theorem Effect.window_charged (h : Effect first guestScanId network t t')
    (dimension : WindowDimension) :
    ∃ row, t'.windowCounters.find?
        (windowKey dimension (first.charged network dimension.scopeKind)) = some row ∧
      Recharged first.now dimension (t.windowCounters.find?
        (windowKey dimension (first.charged network dimension.scopeKind))) row := by
  obtain ⟨cleared, hsame, hreserved⟩ := h.windows
  obtain ⟨spec, hspec, rfl, hdigest⟩ := exists_windowSpec first.guestSessionScope network dimension
  obtain ⟨hkey, hseconds, -⟩ := windowSpec_shape hspec
  have hcharged : first.charged network spec.dimension.scopeKind = spec.digest := by
    cases hkind : spec.dimension.scopeKind <;> rw [hkind] at hdigest <;>
      exact (List.mem_singleton.mp hdigest).symm
  rw [hcharged, ← hkey, hreserved.windows spec hspec, hsame]
  cases hfind : t.windowCounters.find? spec.key with
  | none =>
    refine ⟨_, rfl, .opened (fun old hold => by cases hold) rfl ?_⟩
    exact congrArg (first.now + ·) hseconds
  | some old =>
    by_cases hstale : old.resetAt ≤ first.now
    · refine ⟨_, rfl, .opened (fun other hother => ?_) ?_ ?_⟩
      · cases hother
        exact hstale
      · rw [if_pos hstale]
        rfl
      · rw [if_pos hstale]
        exact congrArg (first.now + ·) hseconds
    · refine ⟨_, rfl, .live old rfl (Nat.lt_of_not_le hstale) ?_ ?_⟩
      · rw [if_neg hstale]
        rfl
      · rw [if_neg hstale]
        rfl

theorem Recharged.le {now later : Nat} {dimension : WindowDimension}
    {found : Option WindowCounter} {row : WindowCounter} (h : Recharged now dimension found row)
    (hle : now ≤ later) : (found.map (liveUsage later)).getD 0 ≤ liveUsage later row := by
  cases h with
  | live old hfound hlive hcount hreset =>
    subst hfound
    simp only [Option.map_some, Option.getD_some, liveUsage, hreset, hcount]
    split <;> omega
  | opened hstale hcount hreset =>
    cases found with
    | none => exact Nat.zero_le _
    | some old =>
      have hold := hstale old rfl
      simp only [Option.map_some, Option.getD_some, liveUsage]
      rw [if_neg (by omega)]
      exact Nat.zero_le _

/-- The window lived, or is opened at the same time. -/
def Timely (t : Tables) (earlier now : Nat) (network : Bytes32) (dimension : WindowDimension) :
    Prop :=
  earlier = now ∨ ∃ row, t.windowCounters.find? (windowKey dimension network) = some row ∧
    now < row.resetAt

theorem Recharged.succ {earlier now : Nat} {dimension : WindowDimension}
    {found : Option WindowCounter} {row : WindowCounter} (h : Recharged now dimension found row)
    (hle : earlier ≤ now)
    (htimely : earlier = now ∨ ∃ old, found = some old ∧ now < old.resetAt) :
    liveUsage earlier row = (found.map (liveUsage earlier)).getD 0 + 1 := by
  have hpositive : 0 < expectedWindowSeconds dimension := by cases dimension <;> decide
  cases h with
  | live old hfound hlive hcount hreset =>
    subst hfound
    simp only [Option.map_some, Option.getD_some, liveUsage, hreset, hcount]
    rw [if_pos (by omega), if_pos (by omega)]
  | opened hstale hcount hreset =>
    rcases htimely with rfl | ⟨old, hold, hlive⟩
    · unfold liveUsage
      rw [hcount, if_pos (by omega)]
      cases found with
      | none => rfl
      | some old =>
        have hold := hstale old rfl
        simp only [Option.map_some, Option.getD_some]
        rw [if_neg (by omega)]
    · have hstale := hstale old hold
      omega

theorem sum_map_update {digests : List Bytes32} (hnodup : digests.Nodup) {charged : Bytes32}
    (hmem : charged ∈ digests) {f g : Bytes32 → Nat} (hother : ∀ d, d ≠ charged → g d = f d)
    (hcharged : g charged = f charged + 1) :
    (digests.map g).sum = (digests.map f).sum + 1 := by
  induction digests with
  | nil => cases hmem
  | cons digest rest ih =>
    obtain ⟨hnot, hrest⟩ := List.nodup_cons.mp hnodup
    simp only [List.map_cons, List.sum_cons]
    by_cases heq : digest = charged
    · subst heq
      have hsame : rest.map g = rest.map f :=
        List.map_congr_left fun d hd => hother d fun hdigest => hnot (hdigest ▸ hd)
      rw [hsame, hcharged]
      omega
    · rw [ih hrest ((List.mem_cons.mp hmem).resolve_left fun h => heq h.symm), hother digest heq]
      omega

theorem Effect.windowUsage_le (h : Effect first guestScanId network t t') {later : Nat}
    (hle : first.now ≤ later) (session : Bytes32) (networks : List Bytes32)
    (dimension : WindowDimension) :
    t.windowUsage later session networks dimension ≤
      t'.windowUsage later session networks dimension := by
  refine List.sum_le_sum fun digest _ => ?_
  unfold Table.contribution
  by_cases hdigest : digest = first.charged network dimension.scopeKind
  · obtain ⟨row, hrow, hcharged⟩ := h.window_charged dimension
    rw [hdigest, hrow]
    exact hcharged.le hle
  · rw [h.window_other hdigest]

theorem Effect.windowUsage_session (h : Effect first guestScanId network t t')
    (hsessions : first.guestSessionScope ≠ second.guestSessionScope) {dimension : WindowDimension}
    (hkind : dimension.scopeKind = .session) (now : Nat) (networks : List Bytes32) :
    t'.windowUsage now second.guestSessionScope networks dimension =
      t.windowUsage now second.guestSessionScope networks dimension := by
  have hdigest : second.guestSessionScope ≠ first.charged network dimension.scopeKind := by
    rw [hkind]
    exact hsessions.symm
  unfold Tables.windowUsage Table.contribution
  simp only [hkind, digestsOf, List.map_cons, List.map_nil]
  rw [h.window_other hdigest]

theorem Effect.windowUsage_network (h : Effect first guestScanId network t t')
    {earlier : Nat} (hle : earlier ≤ first.now) (session : Bytes32) {networks : List Bytes32}
    (hnodup : networks.Nodup) (hmem : network ∈ networks) {dimension : WindowDimension}
    (hkind : dimension.scopeKind = .network) (htimely : Timely t earlier first.now network dimension) :
    t'.windowUsage earlier session networks dimension =
      t.windowUsage earlier session networks dimension + 1 := by
  have hcharged : first.charged network dimension.scopeKind = network := by
    rw [hkind]
    rfl
  unfold Tables.windowUsage
  simp only [hkind, digestsOf]
  refine sum_map_update hnodup hmem (fun digest hdigest => ?_) ?_
  · unfold Table.contribution
    rw [h.window_other (hcharged.symm ▸ hdigest)]
  · obtain ⟨row, hrow, hrecharged⟩ := h.window_charged dimension
    rw [hcharged] at hrow hrecharged
    unfold Table.contribution
    rw [hrow]
    exact hrecharged.succ hle htimely

theorem window_find?_of_mem {row : WindowCounter} (hrow : row ∈ t.windowCounters.rows) :
    t.windowCounters.find? (windowKey row.dimension row.scopeDigest) = some row ∧
      row.scopeKind = row.dimension.scopeKind := by
  have hfind := Table.find?_of_mem hrow
  obtain ⟨-, hkind⟩ := window_key_shape hfind
  have hkey : Schema.key row = windowKey row.dimension row.scopeDigest := by
    simp only [Schema.key, windowKey, Prod.mk.injEq, and_true]
    exact hkind
  exact ⟨hkey ▸ hfind, hkind⟩

theorem presented_of_perm {session : Bytes32} {networks networks' : List Bytes32}
    (hperm : networks.Perm networks') {kind : ScopeKind} {digest : Bytes32} (hkind : kind = .network)
    (h : presented session networks kind digest = true) (session' : Bytes32) :
    presented session' networks' kind digest = true := by
  subst hkind
  have hmem : digest ∈ digestsOf session networks .network := mem_digestsOf.mpr h
  exact mem_digestsOf.mp (hperm.mem_iff.mp hmem)

theorem Effect.notAhead_before (h : Effect first guestScanId network t t')
    (hsessions : first.guestSessionScope ≠ second.guestSessionScope)
    (hperm : first.networkSignalDigests.Perm second.networkSignalDigests)
    (hle : first.now ≤ second.now)
    (hahead : NotAhead t' second.now second.guestSessionScope second.networkSignalDigests) :
    NotAhead t second.now second.guestSessionScope second.networkSignalDigests := by
  intro row hrow hpresented
  obtain ⟨hfind, hkind⟩ := window_find?_of_mem hrow
  cases hscope : row.scopeKind with
  | network =>
    have hbound := h.ready.notAhead row hrow
      (presented_of_perm hperm.symm hscope hpresented _)
    omega
  | session =>
    have hdigest : row.scopeDigest = second.guestSessionScope := by
      have hmem := mem_digestsOf.mpr hpresented
      rw [hscope] at hmem
      exact List.mem_singleton.mp hmem
    have hother : row.scopeDigest ≠ first.charged network row.dimension.scopeKind := by
      rw [← hkind, hscope, hdigest]
      exact hsessions.symm
    have hkept := (h.window_other hother).trans hfind
    exact hahead row (Table.find?_mem hkept) hpresented

theorem Effect.notAhead_after (h : Effect first guestScanId network t t')
    (hsessions : first.guestSessionScope ≠ second.guestSessionScope)
    (hmem : network ∈ second.networkSignalDigests) (hle : second.now ≤ first.now)
    (hahead : NotAhead t second.now second.guestSessionScope second.networkSignalDigests) :
    NotAhead t' second.now second.guestSessionScope second.networkSignalDigests ↔
      ∀ dimension, dimension.scopeKind = .network →
        Timely t second.now first.now network dimension := by
  constructor
  · intro hafter dimension hkind
    obtain ⟨row, hrow, hcharged⟩ := h.window_charged dimension
    rw [hkind] at hrow hcharged
    cases hcharged with
    | live old hfound hlive hcount hreset => exact .inr ⟨old, hfound, hlive⟩
    | opened hstale hcount hreset =>
      have hkey := Table.find?_key hrow
      simp only [Schema.key, windowKey, Prod.mk.injEq] at hkey
      have hbound := hafter row (Table.find?_mem hrow) (by
        rw [hkey.1, hkey.2.1, hkind]
        exact mem_digestsOf.mp hmem)
      rw [hkey.2.2] at hbound
      exact .inl (by omega)
  · intro htimely row hrow hpresented
    obtain ⟨hfind, hkind⟩ := window_find?_of_mem hrow
    by_cases hcase : row.scopeDigest = first.charged network row.dimension.scopeKind
    · cases hscope : row.scopeKind with
      | session =>
        have hdigest := mem_digestsOf.mpr hpresented
        rw [hscope] at hdigest
        rw [← hkind, hscope] at hcase
        exact absurd (hcase.symm.trans (List.mem_singleton.mp hdigest)) hsessions
      | network =>
        rw [hscope] at hkind
        obtain ⟨other, hother, hcharged⟩ := h.window_charged row.dimension
        rw [← hcase, hfind] at hother
        cases hother
        rw [← hcase] at hcharged
        have hdigest : row.scopeDigest = network := by
          rw [← hkind] at hcase
          exact hcase
        cases hcharged with
        | live old hfound hlive hcount hreset =>
          have hkey := Table.find?_key hfound
          simp only [Schema.key, windowKey, Prod.mk.injEq] at hkey
          have hbound := hahead old (Table.find?_mem hfound) (by
            rw [hkey.1, hkey.2.1, ← hkind, ← hscope]
            exact hpresented)
          rw [hreset, ← hkey.2.2]
          exact hbound
        | opened hstale hcount hreset =>
          rcases htimely row.dimension hkind.symm with hsame | ⟨old, hold, hlive⟩
          · omega
          · rw [hdigest] at hstale
            have := hstale old hold
            omega
    · rw [h.window_other hcase] at hfind
      exact hahead row (Table.find?_mem hfind) hpresented

end Effect

/-! ### Both orders -/

theorem Offered.of_lookup {node : NodeRuntime} {dependencies : GuestPersistenceDependencies}
    {request : SnapshotRequest} {t t' : Tables} {action : CreateAction}
    {guestScanId token : String} {nonce : Bytes32}
    (h : Offered node dependencies request t action guestScanId token nonce)
    (hsame : t'.lookup request.guestSessionScope request.idempotencyKey =
      t.lookup request.guestSessionScope request.idempotencyKey) :
    Offered node dependencies request t' action guestScanId token nonce :=
  ⟨hsame ▸ h.decision, h.issued, h.material⟩

theorem slots_perm (t : Tables) (kind : ScopeKind) {digests digests' : List Bytes32}
    (hperm : digests.Perm digests') (gone : List (Option String)) :
    t.slots kind digests gone = t.slots kind digests' gone := by
  unfold Tables.slots
  refine List.countP_congr fun row _ => ?_
  simp only [hperm.mem_iff]

theorem slots_swap (t : Tables) (kind : ScopeKind) (digests : List Bytes32)
    (one other : Option String) :
    t.slots kind digests [one, other] = t.slots kind digests [other, one] := by
  unfold Tables.slots
  refine List.countP_congr fun row _ => ?_
  simp only [List.contains_cons, Bool.and_eq_true, Bool.not_eq_true', Bool.or_eq_false_iff]
  tauto

section Reorder

variable {node : NodeRuntime} {first second : SnapshotRequest} {firstId secondId : String}
  {network : Bytes32} {t t' : Tables}

/-- The later of two requests of one network is ready without the other's admission
too, unless it is given the id of the scan that the other one replaced. -/
theorem Effect.ready_before (h : Effect first firstId network t t') (howned : Owned t)
    (hsessions : first.guestSessionScope ≠ second.guestSessionScope)
    (hperm : first.networkSignalDigests.Perm second.networkSignalDigests)
    (hle : first.now ≤ second.now) (hready : Ready t' second secondId)
    (hid : t.storedId first ≠ some secondId) : Ready t second secondId := by
  have hstored := h.storedId_of_other hsessions
  have hnetwork : network ∈ second.networkSignalDigests :=
    hperm.mem_iff.mp (List.mem_of_mem_head? h.head)
  have hnew : some firstId ∉ [t.storedId second] := by
    rw [List.mem_singleton]
    exact (h.storedId_ne_new hsessions).symm
  refine ⟨?_, fun id hmem => ?_, h.control ▸ hready.control,
    h.notAhead_before hsessions hperm hle hready.notAhead, fun dimension => ?_, fun kind => ?_⟩
  · rcases hready.free with hown | hfree
    · exact .inl (hstored ▸ hown)
    · exact .inr ((h.free_iff.mp hfree).2.resolve_left hid)
  · exact (h.removable_of_other hsessions hmem).mp (hready.removable id (hstored ▸ hmem))
  · exact (h.windowUsage_le hle _ _ dimension).trans_lt (hready.windows dimension)
  · have hslots := hready.slots kind
    rw [hstored, h.slots _ _ _ hnew] at hslots
    cases kind with
    | session =>
      have hsession := slots_session_of_other howned hsessions [t.storedId second]
      change t.slots .session [second.guestSessionScope] _ < _
      change t.slots .session [second.guestSessionScope] _ + _ < _ at hslots
      omega
    | network =>
      change t.slots .network second.networkSignalDigests _ < _
      change t.slots .network second.networkSignalDigests _ +
        (if network ∈ second.networkSignalDigests then 1 else 0) < _ at hslots
      rw [if_pos hnetwork] at hslots
      exact (slots_le_succ _ _ _ _ _).trans_lt hslots

theorem Effect.room (h : Effect first firstId network t t')
    (hsessions : first.guestSessionScope ≠ second.guestSessionScope)
    (hperm : first.networkSignalDigests.Perm second.networkSignalDigests)
    (hready : Ready t' second secondId) :
    firstId ≠ secondId ∧
      t.slots .network first.networkSignalDigests [t.storedId first, t.storedId second] + 1 <
        activeLimit .networkActive := by
  have hstored := h.storedId_of_other hsessions
  have hother := h.storedId_ne_new hsessions
  have hnew : some firstId ∉ [t.storedId second] := by
    rw [List.mem_singleton]
    exact hother.symm
  constructor
  · rintro rfl
    rcases hready.free with hown | hfree
    · exact hother (hstored ▸ hown)
    · exact (h.free_iff.mp hfree).1 rfl
  · have hslots := hready.slots .network
    rw [hstored, h.slots _ _ _ hnew] at hslots
    change t.slots .network second.networkSignalDigests _ +
      (if network ∈ second.networkSignalDigests then 1 else 0) < _ at hslots
    rw [if_pos (hperm.mem_iff.mp (List.mem_of_mem_head? h.head))] at hslots
    rw [slots_perm t .network hperm]
    exact hslots

/-- The earlier of two requests is ready after the other's admission exactly when
the windows of the network were timely and have room for both. -/
theorem Effect.ready_after (h : Effect second secondId network t t') (howned : Owned t)
    (hsessions : first.guestSessionScope ≠ second.guestSessionScope)
    (hperm : first.networkSignalDigests.Perm second.networkSignalDigests)
    (hle : first.now ≤ second.now) (hready : Ready t first firstId) (hids : firstId ≠ secondId)
    (hroom : t.slots .network first.networkSignalDigests [t.storedId first, t.storedId second] + 1 <
      activeLimit .networkActive) :
    Ready t' first firstId ↔ ∀ dimension, dimension.scopeKind = .network →
      t.windowUsage first.now first.guestSessionScope first.networkSignalDigests dimension + 1 <
        windowLimit dimension ∧ Timely t first.now second.now network dimension := by
  have hnodup : first.networkSignalDigests.Nodup := hperm.nodup_iff.mpr h.nodup
  have hnetwork : network ∈ first.networkSignalDigests :=
    hperm.mem_iff.mpr (List.mem_of_mem_head? h.head)
  have hstored := h.storedId_of_other hsessions.symm
  have hahead := h.notAhead_after hsessions.symm hnetwork hle hready.notAhead
  constructor
  · intro hafter dimension hkind
    have htimely := hahead.mp hafter.notAhead dimension hkind
    refine ⟨?_, htimely⟩
    rw [← h.windowUsage_network hle _ hnodup hnetwork hkind htimely]
    exact hafter.windows dimension
  · intro hwindows
    have hnew : some secondId ∉ [t.storedId first] := by
      rw [List.mem_singleton]
      exact (h.storedId_ne_new hsessions.symm).symm
    refine ⟨?_, fun id hmem => ?_, h.control.trans hready.control,
      hahead.mpr fun dimension hkind => (hwindows dimension hkind).2, fun dimension => ?_,
      fun kind => ?_⟩
    · rcases hready.free with hown | hfree
      · exact .inl (hstored.trans hown)
      · exact .inr (h.free_iff.mpr ⟨hids, .inr hfree⟩)
    · rw [hstored] at hmem
      exact (h.removable_of_other hsessions.symm hmem).mpr (hready.removable id hmem)
    · cases hkind : dimension.scopeKind with
      | session =>
        rw [h.windowUsage_session hsessions.symm hkind]
        exact hready.windows dimension
      | network =>
        obtain ⟨hbelow, htimely⟩ := hwindows dimension hkind
        rw [h.windowUsage_network hle _ hnodup hnetwork hkind htimely]
        exact hbelow
    · rw [hstored, h.slots _ _ _ hnew]
      cases kind with
      | session =>
        have hsession := slots_session_of_other howned hsessions.symm [t.storedId first]
        have hnone : second.guestSessionScope ∉ [first.guestSessionScope] := by
          rw [List.mem_singleton]
          exact hsessions.symm
        change t.slots .session [first.guestSessionScope] _ +
          (if second.guestSessionScope ∈ [first.guestSessionScope] then 1 else 0) < _
        rw [if_neg hnone, hsession]
        exact hready.slots .session
      | network =>
        change t.slots .network first.networkSignalDigests _ +
          (if network ∈ first.networkSignalDigests then 1 else 0) < _
        rw [if_pos hnetwork, slots_swap]
        exact hroom

end Reorder

/-- Two requests of one network from two sessions, stamped in the order in which
they would be admitted, are both admitted in the other order too exactly when the
later one is not given the id of the scan that the earlier one replaces, and every
window of the network has room for both at the earlier time and, unless the stamps
are the same, lives at the later. -/
theorem bothOrders_iff (node : NodeRuntime) {db : Database} (hreach : Reachable node db)
    {dependencies dependencies' : GuestPersistenceDependencies} {first second : SnapshotRequest}
    (hsessions : first.guestSessionScope ≠ second.guestSessionScope)
    (hnetwork : first.networkSignalDigests.Perm second.networkSignalDigests)
    (hstamps : first.now ≤ second.now)
    (hfirst : Admits node dependencies first.persist db)
    (hsecond : Admits node dependencies' second.persist
      (createOrReplay node dependencies first.persist db).2) :
    (Admits node dependencies' second.persist db ∧
      Admits node dependencies first.persist
        (createOrReplay node dependencies' second.persist db).2) ↔
    (∀ id, dependencies'.createGuestScanId = some id → db.val.storedId first ≠ some id) ∧
    ∀ network, second.networkSignalDigests.head? = some network →
      ∀ dimension, dimension.scopeKind = .network →
        db.val.windowUsage first.now first.guestSessionScope first.networkSignalDigests dimension
            + 1 < windowLimit dimension ∧
          Timely db.val first.now second.now network dimension := by
  have hsound := hreach.sound
  have hcounted := hreach.counted
  have howned := db.property.owned
  have hwell := hfirst.admission.1
  have hwell' := hsecond.admission.1
  obtain ⟨action, id, token, nonce, network, hoffered, heffect⟩ := hfirst.effect hcounted
  have hreach₁ : Reachable node (createOrReplay node dependencies first.persist db).2 :=
    hreach.step (.createOrReplay dependencies first.persist)
  obtain ⟨action', id', token', nonce', hoffered', hready'⟩ :=
    (admits_iff hreach₁.counted hwell').mp hsecond
  have hoffered'' := hoffered'.of_lookup (heffect.lookup_of_other hsessions).symm
  obtain ⟨hids, hroom⟩ := heffect.room hsessions hnetwork hready'
  -- what the reverse order needs once the later request is admitted first
  have hafter : Admits node dependencies' second.persist db →
      ∃ network', second.networkSignalDigests.head? = some network' ∧
        (Admits node dependencies first.persist
            (createOrReplay node dependencies' second.persist db).2 ↔
          ∀ dimension, dimension.scopeKind = .network →
            db.val.windowUsage first.now first.guestSessionScope first.networkSignalDigests
                dimension + 1 < windowLimit dimension ∧
              Timely db.val first.now second.now network' dimension) := by
    intro hadmits
    obtain ⟨_, other, _, _, network', hother, heffect'⟩ := hadmits.effect hcounted
    have hsame : other = id' := Option.some.inj (hother.issued.symm.trans hoffered'.issued)
    have hready := heffect'.ready_after howned hsessions hnetwork hstamps heffect.ready
      (hsame ▸ hids) hroom
    have hreach₂ : Reachable node (createOrReplay node dependencies' second.persist db).2 :=
      hreach.step (.createOrReplay dependencies' second.persist)
    refine ⟨network', heffect'.head, ?_⟩
    rw [admits_iff hreach₂.counted hwell, ← hready]
    constructor
    · rintro ⟨_, again, _, _, hoffer, hready⟩
      rwa [Option.some.inj (hoffered.issued.symm.trans hoffer.issued)]
    · intro hready
      exact ⟨action, id, token, nonce,
        hoffered.of_lookup (heffect'.lookup_of_other hsessions.symm), hready⟩
  constructor
  · rintro ⟨hadmits, hlast⟩
    constructor
    · intro other hother hstored
      obtain ⟨_, fresh, _, _, hoffer, hready⟩ := (admits_iff hcounted hwell').mp hadmits
      have hsame : fresh = other := Option.some.inj (hoffer.issued.symm.trans hother)
      rcases hready.free with hown | hfree
      · exact Tables.storedId_ne hsessions hstored hown hsame.symm
      · obtain ⟨row, hrow, -⟩ := Tables.storedId_eq_some hstored
        rw [← hsame, hfree] at hrow
        cases hrow
    · obtain ⟨network', hhead, hiff⟩ := hafter hadmits
      intro head hhead'
      rw [Option.some.inj (hhead'.symm.trans hhead)]
      exact hiff.mp hlast
  · rintro ⟨hfresh, hwindows⟩
    have hready := heffect.ready_before howned hsessions hnetwork hstamps hready'
      (hfresh id' hoffered'.issued)
    have hadmits : Admits node dependencies' second.persist db :=
      (admits_iff hcounted hwell').mpr ⟨action', id', token', nonce', hoffered'', hready⟩
    obtain ⟨network', hhead, hiff⟩ := hafter hadmits
    exact ⟨hadmits, hiff.mpr (hwindows network' hhead)⟩

def sampleSnapshot (session : UInt8) (now : Nat) : SnapshotRequest :=
  ⟨Bytes32.fill session, "key", Bytes32.fill 2, "example.com", [Bytes32.fill 4], now⟩

/-- Two sessions that start within the same second are admitted in both orders. -/
theorem bothOrders_sample :
    Admits sampleNode (sampleDependencies "scan-2") (sampleSnapshot 2 1000).persist
        Database.initial ∧
      Admits sampleNode (sampleDependencies "scan-1") (sampleSnapshot 1 1000).persist
        (createOrReplay sampleNode (sampleDependencies "scan-2") (sampleSnapshot 2 1000).persist
          Database.initial).2 := by
  have hfirst : Admits sampleNode (sampleDependencies "scan-1") (sampleSnapshot 1 1000).persist
      Database.initial := by
    decide +kernel
  have hsecond : Admits sampleNode (sampleDependencies "scan-2") (sampleSnapshot 2 1000).persist
      (createOrReplay sampleNode (sampleDependencies "scan-1") (sampleSnapshot 1 1000).persist
        Database.initial).2 := by
    decide +kernel
  have hsessions : (sampleSnapshot 1 1000).guestSessionScope ≠
      (sampleSnapshot 2 1000).guestSessionScope := by
    decide +kernel
  have hnone : Database.initial.val.storedId (sampleSnapshot 1 1000) = none := rfl
  have hroom : ∀ dimension : WindowDimension, Database.initial.val.windowUsage
      (sampleSnapshot 1 1000).now (sampleSnapshot 1 1000).guestSessionScope
      (sampleSnapshot 1 1000).networkSignalDigests dimension + 1 < windowLimit dimension := by
    intro dimension
    cases dimension <;> decide +kernel
  have hboth := @bothOrders_iff sampleNode Database.initial ⟨[], rfl⟩ _ _ (sampleSnapshot 1 1000)
    (sampleSnapshot 2 1000) hsessions (.refl _) le_rfl hfirst hsecond
  refine hboth.mpr ⟨fun id _ hstored => ?_, fun network _ dimension _ => ⟨hroom dimension, .inl rfl⟩⟩
  rw [hnone] at hstored
  cases hstored

/-- When the later stamped of two requests opens the windows of the network first,
the earlier one is answered `unavailable`. -/
theorem bothOrders_unavailable :
    Reachable sampleNode Database.initial ∧
      Admits sampleNode (sampleDependencies "scan-1") (sampleSnapshot 1 1000).persist
        Database.initial ∧
      Admits sampleNode (sampleDependencies "scan-2") (sampleSnapshot 2 1001).persist
        (createOrReplay sampleNode (sampleDependencies "scan-1") (sampleSnapshot 1 1000).persist
          Database.initial).2 ∧
      Admits sampleNode (sampleDependencies "scan-2") (sampleSnapshot 2 1001).persist
        Database.initial ∧
      (createOrReplay sampleNode (sampleDependencies "scan-1") (sampleSnapshot 1 1000).persist
        (createOrReplay sampleNode (sampleDependencies "scan-2") (sampleSnapshot 2 1001).persist
          Database.initial).2).1 = .unavailable := by
  refine ⟨⟨[], rfl⟩, ?_, ?_, ?_, ?_⟩ <;> decide +kernel

end Outscan

import Outscan.Quota.Conservation

/-! What the window counters count: the scans admitted since a window was
opened, and never more than the limit. -/
namespace Outscan

open Relational Transactional

/-! ### The account of a run -/

/-- A scan admitted at `now` for a session, charged to the active digest of its
network. -/
structure Charge where
  now : Nat
  session : Bytes32
  network : Bytes32
deriving DecidableEq

def Charge.digest (charge : Charge) : ScopeKind → Bytes32
  | .session => charge.session
  | .network => charge.network

def Call.charge : Call → Answer → Option Charge
  | .createOrReplay _ request, .createOrReplay (.ok (some _) _ _ _ _) =>
    request.networkSignalDigests.head?.map fun network =>
      ⟨request.trustedNow.toNat, request.guestSessionScope, network⟩
  | _, _ => none

def charges (node : NodeRuntime) : Database → List Call → List Charge
  | _, [] => []
  | db, call :: rest =>
    (call.charge (exec node db call).1).toList ++ charges node (exec node db call).2 rest

def WindowCounter.charged (row : WindowCounter) (charge : Charge) : Bool :=
  decide (charge.digest row.scopeKind = row.scopeDigest) &&
    decide (row.resetAt ≤ charge.now + expectedWindowSeconds row.dimension)

/-- Every window counts its charges in `log`. No charge of a window is later than
its end, and none under a key without a row is as late as `last`. -/
structure Tally (t : Tables) (log : List Charge) (last : Nat) : Prop where
  counted : ∀ key row, t.windowCounters.find? key = some row →
    row.usageCount = log.countP row.charged
  before : ∀ key row, t.windowCounters.find? key = some row →
    ∀ charge ∈ log, charge.digest key.1 = key.2.1 → charge.now < row.resetAt
  gone : ∀ key : WindowKey, key.1 = key.2.2.scopeKind → t.windowCounters.find? key = none →
    ∀ charge ∈ log, charge.digest key.1 = key.2.1 → charge.now < last

theorem Tally.mono {t : Tables} {log : List Charge} {last later : Nat} (h : Tally t log last)
    (hle : last ≤ later) : Tally t log later :=
  { h with gone := fun key hshape hkey charge hcharge hdigest =>
      (h.gone key hshape hkey charge hcharge hdigest).trans_le hle }

theorem Tally.congr {t t' : Tables} {log : List Charge} {last : Nat} (h : Tally t log last)
    (hsame : t'.windowCounters = t.windowCounters) : Tally t' log last := by
  obtain ⟨hcounted, hbefore, hgone⟩ := h
  rw [← hsame] at hcounted hbefore hgone
  exact ⟨hcounted, hbefore, hgone⟩

theorem charge_digest_iff {session network : Bytes32} {now : Nat} {key : WindowKey}
    (hshape : key.1 = key.2.2.scopeKind) :
    (⟨now, session, network⟩ : Charge).digest key.1 = key.2.1 ↔
      key ∈ (windowSpecs session network).map WindowCounterSpec.key := by
  obtain ⟨kind, digest, dimension⟩ := key
  dsimp only at hshape ⊢
  subst hshape
  cases dimension <;>
    simp [windowSpecs, WindowCounterSpec.key, WindowDimension.scopeKind, Charge.digest, eq_comm]

theorem window_key_shape {t : Tables} {key : WindowKey} {row : WindowCounter}
    (h : t.windowCounters.find? key = some row) :
    key = (row.scopeKind, row.scopeDigest, row.dimension) ∧ key.1 = key.2.2.scopeKind := by
  have hkey := Table.find?_key h
  subst hkey
  exact ⟨rfl, (Table.find?_check h).scope_shape⟩

theorem countP_charged_eq_zero {log : List Charge} {row : WindowCounter} {now : Nat}
    (hreset : row.resetAt = now + expectedWindowSeconds row.dimension)
    (hold : ∀ charge ∈ log, charge.digest row.scopeKind = row.scopeDigest → charge.now < now) :
    log.countP row.charged = 0 := by
  apply List.countP_eq_zero.mpr
  intro charge hcharge hcharged
  simp only [WindowCounter.charged, Bool.and_eq_true, decide_eq_true_eq] at hcharged
  have hbefore := hold charge hcharge hcharged.1
  omega

def Accounts (row : WindowCounter) (log : List Charge) : Prop :=
  row.usageCount = log.countP row.charged ∧
    ∀ charge ∈ log, charge.digest row.scopeKind = row.scopeDigest → charge.now < row.resetAt

section Admission

variable {log : List Charge} {now : Nat} {session network : Bytes32} {row : WindowCounter}

/-- A window that is opened at `now` covers the charge that opens it. -/
theorem accounts_opened
    (hcharge : (⟨now, session, network⟩ : Charge).digest row.scopeKind = row.scopeDigest)
    (hone : row.usageCount = 1) (hreset : row.resetAt = now + expectedWindowSeconds row.dimension)
    (hold : ∀ charge ∈ log, charge.digest row.scopeKind = row.scopeDigest → charge.now < now) :
    Accounts row (log ++ [⟨now, session, network⟩]) := by
  have hpositive : 0 < expectedWindowSeconds row.dimension := by
    cases row.dimension <;> decide
  have hcharged : row.charged ⟨now, session, network⟩ = true := by
    simp only [WindowCounter.charged, Bool.and_eq_true, decide_eq_true_eq]
    exact ⟨hcharge, hreset.le⟩
  constructor
  · rw [List.countP_append, countP_charged_eq_zero hreset hold, List.countP_singleton,
      if_pos hcharged, hone]
  · intro charge hmem hdigest
    rcases List.mem_append.mp hmem with hlog | hnew
    · have hbefore := hold charge hlog hdigest
      omega
    · rw [List.mem_singleton.mp hnew]
      change now < row.resetAt
      omega

theorem accounts_live {old : WindowCounter}
    (hcharge : (⟨now, session, network⟩ : Charge).digest old.scopeKind = old.scopeDigest)
    (hlive : now < old.resetAt) (hahead : old.resetAt ≤ now + expectedWindowSeconds old.dimension)
    (h : Accounts old log) :
    Accounts ((incrementWindow now).apply old) (log ++ [⟨now, session, network⟩]) := by
  have hcharged : old.charged ⟨now, session, network⟩ = true := by
    simp only [WindowCounter.charged, Bool.and_eq_true, decide_eq_true_eq]
    exact ⟨hcharge, hahead⟩
  constructor
  · change old.usageCount + 1 = List.countP old.charged _
    rw [List.countP_append, List.countP_singleton, if_pos hcharged, h.1]
  · intro charge hmem hdigest
    rcases List.mem_append.mp hmem with hlog | hnew
    · exact h.2 charge hlog hdigest
    · rw [List.mem_singleton.mp hnew]
      exact hlive

theorem accounts_other
    (hcharge : (⟨now, session, network⟩ : Charge).digest row.scopeKind ≠ row.scopeDigest)
    (h : Accounts row log) : Accounts row (log ++ [⟨now, session, network⟩]) := by
  have hcharged : ¬ row.charged ⟨now, session, network⟩ = true := by
    simp only [WindowCounter.charged, Bool.and_eq_true, decide_eq_true_eq]
    exact fun hboth => hcharge hboth.1
  constructor
  · rw [List.countP_append, List.countP_singleton, if_neg hcharged, Nat.add_zero, h.1]
  · intro charge hmem hdigest
    rcases List.mem_append.mp hmem with hlog | hnew
    · exact h.2 charge hlog hdigest
    · rw [List.mem_singleton.mp hnew] at hdigest
      exact absurd hdigest hcharge

end Admission

theorem Tally.accounts {t : Tables} {log : List Charge} {last : Nat} (h : Tally t log last)
    {key : WindowKey} {row : WindowCounter} (hrow : t.windowCounters.find? key = some row) :
    Accounts row log := by
  have hkey := (window_key_shape hrow).1
  refine ⟨h.counted key row hrow, fun charge hcharge hdigest => ?_⟩
  refine h.before key row hrow charge hcharge ?_
  rw [hkey]
  exact hdigest

theorem Tally.charged_window {t : Tables} {log : List Charge} {last now : Nat}
    {session network : Bytes32} {networks : List Bytes32} (h : Tally t log last)
    (hlast : last ≤ now) (hmem : network ∈ networks) (hahead : NotAhead t now session networks)
    {spec : WindowCounterSpec} (hspec : spec ∈ windowSpecs session network) {row : WindowCounter}
    (hrow : (openedWindow now spec (t.windowCounters.find? spec.key)).map
      (incrementWindow now).apply = some row) :
    Accounts row (log ++ [⟨now, session, network⟩]) := by
  obtain ⟨hkey, hseconds, -, -, -⟩ := windowSpec_shape hspec
  have hshape : spec.key.1 = spec.key.2.2.scopeKind := by rw [hkey]; rfl
  have hcharge : (⟨now, session, network⟩ : Charge).digest spec.key.1 = spec.key.2.1 :=
    (charge_digest_iff hshape).mpr (List.mem_map_of_mem hspec)
  cases hfind : t.windowCounters.find? spec.key with
  | none =>
    rw [hfind] at hrow
    cases hrow
    exact accounts_opened hcharge rfl (congrArg (now + ·) hseconds) fun charge hlog hdigest =>
      (h.gone _ hshape hfind charge hlog hdigest).trans_le hlast
  | some old =>
    have hold := h.accounts hfind
    have holdKey := (window_key_shape hfind).1
    have hdimension : old.dimension = spec.dimension :=
      (congrArg (fun key : WindowKey => key.2.2) holdKey).symm
    rw [holdKey] at hcharge
    rw [hfind] at hrow
    simp only [openedWindow, Option.map_some, Option.some.injEq] at hrow
    subst hrow
    split
    · rename_i hstale
      refine accounts_opened hcharge rfl ?_ fun charge hlog hdigest =>
        (hold.2 charge hlog hdigest).trans_le hstale
      change now + spec.windowSeconds = now + expectedWindowSeconds old.dimension
      rw [hseconds, hdimension]
    · rename_i hlive
      refine accounts_live hcharge (Nat.lt_of_not_le hlive) ?_ hold
      refine hahead old (Table.find?_mem hfind) ?_
      have hpresented := mem_digestsOf_of_mem hmem (windowSpec_digest hspec)
      rw [hkey] at holdKey
      simp only [windowKey, Prod.mk.injEq] at holdKey
      rw [← holdKey.1, ← holdKey.2.1]
      exact mem_digestsOf.mp hpresented

theorem Tally.reserved {t t' : Tables} {log : List Charge} {last now : Nat} {id : String}
    {session network : Bytes32} {networks : List Bytes32} (h : Tally t log last)
    (hlast : last ≤ now) (hmem : network ∈ networks) (hahead : NotAhead t now session networks)
    (hreserved : Reserved t t' id session network now) :
    Tally t' (log ++ [⟨now, session, network⟩]) now := by
  have haccounts : ∀ {key row}, t'.windowCounters.find? key = some row →
      Accounts row (log ++ [⟨now, session, network⟩]) := by
    intro key row hrow
    obtain ⟨hkey, hshape⟩ := window_key_shape hrow
    by_cases hcase : key ∈ (windowSpecs session network).map WindowCounterSpec.key
    · obtain ⟨spec, hspec, rfl⟩ := List.mem_map.mp hcase
      rw [hreserved.windows spec hspec] at hrow
      exact h.charged_window hlast hmem hahead hspec hrow
    · rw [hreserved.otherWindows key hcase] at hrow
      refine accounts_other (fun hdigest => hcase ?_) (h.accounts hrow)
      rw [← @charge_digest_iff _ _ now _ hshape, hkey]
      exact hdigest
  refine ⟨fun key row hrow => (haccounts hrow).1, fun key row hrow charge hcharge hdigest => ?_,
    fun key hshape hnone charge hcharge hdigest => ?_⟩
  · refine (haccounts hrow).2 charge hcharge ?_
    rw [(window_key_shape hrow).1] at hdigest
    exact hdigest
  · by_cases hcase : key ∈ (windowSpecs session network).map WindowCounterSpec.key
    · obtain ⟨spec, hspec, rfl⟩ := List.mem_map.mp hcase
      rw [hreserved.windows spec hspec] at hnone
      cases hfind : t.windowCounters.find? spec.key <;> rw [hfind] at hnone <;> cases hnone
    · rcases List.mem_append.mp hcharge with hlog | hnew
      · rw [hreserved.otherWindows key hcase] at hnone
        exact (h.gone key hshape hnone charge hlog hdigest).trans_le hlast
      · rw [List.mem_singleton.mp hnew] at hdigest
        exact absurd ((charge_digest_iff hshape).mp hdigest) hcase

/-! ### Calls -/

theorem Quiet.ofView {α : Type} (view : Tables → α)
    (hscans : ∀ next t, view (scansTable.put next t) = view t)
    (hattempts : ∀ next t, view (attemptsTable.put next t) = view t)
    (hresults : ∀ next t, view (resultsTable.put next t) = view t)
    (hslots : ∀ t active reservations,
      view { t with activeCounters := active, reservations := reservations } = view t) :
    Quiet fun t t' => view t' = view t := by
  refine Quiet.ofTables (fun _ => rfl) (fun _ _ _ hfirst hsecond => hsecond.trans hfirst) hscans
    hattempts hresults ?_
  intro id now reason t done t' h
  rcases releaseGuestAbuseReservation_ok h with ⟨-, hreleased⟩ | ⟨-, rfl | ⟨_, -, -, hmissing⟩⟩
  · rw [hreleased.rest]
    exact hslots t _ _
  · rfl
  · rcases hmissing with ⟨rfl, -⟩ | ⟨between, -, rfl, -⟩
    · rfl
    · exact hslots t between t.reservations

theorem quiet_windows : Quiet fun t t' => t'.windowCounters = t.windowCounters :=
  .ofView Tables.windowCounters (fun _ _ => rfl) (fun _ _ => rfl) (fun _ _ => rfl) fun _ _ _ => rfl

theorem Tally.kept {t t' : Tables} {log : List Charge} {last now : Nat} (h : Tally t log last)
    (hlast : last ≤ now) (hkept : WindowsKept now t t') : Tally t' log now := by
  have hstays : ∀ {key row}, t'.windowCounters.find? key = some row →
      t.windowCounters.find? key = some row := by
    intro key row hrow
    rcases hkept key with hsame | ⟨hnone, -⟩
    · exact hsame.symm.trans hrow
    · rw [hnone] at hrow
      cases hrow
  refine ⟨fun key row hrow => h.counted key row (hstays hrow),
    fun key row hrow => h.before key row (hstays hrow),
    fun key hshape hnone charge hcharge hdigest => ?_⟩
  rcases hkept key with hsame | ⟨-, row, hrow, hstale⟩
  · rw [hsame] at hnone
    exact (h.gone key hshape hnone charge hcharge hdigest).trans_le hlast
  · exact (h.before key row hrow charge hcharge hdigest).trans_le hstale

theorem charge_of_fails {dependencies : GuestPersistenceDependencies}
    {request : PersistGuestScanRequest} {answer : PersistGuestScanResult} (h : answer.Fails) :
    (Call.createOrReplay dependencies request).charge (.createOrReplay answer) = none := by
  cases answer with
  | ok action guestScanId token expiresAt expiresIn => exact h.elim
  | _ => rfl

theorem charge_of_created {dependencies : GuestPersistenceDependencies}
    {snapshot : SnapshotRequest} {network : Bytes32} {rest : List Bytes32} {action : CreateAction}
    {guestScanId token : String} {expiresAt expiresIn : Nat}
    (h : snapshot.networkSignalDigests = network :: rest) :
    (Call.createOrReplay dependencies snapshot.persist).charge
        (.createOrReplay (.ok (some action) guestScanId token expiresAt expiresIn)) =
      some ⟨snapshot.now, snapshot.guestSessionScope, network⟩ := by
  change snapshot.networkSignalDigests.head?.map _ = _
  rw [h]
  rfl

theorem exec_windows_of_none (node : NodeRuntime) (db : Database) {call : Call}
    (h : call.trustedNow = none) :
    (exec node db call).2.val.windowCounters = db.val.windowCounters ∧
      call.charge (exec node db call).1 = none := by
  have hcharge : call.charge (exec node db call).1 = none := by
    cases call with
    | createOrReplay dependencies request => cases h
    | _ => rfl
  refine ⟨?_, hcharge⟩
  cases hscan : call.scan? with
  | some id => exact quiet_windows.exec node db hscan
  | none =>
    cases call with
    | createOrReplay dependencies request => cases h
    | runBatch batchSize clock locked =>
      change (runBatch batchSize clock locked db).2.val.windowCounters = _
      rcases runBatch_cases batchSize clock locked db with hsame | ⟨now, hnow, -⟩
      · rw [hsame]
      · cases hnow.symm.trans h
    | setServiceState state => rfl
    | commit result transactionNow =>
      cases result with
      | none => rfl
      | some result => cases hscan
    | _ => cases hscan

/-- The step lemma of the account. -/
theorem exec_tally (node : NodeRuntime) {db : Database} {log : List Charge} {last : Nat}
    (h : Tally db.val log last) (call : Call) (hlast : ∀ now ∈ call.trustedNow, last ≤ now) :
    Tally (exec node db call).2.val (log ++ (call.charge (exec node db call).1).toList)
      (call.trustedNow.getD last) := by
  cases htrusted : call.trustedNow with
  | none =>
    obtain ⟨hsame, hcharge⟩ := exec_windows_of_none node db htrusted
    rw [hcharge, Option.toList_none, List.append_nil]
    exact h.congr hsame
  | some now =>
    have hle := hlast now htrusted
    cases call with
    | createOrReplay dependencies request =>
      cases htrusted
      have hexec : exec node db (.createOrReplay dependencies request) =
          (.createOrReplay (createOrReplay node dependencies request db).1,
            (createOrReplay node dependencies request db).2) := rfl
      rw [hexec]
      rcases createOrReplay_outcome node dependencies request db with
        ⟨hfails, hsame⟩ | ⟨snapshot, -, rfl, hout⟩
      · rw [charge_of_fails hfails, hsame, Option.toList_none, List.append_nil]
        exact h.mono hle
      · generalize createOrReplay node dependencies snapshot.persist db = result at hout ⊢
        obtain ⟨answer, db'⟩ := result
        dsimp only at hout ⊢
        generalize db'.val = t' at hout ⊢
        cases hout with
        | denied code decision => exact (List.append_nil log).symm ▸ h.mono hle
        | replayed guestScanId token expiresAt expiresIn decision =>
          exact (List.append_nil log).symm ▸ h.mono hle
        | admitted action guestScanId token nonce network rest cleared t' decision material
            networks clear admission =>
          rw [charge_of_created networks]
          have hmem : network ∈ snapshot.networkSignalDigests := by simp [networks]
          have hcleared : Tally { cleared with guestScans := t'.guestScans } log last :=
            h.congr clear.windows
          exact hcleared.reserved hle hmem admission.admissible.notAhead admission.reserved
    | runBatch batchSize clock locked =>
      change Tally (runBatch batchSize clock locked db).2.val (log ++ []) now
      rw [List.append_nil]
      rcases runBatch_cases batchSize clock locked db with hsame | ⟨at', hnow, hrun⟩
      · rw [hsame]
        exact h.mono hle
      · cases hnow.symm.trans htrusted
        exact h.kept hle (runBatchBody_ok hrun).2
    | _ => cases htrusted

/-- The run lemma of the account. -/
theorem run_tally (node : NodeRuntime) {calls : List Call} {db : Database} {log : List Charge}
    {last : Nat} (h : Tally db.val log last)
    (hordered : (last :: calls.filterMap Call.trustedNow).Pairwise (· ≤ ·)) :
    ∃ later, Tally (Machine.run (exec node) db calls).val (log ++ charges node db calls) later := by
  induction calls generalizing db log last with
  | nil => exact ⟨last, (List.append_nil log).symm ▸ h⟩
  | cons call rest ih =>
    obtain ⟨hfirst, hrest⟩ := List.pairwise_cons.mp hordered
    have hstep := exec_tally node h call fun now hnow =>
      hfirst now (List.mem_filterMap.mpr ⟨call, List.mem_cons_self .., hnow⟩)
    have hnext : (call.trustedNow.getD last :: rest.filterMap Call.trustedNow).Pairwise
        (· ≤ ·) := by
      cases htrusted : call.trustedNow with
      | none =>
        rw [List.filterMap_cons_none htrusted] at hordered
        exact hordered
      | some now =>
        rw [List.filterMap_cons_some htrusted] at hrest
        exact hrest
    obtain ⟨later, htally⟩ := ih hstep hnext
    rw [List.append_assoc] at htally
    exact ⟨later, htally⟩

theorem initial_tally : Tally Database.initial.val [] 0 where
  counted _ _ hrow := by cases hrow
  before _ _ hrow := by cases hrow
  gone _ _ _ _ hcharge := by cases hcharge

/-! ### The limits -/

/-- The live usage of one dimension over all digests in `scope`. -/
def Tables.usageIn (t : Tables) (now : Nat) (dimension : WindowDimension)
    (scope : Bytes32 → Bool) : Nat :=
  ((t.windowCounters.rows.filter fun row =>
    decide (row.dimension = dimension) && scope row.scopeDigest).map (liveUsage now)).sum

theorem sum_filter_le {ρ : Type} (rows : List ρ) (p q : ρ → Bool) (f : ρ → Nat)
    (h : ∀ row ∈ rows, p row = true → 0 < f row → q row = true) :
    ((rows.filter p).map f).sum ≤ ((rows.filter q).map f).sum := by
  induction rows with
  | nil => exact le_rfl
  | cons row rest ih =>
    have hrest := ih fun other hother => h other (List.mem_cons_of_mem _ hother)
    have hrow := h row (List.mem_cons_self ..)
    by_cases hp : p row = true <;> by_cases hq : q row = true
    · rw [List.filter_cons_of_pos hp, List.filter_cons_of_pos hq]
      exact Nat.add_le_add_left hrest _
    · have hzero : f row = 0 := by
        by_contra hne
        exact hq (hrow hp (Nat.pos_of_ne_zero hne))
      rw [List.filter_cons_of_pos hp, List.filter_cons_of_neg hq, List.map_cons, List.sum_cons,
        hzero, Nat.zero_add]
      exact hrest
    · rw [List.filter_cons_of_neg hp, List.filter_cons_of_pos hq, List.map_cons, List.sum_cons]
      exact hrest.trans (Nat.le_add_left _ _)
    · rw [List.filter_cons_of_neg hp, List.filter_cons_of_neg hq]
      exact hrest

theorem usageIn_le_windowUsage {t : Tables} {now : Nat} {session : Bytes32}
    {networks : List Bytes32} (hnodup : networks.Nodup) {dimension : WindowDimension}
    {scope : Bytes32 → Bool}
    (hcover : ∀ row ∈ t.windowCounters.rows, row.dimension = dimension → now < row.resetAt →
      scope row.scopeDigest = true →
      row.scopeDigest ∈ digestsOf session networks dimension.scopeKind) :
    t.usageIn now dimension scope ≤ t.windowUsage now session networks dimension := by
  rw [← sum_loaded_windows t now session hnodup, List.filter_filter]
  refine sum_filter_le _ _ _ _ fun row hrow hscope hused => ?_
  simp only [Bool.and_eq_true, decide_eq_true_eq] at hscope ⊢
  refine ⟨hscope.1, ?_⟩
  have hlive : now < row.resetAt := by
    by_contra hdead
    rw [liveUsage, if_neg hdead] at hused
    exact Nat.lt_irrefl 0 hused
  rw [(t.windowCounters.checked row hrow).scope_shape, hscope.1, ← mem_digestsOf]
  exact hcover row hrow hscope.1 hlive hscope.2

section Reserved

variable {t t' : Tables} {id : String} {session network : Bytes32} {now : Nat}

theorem Reserved.window_contribution (h : Reserved t t' id session network now)
    (dimension : WindowDimension) (digest : Bytes32) :
    t'.windowCounters.contribution (liveUsage now) (windowKey dimension digest) ≤
      t.windowCounters.contribution (liveUsage now) (windowKey dimension digest) +
        if digest ∈ digestsOf session [network] dimension.scopeKind then 1 else 0 := by
  unfold Table.contribution
  by_cases hcase : windowKey dimension digest ∈
      (windowSpecs session network).map WindowCounterSpec.key
  · obtain ⟨spec, hspec, hkey⟩ := List.mem_map.mp hcase
    have hshape := (windowSpec_shape hspec).1.symm.trans hkey
    simp only [windowKey, Prod.mk.injEq] at hshape
    have hdigest := windowSpec_digest hspec
    rw [hshape.2.1, hshape.2.2] at hdigest
    rw [if_pos hdigest, ← hkey, h.windows spec hspec]
    cases t.windowCounters.find? spec.key with
    | none =>
      simp only [openedWindow, freshWindow, Option.map_some, Option.getD_some]
      unfold liveUsage
      split <;> simp [incrementWindow, windowEdit]
    | some row =>
      simp only [openedWindow, Option.map_some, Option.getD_some]
      split
      · unfold liveUsage
        split <;> simp [incrementWindow, resetWindow, windowEdit]
      · unfold liveUsage
        change (if now < row.resetAt then row.usageCount + 1 else 0) ≤ _
        split <;> omega
  · rw [h.otherWindows _ hcase]
    exact Nat.le_add_right _ _

theorem Reserved.windowUsage_le (h : Reserved t t' id session network now)
    {networks : List Bytes32} (hnodup : networks.Nodup) (dimension : WindowDimension) :
    t'.windowUsage now session networks dimension ≤
      t.windowUsage now session networks dimension + 1 := by
  unfold Tables.windowUsage
  have hdigests := @digestsOf_nodup session _ hnodup dimension.scopeKind
  generalize digestsOf session networks dimension.scopeKind = digests at hdigests
  obtain ⟨charged, hcharged⟩ : ∃ charged,
      digestsOf session [network] dimension.scopeKind = [charged] := by
    cases dimension.scopeKind <;> exact ⟨_, rfl⟩
  have hstep := h.window_contribution dimension
  simp only [hcharged, List.mem_singleton] at hstep
  have hcount : (digests.map fun digest =>
      t'.windowCounters.contribution (liveUsage now) (windowKey dimension digest)).sum ≤
      (digests.map fun digest =>
        t.windowCounters.contribution (liveUsage now) (windowKey dimension digest)).sum +
        digests.count charged := by
    clear hdigests
    induction digests with
    | nil => exact le_rfl
    | cons digest rest ih =>
      have hdigest := hstep digest
      rw [List.map_cons, List.sum_cons, List.map_cons, List.sum_cons, List.count_cons]
      simp only [beq_iff_eq]
      omega
  have hone := List.nodup_iff_count_le_one.mp hdigests charged
  omega

theorem Reserved.mem_of_live (h : Reserved t t' id session network now) {networks : List Bytes32}
    (hmem : network ∈ networks) {row : WindowCounter} (hrow : row ∈ t'.windowCounters.rows) :
    row ∈ t.windowCounters.rows ∨
      row.scopeDigest ∈ digestsOf session networks row.dimension.scopeKind := by
  have hfind := Table.find?_of_mem hrow
  by_cases hcase : Schema.key row ∈ (windowSpecs session network).map WindowCounterSpec.key
  · obtain ⟨spec, hspec, hkey⟩ := List.mem_map.mp hcase
    have hpresented := mem_digestsOf_of_mem hmem (windowSpec_digest hspec)
    simp only [WindowCounterSpec.key, Schema.key, Prod.mk.injEq] at hkey
    rw [hkey.2.1, hkey.2.2] at hpresented
    exact .inr hpresented
  · exact .inl (Table.find?_mem ((h.otherWindows _ hcase).symm.trans hfind))

end Reserved

theorem Admitted.usageIn_le {request : SnapshotRequest} {network : Bytes32} {row : GuestScan}
    {t cleared t' : Tables} (h : Admitted request network row cleared t')
    (hwindows : cleared.windowCounters = t.windowCounters)
    (hnodup : request.networkSignalDigests.Nodup) (hmem : network ∈ request.networkSignalDigests)
    {dimension : WindowDimension} {scope : Bytes32 → Bool}
    (hcover : ∀ row ∈ t.windowCounters.rows, row.dimension = dimension →
      request.now < row.resetAt → scope row.scopeDigest = true →
      row.scopeDigest ∈ digestsOf request.guestSessionScope request.networkSignalDigests
        dimension.scopeKind) :
    t'.usageIn request.now dimension scope ≤ windowLimit dimension := by
  have hbelow := h.admissible.windows dimension
  have hle : t'.usageIn request.now dimension scope ≤
      t'.windowUsage request.now request.guestSessionScope request.networkSignalDigests
        dimension := by
    refine usageIn_le_windowUsage hnodup fun row hrow hdimension hlive hscope => ?_
    rcases h.reserved.mem_of_live hmem hrow with hbefore | hpresented
    · exact hcover row (hwindows ▸ hbefore) hdimension hlive hscope
    · rwa [hdimension] at hpresented
  have hone := h.reserved.windowUsage_le hnodup dimension
  change _ ≤ cleared.windowUsage _ _ _ _ + 1 at hone
  omega

/-- The request presents every digest of `scope` that has a live window. -/
def PresentsLive (t : Tables) (request : PersistGuestScanRequest) (dimension : WindowDimension)
    (scope : Bytes32 → Bool) : Prop :=
  ∀ row ∈ t.windowCounters.rows, row.dimension = dimension →
    request.trustedNow.toNat < row.resetAt → scope row.scopeDigest = true →
    row.scopeDigest ∈ digestsOf request.guestSessionScope request.networkSignalDigests
      dimension.scopeKind

instance (t : Tables) (request : PersistGuestScanRequest) (dimension : WindowDimension)
    (scope : Bytes32 → Bool) : Decidable (PresentsLive t request dimension scope) :=
  inferInstanceAs (Decidable (∀ row ∈ t.windowCounters.rows, _))

theorem createOrReplay_charge (node : NodeRuntime) (db : Database)
    (dependencies : GuestPersistenceDependencies) (request : PersistGuestScanRequest) :
    let call := Call.createOrReplay dependencies request
    let after := exec node db call
    (call.charge after.1 = none → after.2 = db) ∧
      ∀ charge, call.charge after.1 = some charge →
        charge.now = request.trustedNow.toNat ∧ charge.session = request.guestSessionScope ∧
        request.networkSignalDigests.head? = some charge.network ∧
        ∀ dimension scope, PresentsLive db.val request dimension scope →
          after.2.val.usageIn charge.now dimension scope ≤ windowLimit dimension := by
  have hexec : exec node db (.createOrReplay dependencies request) =
      (.createOrReplay (createOrReplay node dependencies request db).1,
        (createOrReplay node dependencies request db).2) := rfl
  dsimp only
  rw [hexec]
  rcases createOrReplay_outcome node dependencies request db with
    ⟨hfails, hsame⟩ | ⟨snapshot, hwell, rfl, hout⟩
  · rw [charge_of_fails hfails, hsame]
    exact ⟨fun _ => rfl, fun charge hcharge => by cases hcharge⟩
  · have hsame : (createOrReplay node dependencies snapshot.persist db).2.val = db.val →
        (createOrReplay node dependencies snapshot.persist db).2 = db := Subtype.ext
    generalize createOrReplay node dependencies snapshot.persist db = result at hout hsame ⊢
    obtain ⟨answer, db'⟩ := result
    dsimp only at hout hsame ⊢
    generalize db'.val = t' at hout hsame ⊢
    cases hout with
    | denied code decision => exact ⟨fun _ => hsame rfl, fun charge hcharge => by cases hcharge⟩
    | replayed guestScanId token expiresAt expiresIn decision =>
      exact ⟨fun _ => hsame rfl, fun charge hcharge => by cases hcharge⟩
    | admitted action guestScanId token nonce network rest cleared t' decision material
        networks clear admission =>
      have hhead : snapshot.persist.networkSignalDigests.head? = some network := by
        change snapshot.networkSignalDigests.head? = _
        rw [networks]
        rfl
      rw [charge_of_created networks]
      refine ⟨fun hnone => (by cases hnone), fun charge hsome => ?_⟩
      cases hsome
      refine ⟨rfl, rfl, hhead, fun dimension scope hpresents => ?_⟩
      exact admission.usageIn_le clear.windows hwell.nodup (by simp [networks]) hpresents

/-- In every run with trusted times in order, each window counts the scans
admitted and charged to it since it was opened; a further call for a scan is
charged only when it is admitted, and then leaves every scope whose live windows
it presents within its limit. -/
theorem windowQuotas (node : NodeRuntime) (calls : List Call)
    (hordered : (calls.filterMap Call.trustedNow).Pairwise (· ≤ ·)) :
    let db := Machine.run (exec node) Database.initial calls
    (∀ row ∈ db.val.windowCounters.rows,
      row.usageCount = (charges node Database.initial calls).countP row.charged) ∧
    ∀ dependencies request,
      let call := Call.createOrReplay dependencies request
      let after := exec node db call
      (call.charge after.1 = none → after.2 = db) ∧
        ∀ charge, call.charge after.1 = some charge →
          charge.now = request.trustedNow.toNat ∧ charge.session = request.guestSessionScope ∧
          request.networkSignalDigests.head? = some charge.network ∧
          ∀ dimension scope, PresentsLive db.val request dimension scope →
            after.2.val.usageIn charge.now dimension scope ≤ windowLimit dimension := by
  intro db
  have hordered' : (0 :: calls.filterMap Call.trustedNow).Pairwise (· ≤ ·) :=
    List.pairwise_cons.mpr ⟨fun now _ => Nat.zero_le now, hordered⟩
  obtain ⟨later, htally⟩ := run_tally node initial_tally hordered'
  rw [List.nil_append] at htally
  exact ⟨fun row hrow => htally.counted _ row (Table.find?_of_mem hrow),
    fun dependencies request => createOrReplay_charge node db dependencies request⟩

/-- Two sessions of one network: the second scan is charged to it, and stays
within its limit. -/
theorem windowQuotas_sample :
    let db := Machine.run (exec sampleNode) Database.initial sampleCalls
    let call := Call.createOrReplay (sampleDependencies "scan-2") (sampleRequest 2 1010)
    (∀ row ∈ db.val.windowCounters.rows, row.usageCount =
      (charges sampleNode Database.initial sampleCalls).countP row.charged) ∧
    db.val.windowCounters.rows.length = 4 ∧
    (exec sampleNode db call).2.val.usageIn 1010 .networkBurst (fun _ => true) ≤ 20 := by
  have hordered : (sampleCalls.filterMap Call.trustedNow).Pairwise (· ≤ ·) := by
    decide
  have h := windowQuotas sampleNode sampleCalls hordered
  refine ⟨h.1, by decide +kernel, ?_⟩
  have hcharge : (Call.createOrReplay (sampleDependencies "scan-2") (sampleRequest 2 1010)).charge
      (exec sampleNode (Machine.run (exec sampleNode) Database.initial sampleCalls)
        (.createOrReplay (sampleDependencies "scan-2") (sampleRequest 2 1010))).1 =
      some ⟨1010, Bytes32.fill 2, Bytes32.fill 4⟩ := by
    decide +kernel
  have hpresents : PresentsLive (Machine.run (exec sampleNode) Database.initial sampleCalls).val
      (sampleRequest 2 1010) .networkBurst (fun _ => true) := by
    decide +kernel
  exact ((h.2 _ _).2 _ hcharge).2.2.2 _ _ hpresents

end Outscan

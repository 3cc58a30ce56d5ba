import Outscan.Persistence.System

/-! The active counters count the unreleased reservations. -/
namespace Outscan

open Relational Transactional

def activeKey : ScopeKind → Bytes32 → ActiveKey
  | .session, digest => (.session, digest, .sessionActive)
  | .network, digest => (.network, digest, .networkActive)

theorem activeKey_inj {kind kind' : ScopeKind} {digest digest' : Bytes32} :
    activeKey kind digest = activeKey kind' digest' ↔ kind = kind' ∧ digest = digest' := by
  cases kind <;> cases kind' <;> simp [activeKey]

def storedCount (count : Nat) : Option Nat := if count = 0 then none else some count

def Tables.activeCount (t : Tables) (key : ActiveKey) : Option Nat :=
  (t.activeCounters.find? key).map ActiveCounter.activeCount

/-- The outcome of one decrement of the counter under `key`. -/
def decremented (t : Tables) (key : ActiveKey) (active : Table ActiveCounter) : Prop :=
  ∃ count, t.activeCount key = some (count + 1) ∧
    ∀ j, (active.find? j).map ActiveCounter.activeCount =
      if j = key then storedCount count else t.activeCount j

theorem decrementAndRemove_ok {now : Nat} {spec : ActiveCounterSpec} {t t' : Tables}
    {done : Bool} (h : (decrementAndRemove now spec).run t = .ok (done, t')) :
    (done = false ∧ t' = t ∧ ∀ row, t.activeCounters.find? spec.key = some row →
        row.activeCount = 0) ∨
      (done = true ∧ ∃ active, decremented t spec.key active ∧
        t' = { t with activeCounters := active }) := by
  unfold decrementAndRemove at h
  rw [Tx.run_bind_ok] at h
  obtain ⟨result, mid, hupdate, hrest⟩ := h
  cases result with
  | none =>
    obtain ⟨rfl, hzero⟩ := Tx.run_update_none_ok.mp hupdate
    obtain ⟨rfl, rfl⟩ := Tx.run_pure_ok.mp hrest
    refine .inl ⟨rfl, rfl, fun row hrow => ?_⟩
    have := hzero row hrow
    omega
  | some row =>
    obtain ⟨old, hfind, hpos, -, -, rfl, next, hrows, rfl⟩ := Tx.run_update_some_ok.mp hupdate
    have hnext : ∀ j, next.find? j =
        if j = spec.key then some ((decrementCount now).apply old)
        else t.activeCounters.find? j := by
      intro j
      rw [Table.find?_of_rows_edited hrows]
      change (if j = spec.key then (t.activeCounters.find? spec.key).map _ else _) = _
      change t.activeCounters.find? spec.key = some old at hfind
      rw [hfind]
      rfl
    have hcount : t.activeCount spec.key = some (old.activeCount - 1 + 1) := by
      unfold Tables.activeCount
      change t.activeCounters.find? spec.key = some old at hfind
      rw [hfind, Option.map_some, Nat.sub_add_cancel hpos]
    have happly : ((decrementCount now).apply old).activeCount = old.activeCount - 1 := rfl
    dsimp only at hrest
    split at hrest
    · rename_i hne
      obtain ⟨rfl, rfl⟩ := Tx.run_pure_ok.mp hrest
      refine .inr ⟨rfl, next, ⟨_, hcount, fun j => ?_⟩, rfl⟩
      rw [hnext]
      split
      · rw [Option.map_some, happly, storedCount, if_neg (happly ▸ hne)]
      · rfl
    · rename_i hzero
      have hzero' : ((decrementCount now).apply old).activeCount = 0 := not_not.mp hzero
      rw [Tx.run_bind_ok] at hrest
      obtain ⟨removed, last, hdelete, hpure⟩ := hrest
      obtain ⟨hremoved, rfl⟩ := Tx.run_delete_ok.mp hdelete
      obtain ⟨rfl, rfl⟩ := Tx.run_pure_ok.mp hpure
      have hone : removed = 1 := by
        rw [hremoved]
        exact Table.countP_key (p := fun row => decide (row.activeCount = 0))
          ((hnext spec.key).trans (if_pos rfl)) (by simp [hzero'])
      refine .inr ⟨by simp [hone], _, ⟨_, hcount, fun j => ?_⟩, rfl⟩
      change ((next.erase _).find? j).map _ = _
      rw [Table.find?_erase, hnext]
      split
      · rename_i hj
        have hkey := Table.find?_key ((hnext spec.key).trans (if_pos rfl))
        rw [happly] at hzero'
        simp [hkey, happly, hzero', storedCount]
      · rename_i hj
        cases hother : t.activeCounters.find? j with
        | none => simp [Tables.activeCount, hother]
        | some other =>
          have hkey : Schema.key other = j := Table.find?_key hother
          simp [Tables.activeCount, hother, hkey, hj]

theorem decrementAndRemove_of_pos {now : Nat} {spec : ActiveCounterSpec} {t : Tables}
    {row : ActiveCounter} (hfind : t.activeCounters.find? spec.key = some row)
    (hpos : 0 < row.activeCount) (hnow : now < timestampEnd) :
    ∃ t', (decrementAndRemove now spec).run t = .ok (true, t') := by
  have hold : row.Constraints := Table.find?_check hfind
  have hcheck : ((decrementCount now).apply row).Constraints := by
    refine ⟨?_, hold.scope_shape, hnow⟩
    have := hold.active
    change row.activeCount - 1 ≤ 1000000
    omega
  obtain ⟨next, hrows⟩ := Table.exists_edited hfind hcheck
  have hupdate : (Tx.update activeTable TxError.database (fun _ _ => True) spec.key
      (fun row => 0 < row.activeCount) (decrementCount now)).run t =
      .ok (some ((decrementCount now).apply row), { t with activeCounters := next }) :=
    Tx.run_update_some_ok.mpr ⟨row, hfind, hpos, trivial, hcheck, rfl, next, hrows, rfl⟩
  have hnext : next.find? spec.key = some ((decrementCount now).apply row) := by
    rw [Table.find?_of_rows_edited hrows, if_pos rfl, hfind]
    rfl
  unfold decrementAndRemove
  rw [Tx.run_bind_of_ok hupdate]
  dsimp only
  by_cases hzero : ((decrementCount now).apply row).activeCount = 0
  · rw [if_neg (not_not.mpr hzero), Tx.run_bind_of_ok (Tx.run_delete ..)]
    have hone := Table.countP_key (p := fun row => decide (row.activeCount = 0)) hnext
      (by simp [hzero])
    exact ⟨_, Tx.run_pure_ok.mpr ⟨by simp [activeTable, hone], rfl⟩⟩
  · rw [if_pos hzero]
    exact ⟨_, rfl⟩

theorem decrementActiveCounter_eq (now : Nat) (spec : ActiveCounterSpec) :
    decrementActiveCounter now spec = decrementAndRemove now spec := by
  unfold decrementActiveCounter decrementAndRemove
  refine Tx.bind_congr fun t result mid hupdate => ?_
  cases result with
  | none => rfl
  | some row =>
    dsimp only
    obtain ⟨old, hfind, -, -, -, rfl, next, hrows, rfl⟩ := Tx.run_update_some_ok.mp hupdate
    by_cases hzero : ((decrementCount now).apply old).activeCount = 0
    · rw [if_pos hzero, if_neg (not_not.mpr hzero), Tx.run_bind_of_ok (Tx.run_delete ..),
        Tx.run_bind_of_ok (Tx.run_delete ..)]
      have hnext : next.find? spec.key = some ((decrementCount now).apply old) := by
        rw [Table.find?_of_rows_edited hrows, if_pos rfl, hfind]
        rfl
      have hone := Table.countP_key (p := fun row => decide (row.activeCount = 0)) hnext
        (by simp [hzero])
      have hcount : (activeTable.get (activeTable.put next t)).rows.countP
          (fun row => decide (Schema.key row = spec.key) && decide (row.activeCount = 0)) = 1 :=
        hone
      rw [Tx.run_bind_of_ok (Tx.run_ensure_of hcount _), hcount]
      rfl
    · rw [if_neg hzero, if_pos hzero]

/-! ### release -/

/-- What a release that reports success did: nothing for a reservation that was
released before, else one decrement of both counters and the release mark. -/
def Released (id : String) (now : Nat) (reason : ReleaseReason) (t t' : Tables) : Prop :=
  ∃ row, t.reservations.find? id = some row ∧
    ((row.released.isSome ∧ t' = t) ∨
      (row.released = none ∧ row.reservedAt ≤ now ∧ now ≤ row.deletionDeadline ∧
        ∃ active between reservations,
          decremented t (activeKey .network row.networkSignalDigest) between ∧
          decremented { t with activeCounters := between } (activeKey .session row.guestSessionScope)
            active ∧
          reservations.rows = t.reservations.edited id (markReleased now reason) ∧
          t' = { t with activeCounters := active, reservations := reservations }))

def CounterMissing (session network : Bytes32) (t t' : Tables) : Prop :=
  (t' = t ∧ ∀ counter, t.activeCounters.find? (activeKey .network network) = some counter →
      counter.activeCount = 0) ∨
    ∃ between, decremented t (activeKey .network network) between ∧
      t' = { t with activeCounters := between } ∧
      ∀ counter, between.find? (activeKey .session session) = some counter → counter.activeCount = 0

theorem decrementAll_ok {now : Nat} {session network : Bytes32} {t t' : Tables} {done : Bool}
    (h : (decrementAll now (activeSpecs session network)).run t = .ok (done, t')) :
    (done = true ∧ ∃ active between, decremented t (activeKey .network network) between ∧
        decremented { t with activeCounters := between } (activeKey .session session) active ∧
        t' = { t with activeCounters := active }) ∨
      (done = false ∧ CounterMissing session network t t') := by
  simp only [activeSpecs, decrementAll] at h
  rw [Tx.run_bind_ok] at h
  obtain ⟨first, mid, hfirst, hrest⟩ := h
  rcases decrementAndRemove_ok hfirst with ⟨rfl, rfl, hzero⟩ | ⟨rfl, between, hbetween, rfl⟩
  · obtain ⟨rfl, rfl⟩ := Tx.run_pure_ok.mp hrest
    exact .inr ⟨rfl, .inl ⟨rfl, hzero⟩⟩
  · simp only [if_true] at hrest
    rw [Tx.run_bind_ok] at hrest
    obtain ⟨second, last, hsecond, hpure⟩ := hrest
    rcases decrementAndRemove_ok hsecond with ⟨rfl, rfl, hzero⟩ | ⟨rfl, active, hactive, rfl⟩
    · obtain ⟨rfl, rfl⟩ := Tx.run_pure_ok.mp hpure
      exact .inr ⟨rfl, .inr ⟨between, hbetween, rfl, hzero⟩⟩
    · obtain ⟨rfl, rfl⟩ := Tx.run_pure_ok.mp hpure
      exact .inl ⟨rfl, active, between, hbetween, hactive, rfl⟩

theorem releaseGuestAbuseReservation_ok {id : String} {now : Nat} {reason : ReleaseReason}
    {t t' : Tables} {done : Bool}
    (h : (releaseGuestAbuseReservation id now reason).run t = .ok (done, t')) :
    (done = true ∧ Released id now reason t t') ∨
      (done = false ∧ (t' = t ∨ ∃ row, t.reservations.find? id = some row ∧
        row.released = none ∧
        CounterMissing row.guestSessionScope row.networkSignalDigest t t')) := by
  unfold releaseGuestAbuseReservation at h
  rw [Tx.run_bind_get] at h
  cases hfind : t.reservations.find? id with
  | none =>
    simp only [hfind] at h
    obtain ⟨rfl, rfl⟩ := Tx.run_pure_ok.mp h
    exact .inr ⟨rfl, .inl rfl⟩
  | some row =>
    simp only [hfind] at h
    split at h
    · rename_i hreleased
      obtain ⟨rfl, rfl⟩ := Tx.run_pure_ok.mp h
      exact .inl ⟨rfl, row, hfind, .inl ⟨hreleased, rfl⟩⟩
    · rename_i hreleased
      have hnone : row.released = none := by simpa using hreleased
      split at h
      · obtain ⟨rfl, rfl⟩ := Tx.run_pure_ok.mp h
        exact .inr ⟨rfl, .inl rfl⟩
      · rename_i hwindow
        rw [Tx.run_bind_ok] at h
        obtain ⟨counted, mid, hcounted, h⟩ := h
        rcases decrementAll_ok hcounted with
          ⟨rfl, active, between, hbetween, hactive, rfl⟩ | ⟨rfl, hmissing⟩
        · simp only [if_true] at h
          rw [Tx.run_bind_ok] at h
          obtain ⟨result, last, hupdate, h⟩ := h
          cases result with
          | none =>
            have hzero := (Tx.run_update_none_ok.mp hupdate).2 row hfind
            exact absurd hnone hzero
          | some marked =>
            obtain ⟨rfl, rfl⟩ := Tx.run_pure_ok.mp h
            obtain ⟨old, -, -, -, -, -, reservations, hrows, rfl⟩ :=
              Tx.run_update_some_ok.mp hupdate
            exact .inl ⟨rfl, row, hfind, .inr ⟨hnone, by omega, by omega, active, between,
              reservations, hbetween, hactive, hrows, rfl⟩⟩
        · simp only [Bool.false_eq_true, if_false] at h
          obtain ⟨rfl, rfl⟩ := Tx.run_pure_ok.mp h
          exact .inr ⟨rfl, .inr ⟨row, rfl, hnone, hmissing⟩⟩

/-! ### Counting -/

def Reservation.digest (row : Reservation) : ScopeKind → Bytes32
  | .session => row.guestSessionScope
  | .network => row.networkSignalDigest

@[simp] theorem Reservation.digest_session (row : Reservation) :
    row.digest .session = row.guestSessionScope := rfl

@[simp] theorem Reservation.digest_network (row : Reservation) :
    row.digest .network = row.networkSignalDigest := rfl

def Reservation.holds (kind : ScopeKind) (digest : Bytes32) (row : Reservation) : Bool :=
  row.released.isNone && decide (row.digest kind = digest)

/-- The unreleased reservations of a scope. -/
def Tables.held (t : Tables) (kind : ScopeKind) (digest : Bytes32) : Nat :=
  t.reservations.rows.countP (Reservation.holds kind digest)

/-- Every active counter is the number of unreleased reservations of its scope,
and a scope without any has no row. -/
def Counted (t : Tables) : Prop :=
  ∀ kind digest, t.activeCount (activeKey kind digest) = storedCount (t.held kind digest)

theorem storedCount_eq_some {count n : Nat} : storedCount count = some n ↔ n = count ∧ 0 < n := by
  unfold storedCount
  split
  · simp only [reduceCtorEq, false_iff]
    omega
  · simp only [Option.some.injEq]
    omega

theorem Counted.congr {t t' : Tables} (hactive : t'.activeCounters = t.activeCounters)
    (hreservations : t'.reservations = t.reservations) (h : Counted t) : Counted t' := by
  intro kind digest
  have hkey := h kind digest
  unfold Tables.activeCount Tables.held at *
  rw [hactive, hreservations]
  exact hkey

theorem held_of_edited {t : Tables} {id : String} {row : Reservation} {now : Nat}
    {reason : ReleaseReason} {reservations : Table Reservation}
    (hfind : t.reservations.find? id = some row) (hnone : row.released = none)
    (hrows : reservations.rows = t.reservations.edited id (markReleased now reason))
    (kind : ScopeKind) (digest : Bytes32) :
    reservations.rows.countP (Reservation.holds kind digest) +
      (if row.digest kind = digest then 1 else 0) = t.held kind digest := by
  have hcount := Table.countP_edited (markReleased now reason) (Reservation.holds kind digest)
    hfind
  have hafter : Reservation.holds kind digest ((markReleased now reason).apply row) = false := rfl
  have hbefore : Reservation.holds kind digest row = decide (row.digest kind = digest) := by
    simp [Reservation.holds, hnone]
  rw [hafter, hbefore] at hcount
  rw [hrows]
  simpa [Tables.held] using hcount

theorem decremented_twice {t : Tables} {first second : ActiveKey} {between active : Table ActiveCounter}
    (hne : first ≠ second) (hfirst : decremented t first between)
    (hsecond : decremented { t with activeCounters := between } second active) (j : ActiveKey) :
    (active.find? j).map ActiveCounter.activeCount =
      if j = first ∨ j = second then (t.activeCount j).bind fun count => storedCount (count - 1)
      else t.activeCount j := by
  obtain ⟨firstCount, hfirstCount, hfirst⟩ := hfirst
  obtain ⟨secondCount, hsecondCount, hsecond⟩ := hsecond
  have hbetween : t.activeCount second = some (secondCount + 1) := by
    have hkept := hfirst second
    rw [if_neg hne.symm] at hkept
    exact hkept.symm.trans hsecondCount
  rw [hsecond]
  by_cases hjsecond : j = second
  · rw [if_pos hjsecond, if_pos (.inr hjsecond), hjsecond, hbetween]
    rfl
  · rw [if_neg hjsecond]
    refine (hfirst j).trans ?_
    by_cases hjfirst : j = first
    · rw [if_pos hjfirst, if_pos (.inl hjfirst), hjfirst, hfirstCount]
      rfl
    · rw [if_neg hjfirst, if_neg (by simp [hjfirst, hjsecond])]

def CountedBut (row : Reservation) (t : Tables) (active : Table ActiveCounter) : Prop :=
  ∀ kind digest, (active.find? (activeKey kind digest)).map ActiveCounter.activeCount =
    storedCount (t.held kind digest - if row.digest kind = digest then 1 else 0)

theorem countedBut_of_decremented {t : Tables} {row : Reservation} {active : Table ActiveCounter}
    (hcounted : Counted t)
    (hactive : ∀ j, (active.find? j).map ActiveCounter.activeCount =
      if j = activeKey .network row.networkSignalDigest ∨
          j = activeKey .session row.guestSessionScope then
        (t.activeCount j).bind fun count => storedCount (count - 1)
      else t.activeCount j) : CountedBut row t active := by
  intro kind digest
  have hkey : (activeKey kind digest = activeKey .network row.networkSignalDigest ∨
      activeKey kind digest = activeKey .session row.guestSessionScope) ↔
      row.digest kind = digest := by
    cases kind <;> simp [activeKey_inj, eq_comm]
  rw [hactive, hcounted]
  by_cases hdigest : row.digest kind = digest
  · rw [if_pos (hkey.mpr hdigest), if_pos hdigest]
    unfold storedCount
    by_cases hzero : t.held kind digest = 0
    · simp [hzero]
    · rw [if_neg hzero, Option.bind_some]
  · rw [if_neg (mt hkey.mp hdigest), if_neg hdigest, Nat.sub_zero]

theorem Counted.released {t t' : Tables} {id : String} {now : Nat} {reason : ReleaseReason}
    (hcounted : Counted t) (h : Released id now reason t t') : Counted t' := by
  obtain ⟨row, hfind, ⟨-, rfl⟩ | ⟨hnone, -, -, active, between, reservations, hbetween, hactive,
    hrows, rfl⟩⟩ := h
  · exact hcounted
  · intro kind digest
    have hcount := countedBut_of_decremented hcounted
      (decremented_twice (by simp [activeKey_inj]) hbetween hactive) kind digest
    have hheld := held_of_edited hfind hnone hrows kind digest
    change (active.find? _).map _ = storedCount (reservations.rows.countP _)
    rw [hcount]
    congr 1
    omega

end Outscan

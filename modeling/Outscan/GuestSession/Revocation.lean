import Mathlib.Data.List.Lex
import Outscan.Library.Datum
import Outscan.Library.Expiring
import Outscan.Library.Run
import Outscan.Persistence.Schema
import Outscan.ResultEnvelope.Codec

/-! Revoked Guest sessions. A row holds a session revoked for a day, counted from
the second of the revocation; times are in microseconds. -/
namespace Outscan

open Relational Dynamic

def secondMicros : Nat := 1000000

/-- `interval '24 hours'`. -/
def revocationMicros : Nat := 24 * 60 * 60 * secondMicros

/-- `date_trunc('second', …)`. -/
def truncSecond (moment : Nat) : Nat := moment / secondMicros * secondMicros

/-- A row of `guest_session_revocations`. -/
structure RevocationRow where
  guestSessionScope : Bytes32
  revokedAt : Nat
  expiresAt : Nat
deriving DecidableEq, Repr

/-- `guest_session_revocation_time_contract`. -/
def revocationTimeContract (row : RevocationRow) : Bool :=
  decide (truncSecond row.revokedAt = row.revokedAt) &&
    decide (truncSecond row.expiresAt = row.expiresAt) &&
    decide (row.expiresAt = row.revokedAt + revocationMicros)

instance : Schema RevocationRow Bytes32 where
  key row := row.guestSessionScope
  Distinct a b := a.guestSessionScope ≠ b.guestSessionScope
  Check row := revocationTimeContract row = true
  distinct_symm h := h.symm
  key_ne h := h
  distinctDec _ _ := inferInstance
  checkDec _ := inferInstance

abbrev Revocations := Table RevocationRow

/-! ### The transactions -/

/-- The row that revokes at `now`. -/
def revocationRow (scope : Bytes32) (now : Nat) : RevocationRow :=
  ⟨scope, truncSecond now, truncSecond now + revocationMicros⟩

/-- The query of `is_revoked`. -/
def revokedAt (table : Revocations) (scope : Bytes32) (now : Nat) : Bool :=
  table.rows.any fun row => decide (row.guestSessionScope = scope) && decide (now < row.expiresAt)

/-- `INSERT … ON CONFLICT (guest_session_scope) DO NOTHING`: whether a row was
inserted. `none` is a time the database cannot hold. -/
def insertRevocation (table : Revocations) (scope : Bytes32) (now : Nat) :
    Option (Bool × Revocations) :=
  if timestampEnd * secondMicros ≤ truncSecond now + revocationMicros then none
  else
    match table.find? scope with
    | some _ => some (false, table)
    | none =>
      match table.insert (revocationRow scope now) with
      | .ok after => some (true, after)
      | .error _ => none

/-- What `revoke` clears first: the row of the scope, once it has run out. -/
def clearedRevocations (table : Revocations) (scope : Bytes32) (now : Nat) : Revocations :=
  table.erase fun row => decide (row.guestSessionScope = scope) && decide (row.expiresAt ≤ now)

/-- The transaction of `revoke`; `none` is a rollback. -/
def revokeScope (table : Revocations) (scope : Bytes32) (now : Nat) :
    Option (Bool × Revocations) :=
  (insertRevocation (clearedRevocations table scope now) scope now).filter fun (_, after) =>
    (after.find? scope).any fun row => decide (now < row.expiresAt)

/-- `ORDER BY expires_at, guest_session_scope`. -/
def expiresBefore (a b : RevocationRow) : Bool :=
  decide (a.expiresAt < b.expiresAt) ||
    (decide (a.expiresAt = b.expiresAt) &&
      decide (a.guestSessionScope.bytes.map UInt8.toNat ≤ b.guestSessionScope.bytes.map UInt8.toNat))

/-- The rows `due`; those that another transaction has locked are skipped. -/
def dueRevocations (table : Revocations) (size : Nat) (locked : Bytes32 → Bool) (now : Nat) :
    List RevocationRow :=
  ((table.rows.filter fun row =>
    decide (row.expiresAt ≤ now) && !locked row.guestSessionScope).mergeSort expiresBefore).take size

/-- The first statement of `pruneExpired`: how many rows it deleted. -/
def deleteDueRevocations (table : Revocations) (size : Nat) (locked : Bytes32 → Bool) (now : Nat) :
    Nat × Revocations :=
  let due := (dueRevocations table size locked now).map RevocationRow.guestSessionScope
  (table.rows.countP fun row => due.contains row.guestSessionScope,
    table.erase fun row => due.contains row.guestSessionScope)

/-- The second statement of `pruneExpired`. -/
def anyRevocationDue (table : Revocations) (now : Nat) : Bool :=
  table.rows.any fun row => decide (row.expiresAt ≤ now)

/-! ### The store -/

/-- How a transaction ends for its caller: with its answer, without any effect, or
with its effect and the answer lost. -/
inductive Fate where
  | answered
  | failed
  | unanswered
deriving DecidableEq, Repr

inductive RevocationStatement where
  | isRevoked (scope : Bytes32)
  | revoke (scope : Bytes32)
  | deleteDue (size : Nat) (locked : Bytes32 → Bool)
  | anyDue

inductive RevocationReply where
  | revoked (revoked : Bool)
  | inserted (inserted : Bool)
  | deleted (rows : Nat)
  | moreWork (moreWork : Bool)
deriving DecidableEq, Repr

namespace RevocationStatement

/-- The effect of a transaction that begins at `now`; `none` is a rollback. -/
def exec (table : Revocations) (now : Nat) : RevocationStatement → Option (RevocationReply × Revocations)
  | .isRevoked scope => some (.revoked (revokedAt table scope now), table)
  | .revoke scope => (revokeScope table scope now).map fun (inserted, after) => (.inserted inserted, after)
  | .deleteDue size locked =>
    let (deleted, after) := deleteDueRevocations table size locked now
    some (.deleted deleted, after)
  | .anyDue => some (.moreWork (anyRevocationDue table now), table)

end RevocationStatement

structure RevocationCall where
  statement : RevocationStatement
  now : Nat
  fate : Fate

def RevocationCall.applied (table : Revocations) (call : RevocationCall) :
    Option (RevocationReply × Revocations) :=
  if call.fate = .failed then none else call.statement.exec table call.now

/-- The call on the table; no answer is a query that throws. -/
def revocationStep (table : Revocations) (call : RevocationCall) :
    Option RevocationReply × Revocations :=
  match call.applied table with
  | none => (none, table)
  | some (reply, after) => (if call.fate = .answered then some reply else none, after)

/-- `is_revoked`, with the answer of its query: `null` without one. -/
def isRevokedAnswer (guestSessionScope : String) (answer : Bytes32 → Option Bool) : Datum :=
  match (parseDigest guestSessionScope).bind answer with
  | some revoked => .bool revoked
  | none => .null

/-! ### What a transaction does to a revocation -/

def revokedUntil (table : Revocations) : Expiring.Holds Bytes32 Nat :=
  fun scope => (table.find? scope).map RevocationRow.expiresAt

theorem revokedUntil_eq_some {table : Revocations} {scope : Bytes32} {expiry : Nat} :
    revokedUntil table scope = some expiry ↔
      ∃ row, table.find? scope = some row ∧ row.expiresAt = expiry :=
  Option.map_eq_some_iff

theorem revokedAt_iff {table : Revocations} {scope : Bytes32} {now : Nat} :
    revokedAt table scope now = true ↔ Expiring.Held (revokedUntil table) scope now := by
  simp only [revokedAt, List.any_eq_true, Bool.and_eq_true, decide_eq_true_eq]
  constructor
  · rintro ⟨row, hmem, rfl, hnow⟩
    exact ⟨row.expiresAt, revokedUntil_eq_some.mpr ⟨row, Table.find?_of_mem hmem, rfl⟩, hnow⟩
  · rintro ⟨expiry, hheld, hnow⟩
    obtain ⟨row, hrow, rfl⟩ := revokedUntil_eq_some.mp hheld
    exact ⟨row, Table.find?_mem hrow, Table.find?_key hrow, hnow⟩

theorem lt_revocation_expiry (now : Nat) : now < truncSecond now + revocationMicros := by
  have hsecond : now < truncSecond now + secondMicros := by
    unfold truncSecond
    have hpos : 0 < secondMicros := by decide
    have := Nat.lt_div_mul_add hpos (a := now)
    omega
  have hday : secondMicros ≤ revocationMicros := by decide
  omega

theorem truncSecond_mul (seconds : Nat) :
    truncSecond (seconds * secondMicros) = seconds * secondMicros := by
  rw [truncSecond, Nat.mul_div_cancel _ (by decide)]

theorem revocationRow_check (scope : Bytes32) (now : Nat) :
    revocationTimeContract (revocationRow scope now) = true := by
  have hrevoked : truncSecond (truncSecond now) = truncSecond now := truncSecond_mul _
  have hexpires : truncSecond (truncSecond now + revocationMicros) =
      truncSecond now + revocationMicros := by
    have hday : truncSecond now + revocationMicros = (now / secondMicros + 86400) * secondMicros := by
      rw [Nat.add_mul, truncSecond, revocationMicros]
    rw [hday, truncSecond_mul]
  rw [revocationTimeContract, revocationRow, hrevoked, hexpires]
  simp

theorem insertRevocation_eq_some {table after : Revocations} {scope : Bytes32} {now : Nat}
    {inserted : Bool} (h : insertRevocation table scope now = some (inserted, after)) :
    (inserted = false ∧ after = table ∧ (table.find? scope).isSome = true) ∨
      (inserted = true ∧ table.find? scope = none ∧
        after.rows = table.rows ++ [revocationRow scope now]) := by
  rw [insertRevocation] at h
  split at h
  · cases h
  cases hfind : table.find? scope with
  | some row =>
    rw [hfind] at h
    cases h
    exact .inl ⟨rfl, rfl, rfl⟩
  | none =>
    cases hinsert : table.insert (revocationRow scope now) with
    | ok next =>
      rw [hfind, hinsert] at h
      cases h
      exact .inr ⟨rfl, rfl, (Table.insert_eq_ok.mp hinsert).2.2⟩
    | error violation =>
      rw [hfind, hinsert] at h
      cases h

theorem insertRevocation_of_none {table : Revocations} {scope : Bytes32} {now : Nat}
    (hrange : truncSecond now + revocationMicros < timestampEnd * secondMicros)
    (hfind : table.find? scope = none) :
    ∃ after, insertRevocation table scope now = some (true, after) := by
  have hdistinct : ∀ other ∈ table.rows, Schema.Distinct other (revocationRow scope now) :=
    fun other hother => Table.find?_eq_none.mp hfind other hother
  rw [insertRevocation, if_neg (by omega), hfind]
  cases hinsert : table.insert (revocationRow scope now) with
  | ok after => exact ⟨after, rfl⟩
  | error violation =>
    have hcheck : Schema.Check (revocationRow scope now) := revocationRow_check scope now
    rw [Table.insert, dif_pos hcheck, dif_pos hdistinct] at hinsert
    cases hinsert

theorem cleared_other {table : Revocations} {scope key : Bytes32} {now : Nat} (h : key ≠ scope) :
    (clearedRevocations table scope now).find? key = table.find? key := by
  rw [clearedRevocations, Table.find?_erase]
  cases hfind : table.find? key with
  | none => rfl
  | some row =>
    have hkey : row.guestSessionScope = key := Table.find?_key hfind
    simp [Option.filter, hkey, h]

theorem cleared_of_revoked {table : Revocations} {scope : Bytes32} {now : Nat}
    (h : revokedAt table scope now = true) :
    (clearedRevocations table scope now).find? scope = table.find? scope := by
  obtain ⟨expiry, hheld, hnow⟩ := revokedAt_iff.mp h
  obtain ⟨row, hrow, rfl⟩ := revokedUntil_eq_some.mp hheld
  rw [clearedRevocations, Table.find?_erase, hrow]
  simp [Option.filter, hnow]

theorem cleared_of_unrevoked {table : Revocations} {scope : Bytes32} {now : Nat}
    (h : revokedAt table scope now = false) :
    (clearedRevocations table scope now).find? scope = none := by
  rw [clearedRevocations, Table.find?_erase]
  cases hfind : table.find? scope with
  | none => rfl
  | some row =>
    have hexpired : row.expiresAt ≤ now := by
      by_contra hlater
      have hrevoked := revokedAt_iff.mpr
        ⟨row.expiresAt, revokedUntil_eq_some.mpr ⟨row, hfind, rfl⟩, Nat.lt_of_not_le hlater⟩
      rw [h] at hrevoked
      cases hrevoked
    have hkey : row.guestSessionScope = scope := Table.find?_key hfind
    simp [Option.filter, hkey, hexpired]

/-- A scope that is not revoked gets a new row; a revocation that lasts stays as it is. -/
theorem revokeScope_spec {table after : Revocations} {scope : Bytes32} {now : Nat} {inserted : Bool}
    (h : revokeScope table scope now = some (inserted, after)) :
    inserted = !revokedAt table scope now ∧ ∀ key, revokedUntil after key =
      if key = scope ∧ inserted = true then some (truncSecond now + revocationMicros)
      else revokedUntil table key := by
  rw [revokeScope, Option.filter_eq_some_iff] at h
  obtain ⟨hinsert, -⟩ := h
  cases hrevoked : revokedAt table scope now with
  | true =>
    have hkept := cleared_of_revoked hrevoked
    rcases insertRevocation_eq_some hinsert with ⟨rfl, rfl, -⟩ | ⟨-, hnone, -⟩
    · refine ⟨rfl, fun key => ?_⟩
      rw [if_neg (by simp), revokedUntil, revokedUntil]
      by_cases hkey : key = scope
      · rw [hkey, hkept]
      · rw [cleared_other hkey]
    · obtain ⟨expiry, hheld, -⟩ := revokedAt_iff.mp hrevoked
      obtain ⟨row, hrow, -⟩ := revokedUntil_eq_some.mp hheld
      rw [hkept, hrow] at hnone
      cases hnone
  | false =>
    have hcleared := cleared_of_unrevoked hrevoked
    rcases insertRevocation_eq_some hinsert with ⟨-, -, hsome⟩ | ⟨rfl, -, hrows⟩
    · rw [hcleared] at hsome
      cases hsome
    · refine ⟨rfl, fun key => ?_⟩
      rw [revokedUntil, Table.find?_of_rows_append hrows]
      by_cases hkey : key = scope
      · have hsame : Schema.key (revocationRow scope now) = key := hkey.symm
        rw [if_pos hsame, if_pos ⟨hkey, rfl⟩, hkey, hcleared, Option.none_or]
        rfl
      · have hother : ¬ Schema.key (revocationRow scope now) = key := fun h => hkey h.symm
        have hnot : ¬ (key = scope ∧ true = true) := fun h => hkey h.1
        rw [if_neg hother, if_neg hnot, cleared_other hkey, Option.or_none, revokedUntil]

theorem revokeScope_ok (table : Revocations) (scope : Bytes32) {now : Nat}
    (hrange : truncSecond now + revocationMicros < timestampEnd * secondMicros) :
    ∃ after, revokeScope table scope now = some (!revokedAt table scope now, after) := by
  -- what remains to be seen is that the row read back has not run out
  have hactive : ∀ {inserted : Bool} {after : Revocations} {row : RevocationRow},
      insertRevocation (clearedRevocations table scope now) scope now = some (inserted, after) →
      after.find? scope = some row → now < row.expiresAt →
      revokeScope table scope now = some (inserted, after) := by
    intro inserted after row hinsert hfind hlasts
    rw [revokeScope, Option.filter_eq_some_iff]
    refine ⟨hinsert, ?_⟩
    dsimp only
    rw [hfind, Option.any_some, decide_eq_true hlasts]
  cases hrevoked : revokedAt table scope now with
  | true =>
    have hkept := cleared_of_revoked hrevoked
    obtain ⟨expiry, hheld, hnow⟩ := revokedAt_iff.mp hrevoked
    obtain ⟨row, hrow, rfl⟩ := revokedUntil_eq_some.mp hheld
    refine ⟨clearedRevocations table scope now, hactive ?_ (hkept.trans hrow) hnow⟩
    rw [insertRevocation, if_neg (Nat.not_le_of_lt hrange), hkept, hrow]
    rfl
  | false =>
    have hcleared := cleared_of_unrevoked hrevoked
    obtain ⟨after, hafter⟩ := insertRevocation_of_none hrange hcleared
    rcases insertRevocation_eq_some hafter with ⟨hfalse, -, -⟩ | ⟨-, -, hrows⟩
    · cases hfalse
    have hsame : Schema.key (revocationRow scope now) = scope := rfl
    have hfind : after.find? scope = some (revocationRow scope now) := by
      rw [Table.find?_of_rows_append hrows, hcleared, if_pos hsame, Option.none_or]
    exact ⟨after, hactive hafter hfind (lt_revocation_expiry now)⟩

/-! ### Runs of the store -/

theorem revokedUntil_deleteDue {table : Revocations} {size : Nat} {locked : Bytes32 → Bool}
    {now : Nat} (key : Bytes32) :
    revokedUntil (deleteDueRevocations table size locked now).2 key = revokedUntil table key ∨
      revokedUntil (deleteDueRevocations table size locked now).2 key = none ∧
        ¬ Expiring.Held (revokedUntil table) key now := by
  rw [deleteDueRevocations]
  dsimp only
  generalize hdue : (dueRevocations table size locked now).map RevocationRow.guestSessionScope = due
  cases hfind : table.find? key with
  | none => exact .inl (by rw [revokedUntil, revokedUntil, Table.find?_erase, hfind]; rfl)
  | some row =>
    have hkey : row.guestSessionScope = key := Table.find?_key hfind
    by_cases hdropped : due.contains key = true
    · right
      constructor
      · rw [revokedUntil, Table.find?_erase, hfind, Option.filter, hkey, hdropped]
        rfl
      · rw [List.contains_iff_mem, ← hdue] at hdropped
        obtain ⟨other, hother, hsame⟩ := List.mem_map.mp hdropped
        have hmem := List.mem_filter.mp (List.mem_mergeSort.mp (List.mem_of_mem_take hother))
        simp only [Bool.and_eq_true, decide_eq_true_eq] at hmem
        have hrow : other = row := by
          have hstored := Table.find?_of_mem hmem.1
          rw [show Schema.key other = key from hsame, hfind] at hstored
          exact (Option.some.inj hstored).symm
        rintro ⟨expiry, hheld, hnow⟩
        obtain ⟨found, hfound, rfl⟩ := revokedUntil_eq_some.mp hheld
        rw [hfind] at hfound
        cases hfound
        rw [hrow] at hmem
        omega
    · left
      have hkept : (!due.contains row.guestSessionScope) = true := by simpa [hkey] using hdropped
      rw [revokedUntil, revokedUntil, Table.find?_erase, hfind, Option.filter, hkept]
      rfl

def RevocationCall.granted (table : Revocations) (call : RevocationCall) :
    Option (Bytes32 × Nat) :=
  match call.statement, call.applied table with
  | .revoke scope, some (.inserted true, _) => some (scope, truncSecond call.now + revocationMicros)
  | _, _ => none

theorem applied_revoke {table after : Revocations} {call : RevocationCall} {scope : Bytes32}
    {reply : RevocationReply} (hstatement : call.statement = .revoke scope)
    (h : call.applied table = some (reply, after)) :
    ∃ inserted, reply = .inserted inserted ∧
      revokeScope table scope call.now = some (inserted, after) := by
  rw [RevocationCall.applied, hstatement, RevocationStatement.exec] at h
  cases hrevoke : revokeScope table scope call.now with
  | none =>
    rw [hrevoke] at h
    by_cases hfate : call.fate = .failed
    · rw [if_pos hfate] at h
      cases h
    · rw [if_neg hfate] at h
      cases h
  | some outcome =>
    obtain ⟨inserted, next⟩ := outcome
    rw [hrevoke] at h
    by_cases hfate : call.fate = .failed
    · rw [if_pos hfate] at h
      cases h
    · rw [if_neg hfate] at h
      cases h
      exact ⟨inserted, rfl, rfl⟩

theorem applied_other {table after : Revocations} {call : RevocationCall} {reply : RevocationReply}
    (hstatement : ∀ scope, call.statement ≠ .revoke scope)
    (h : call.applied table = some (reply, after)) (key : Bytes32) :
    revokedUntil after key = revokedUntil table key ∨
      revokedUntil after key = none ∧ ¬ Expiring.Held (revokedUntil table) key call.now := by
  rw [RevocationCall.applied] at h
  by_cases hfate : call.fate = .failed
  · rw [if_pos hfate] at h
    cases h
  rw [if_neg hfate] at h
  cases hcall : call.statement with
  | revoke scope => exact absurd hcall (hstatement scope)
  | isRevoked scope =>
    rw [hcall] at h
    cases h
    exact .inl rfl
  | anyDue =>
    rw [hcall] at h
    cases h
    exact .inl rfl
  | deleteDue size locked =>
    rw [hcall] at h
    cases h
    exact revokedUntil_deleteDue key

/-- A call grants a revocation, or at most drops what has run out. -/
theorem revocationStep_expiring (table : Revocations) (call : RevocationCall) :
    Expiring.Step (revokedUntil table) (revokedUntil (revocationStep table call).2) call.now
      (call.granted table) := by
  rw [revocationStep, RevocationCall.granted]
  cases happlied : call.applied table with
  | none => cases call.statement <;> exact .idle _ _
  | some outcome =>
    obtain ⟨reply, after⟩ := outcome
    dsimp only
    by_cases hstatement : ∀ scope, call.statement ≠ .revoke scope
    · have hdrop := Expiring.Step.drop (applied_other hstatement happlied)
      cases hcall : call.statement with
      | revoke scope => exact absurd hcall (hstatement scope)
      | isRevoked scope => exact hdrop
      | deleteDue size locked => exact hdrop
      | anyDue => exact hdrop
    · push Not at hstatement
      obtain ⟨scope, hcall⟩ := hstatement
      obtain ⟨inserted, rfl, hrevoke⟩ := applied_revoke hcall happlied
      obtain ⟨hinserted, huntil⟩ := revokeScope_spec hrevoke
      rw [hcall]
      cases hrevoked : revokedAt table scope call.now with
      | true =>
        rw [hrevoked] at hinserted
        subst hinserted
        exact .drop fun key => .inl ((huntil key).trans (if_neg fun h => Bool.noConfusion h.2))
      | false =>
        rw [hrevoked] at hinserted
        subst hinserted
        have hfree : ¬ Expiring.Held (revokedUntil table) scope call.now := by
          rw [← revokedAt_iff, hrevoked]
          exact Bool.false_ne_true
        constructor
        · rintro key expiry heq
          cases heq
          exact hfree
        · rintro key expiry heq
          cases heq
          exact (huntil scope).trans (if_pos ⟨rfl, rfl⟩)
        · intro key hother
          have hkey : key ≠ scope := fun h => hother _ (by rw [h]; rfl)
          exact .inl ((huntil key).trans (if_neg fun h => hkey h.1))

def revocationsAfter (calls : List RevocationCall) : Revocations :=
  Machine.run revocationStep Table.empty calls

theorem revocations_history (calls : List RevocationCall) :
    Expiring.History (revokedUntil (revocationsAfter calls))
      (Expiring.grants revocationStep (fun table call => (call.now, call.granted table))
        Table.empty calls) :=
  Expiring.history_of_run revocationStep_expiring rfl calls

/-- A revocation of the scope was recorded by a transaction that began at `now`. -/
def RecordedAt (calls : List RevocationCall) (scope : Bytes32) (now : Nat) : Prop :=
  ∃ first call rest, calls = first ++ call :: rest ∧ call.statement = .revoke scope ∧
    call.now = now ∧
    (call.applied (revocationsAfter first)).map Prod.fst = some (.inserted true)

/-- A revocation of the scope was recorded within the day before `now`. -/
def RevokedWithin (calls : List RevocationCall) (scope : Bytes32) (now : Nat) : Prop :=
  ∃ recorded, RecordedAt calls scope recorded ∧ now < truncSecond recorded + revocationMicros

theorem mem_revocation_grants {calls : List RevocationCall} {now expiry : Nat} {scope : Bytes32} :
    (now, some (scope, expiry)) ∈
        Expiring.grants revocationStep (fun table call => (call.now, call.granted table))
          Table.empty calls ↔
      RecordedAt calls scope now ∧ expiry = truncSecond now + revocationMicros := by
  rw [Expiring.mem_grants]
  constructor
  · rintro ⟨first, call, rest, hcalls, hentry⟩
    obtain ⟨hnow, hgranted⟩ := Prod.mk.inj hentry
    rw [RevocationCall.granted] at hgranted
    cases hstatement : call.statement with
    | isRevoked other => rw [hstatement] at hgranted; cases hgranted
    | deleteDue size locked => rw [hstatement] at hgranted; cases hgranted
    | anyDue => rw [hstatement] at hgranted; cases hgranted
    | revoke other =>
      rw [hstatement] at hgranted
      cases happlied : call.applied (Machine.run revocationStep Table.empty first) with
      | none => rw [happlied] at hgranted; cases hgranted
      | some outcome =>
        obtain ⟨reply, after⟩ := outcome
        rw [happlied] at hgranted
        obtain ⟨inserted, rfl, -⟩ := applied_revoke hstatement happlied
        cases inserted with
        | false => cases hgranted
        | true =>
          obtain ⟨hscope, hexpiry⟩ := Prod.mk.inj (Option.some.inj hgranted)
          rw [hscope] at hstatement
          refine ⟨⟨first, call, rest, hcalls, hstatement, hnow, ?_⟩, by rw [← hexpiry, hnow]⟩
          rw [revocationsAfter, happlied]
          rfl
  · rintro ⟨⟨first, call, rest, hcalls, hstatement, hnow, hinserted⟩, rfl⟩
    obtain ⟨⟨reply, after⟩, happlied, rfl⟩ := Option.map_eq_some_iff.mp hinserted
    refine ⟨first, call, rest, hcalls, ?_⟩
    rw [revocationsAfter] at happlied
    rw [RevocationCall.granted, hstatement, happlied, hnow]

theorem revokedWithin_of_revokedAt {calls : List RevocationCall} {scope : Bytes32} {now : Nat}
    (h : revokedAt (revocationsAfter calls) scope now = true) : RevokedWithin calls scope now := by
  obtain ⟨expiry, hheld, hnow⟩ := revokedAt_iff.mp h
  obtain ⟨start, hmem⟩ := (revocations_history calls).granted hheld
  obtain ⟨hrecorded, rfl⟩ := mem_revocation_grants.mp hmem
  exact ⟨start, hrecorded, hnow⟩

theorem revokedAt_iff_within {calls : List RevocationCall} {scope : Bytes32} {now : Nat}
    (hclock : ∀ call ∈ calls, call.now ≤ now) :
    revokedAt (revocationsAfter calls) scope now = true ↔ RevokedWithin calls scope now := by
  refine ⟨revokedWithin_of_revokedAt, ?_⟩
  rintro ⟨recorded, hrecorded, hnow⟩
  have hentries : ∀ entry ∈ Expiring.grants revocationStep
      (fun table call => (call.now, call.granted table)) Table.empty calls,
      ∀ moment, now < moment → entry.1 < moment := by
    intro entry hentry moment hmoment
    obtain ⟨first, call, rest, rfl, rfl⟩ := Expiring.mem_grants.mp hentry
    exact Nat.lt_of_le_of_lt (hclock call (by simp)) hmoment
  rw [revokedAt_iff, (revocations_history calls).held_iff hentries]
  exact ⟨recorded, _, mem_revocation_grants.mpr ⟨hrecorded, rfl⟩, hnow⟩

theorem revokeScope_outcome (table : Revocations) (scope : Bytes32) {now : Nat}
    (hrange : truncSecond now + revocationMicros < timestampEnd * secondMicros) :
    ∃ after, revokeScope table scope now = some (!revokedAt table scope now, after) ∧
      ∀ key moment, now ≤ moment → (revokedAt after key moment = true ↔
        revokedAt table key moment = true ∨
          key = scope ∧ revokedAt table scope now = false ∧
            moment < truncSecond now + revocationMicros) := by
  obtain ⟨after, hrevoke⟩ := revokeScope_ok table scope hrange
  refine ⟨after, hrevoke, fun key moment hmoment => ?_⟩
  obtain ⟨-, huntil⟩ := revokeScope_spec hrevoke
  rw [revokedAt_iff, revokedAt_iff, Expiring.Held, Expiring.Held, huntil key]
  by_cases hnew : key = scope ∧ (!revokedAt table scope now) = true
  · rw [if_pos hnew]
    obtain ⟨rfl, hfree⟩ := hnew
    rw [Bool.not_eq_true'] at hfree
    constructor
    · rintro ⟨expiry, heq, hlater⟩
      cases heq
      exact .inr ⟨rfl, hfree, hlater⟩
    · rintro (⟨expiry, hheld, hlater⟩ | ⟨-, -, hlater⟩)
      · have hrevoked : revokedAt table key now = true :=
          revokedAt_iff.mpr ⟨expiry, hheld, by omega⟩
        rw [hfree] at hrevoked
        cases hrevoked
      · exact ⟨_, rfl, hlater⟩
  · rw [if_neg hnew]
    constructor
    · exact .inl
    · rintro (hheld | ⟨hkey, hfree, -⟩)
      · exact hheld
      · exact absurd ⟨hkey, by rw [hfree]; rfl⟩ hnew

/-- Once every call began by `now`, a session is revoked at `now` exactly if a revocation of it was
recorded within the day. Nothing ends it earlier, and revoking it again does not make it last
longer. -/
theorem revocations_exact (calls : List RevocationCall) (scope : Bytes32) (now : Nat)
    (hclock : ∀ call ∈ calls, call.now ≤ now) :
    (revokedAt (revocationsAfter calls) scope now = true ↔ RevokedWithin calls scope now) ∧
    (truncSecond now + revocationMicros < timestampEnd * secondMicros →
      ∃ after, revokeScope (revocationsAfter calls) scope now =
          some (!revokedAt (revocationsAfter calls) scope now, after) ∧
        ∀ key moment, now ≤ moment → (revokedAt after key moment = true ↔
          revokedAt (revocationsAfter calls) key moment = true ∨
            key = scope ∧ revokedAt (revocationsAfter calls) scope now = false ∧
              moment < truncSecond now + revocationMicros)) :=
  ⟨revokedAt_iff_within hclock, fun hrange => revokeScope_outcome _ scope hrange⟩

/-- A session revoked at 1970-01-01T00:00:05.5Z and again five seconds later, with a pruning in
between, is still refused in the last microsecond of the day. -/
theorem revocations_exact_sample :
    let scope := Bytes32.fill 1
    revokedAt (revocationsAfter [⟨.revoke scope, 5500000, .answered⟩,
      ⟨.deleteDue 10 fun _ => false, 7000000, .answered⟩, ⟨.revoke scope, 10500000, .unanswered⟩])
      scope 86404999999 = true := by
  intro scope
  exact (revocations_exact _ scope 86404999999 (by decide)).1.mpr
    ⟨5500000, ⟨[], _, _, rfl, rfl, rfl, by decide⟩, by decide⟩

end Outscan

import Outscan.Lifecycle.Calls

/-! What the calls about one scan leave alone: they write to scans, attempts
and results, and they release reservations. -/
namespace Outscan

open Relational Transactional Lifecycle

/-! ### Calls about one scan -/

/-- A relation between tables that holds across every write to scans, attempts
and results that the triggers let through, and across every release. -/
structure Quiet (R : Tables → Tables → Prop) : Prop where
  refl : ∀ t, R t t
  trans : ∀ a b c, R a b → R b c → R a c
  updateGuestScan : ∀ {missing id} {cond : GuestScan → Prop} [DecidablePred cond] {edit},
    Tx.Respects R (updateGuestScan missing id cond edit)
  updateGuestScanAttempt : ∀ {missing id attemptId} {cond : GuestScanAttempt → Prop}
    [DecidablePred cond] {edit},
    Tx.Respects R (updateGuestScanAttempt missing id attemptId cond edit)
  insertGuestScanAttempt : ∀ {row}, Tx.Respects R (insertGuestScanAttempt row)
  insertGuestResult : ∀ {row}, Tx.Respects R (insertGuestResult row)
  release : ∀ {id now reason}, Tx.Respects R (releaseGuestAbuseReservation id now reason)

theorem Quiet.ofTables {R : Tables → Tables → Prop} (refl : ∀ t, R t t)
    (trans : ∀ a b c, R a b → R b c → R a c) (scans : ∀ next t, R t (scansTable.put next t))
    (attempts : ∀ next t, R t (attemptsTable.put next t))
    (results : ∀ next t, R t (resultsTable.put next t))
    (release : ∀ {id now reason}, Tx.Respects R (releaseGuestAbuseReservation id now reason)) :
    Quiet R where
  refl := refl
  trans := trans
  updateGuestScan := Tx.Respects.updateOne refl trans scans
  updateGuestScanAttempt := Tx.Respects.updateOne refl trans attempts
  insertGuestScanAttempt := by
    intro row
    refine Tx.Respects.bind trans (Tx.Respects.ensure refl _ _) fun _ => ?_
    refine Tx.Respects.bind trans (Tx.Respects.insert attempts row) fun _ => ?_
    exact Tx.Respects.bind trans (Tx.Respects.get refl) fun _ => Tx.Respects.ensure refl _ _
  insertGuestResult := by
    intro row
    refine Tx.Respects.bind trans (Tx.Respects.get refl) fun _ => ?_
    exact Tx.Respects.bind trans (Tx.Respects.ensure refl _ _) fun _ =>
      Tx.Respects.insert results row
  release := release

namespace Quiet

variable {R : Tables → Tables → Prop} (h : Quiet R)
include h

theorem pure {α : Type} (value : α) : Tx.Respects R (Pure.pure value : Sql α) :=
  Tx.Respects.pure h.refl value

theorem bind {α β : Type} {first : Sql α} {next : α → Sql β} (hfirst : Tx.Respects R first)
    (hnext : ∀ value, Tx.Respects R (next value)) : Tx.Respects R (first >>= next) :=
  Tx.Respects.bind h.trans hfirst hnext

theorem get_bind {β : Type} {next : Tables → Sql β} (hnext : ∀ t, Tx.Respects R (next t)) :
    Tx.Respects R (MonadState.get >>= next) :=
  h.bind (Tx.Respects.get h.refl) hnext

theorem ensure (condition : Prop) [Decidable condition] (error : TxError) :
    Tx.Respects R (Tx.ensure condition error : Sql Unit) :=
  Tx.Respects.ensure h.refl condition error

theorem terminateAttempt (scan : GuestScan) (now : Nat) :
    Tx.Respects R (terminateAttempt scan now) := by
  unfold Outscan.terminateAttempt
  split
  · exact h.pure ()
  · split
    · exact h.pure ()
    · refine h.get_bind fun _ => ?_
      split
      · exact Tx.Respects.fail _
      · split
        · exact Tx.Respects.fail _
        · split
          · exact h.bind h.updateGuestScanAttempt fun _ => h.pure ()
          · exact h.ensure _ _

theorem terminateJob {scan : GuestScan} {now : Nat} {terminal : TerminalState} :
    Tx.Respects R (terminateJob scan now terminal) := by
  refine h.bind (h.terminateAttempt scan now) fun _ => ?_
  refine h.bind h.updateGuestScan fun _ => ?_
  refine h.bind h.release fun _ => ?_
  exact h.bind (h.ensure _ _) fun _ => h.pure _

theorem leaseNew {scan : GuestScan} {createAttemptId : Option String} {attemptNo fence now : Nat} :
    Tx.Respects R (leaseNew scan createAttemptId attemptNo fence now) := by
  unfold Outscan.leaseNew
  split
  · exact Tx.Respects.fail _
  · split
    · exact Tx.Respects.fail _
    · refine h.bind ?_ fun lease => h.pure _
      refine h.bind (h.ensure _ _) fun _ => h.bind h.insertGuestScanAttempt fun _ => ?_
      refine h.bind h.updateGuestScanAttempt fun _ => ?_
      exact h.bind h.updateGuestScan fun _ => h.pure _

theorem heldAttempt (scan : GuestScan) : Tx.Respects R (heldAttempt scan) := by
  unfold Outscan.heldAttempt
  refine h.get_bind fun _ => ?_
  split
  · exact Tx.Respects.fail _
  · split
    · exact Tx.Respects.fail _
    · split
      · exact Tx.Respects.fail _
      · exact h.pure _

theorem acquireBody {id : String} {createAttemptId : Option String} {now : Nat} :
    Tx.Respects R (acquireBody id createAttemptId now) := by
  unfold Outscan.acquireBody acquireRunning
  refine h.get_bind fun _ => ?_
  split
  · exact h.pure _
  · split
    · exact h.pure _
    · split
      · exact h.terminateJob
      · split
        · refine h.bind (h.heldAttempt _) fun held => ?_
          obtain ⟨attempt, leaseExpiry⟩ := held
          dsimp only
          split
          · exact h.pure _
          · refine h.bind h.updateGuestScanAttempt fun _ => ?_
            split
            · exact h.terminateJob
            · exact h.leaseNew
        · exact h.leaseNew

theorem startBody {command : LeaseCommand} {now : Nat} :
    Tx.Respects R (startBody command now) := by
  unfold Outscan.startBody
  refine h.get_bind fun _ => ?_
  split
  · exact h.pure _
  · split
    · exact h.pure _
    · split
      · exact h.pure _
      · refine .ite (fun _ => h.pure _) fun _ => .ite (fun _ => h.pure _) fun _ => ?_
        refine .ite (fun _ => h.pure _) fun _ => .ite (fun _ => h.pure _) fun _ => ?_
        exact h.bind h.updateGuestScanAttempt fun _ => h.pure _

theorem renewBody {command : LeaseCommand} {now : Nat} :
    Tx.Respects R (renewBody command now) := by
  unfold Outscan.renewBody
  refine h.get_bind fun _ => ?_
  split
  · exact h.pure _
  · split
    · exact h.pure _
    · split
      · exact h.pure _
      · refine .ite (fun _ => h.pure _) fun _ => .ite (fun _ => h.pure _) fun _ => ?_
        refine .ite (fun _ => h.pure _) fun _ => ?_
        exact h.bind h.updateGuestScanAttempt fun _ => h.pure _

theorem cancelCurrentAttempt (scan : GuestScan) (now : Nat) :
    Tx.Respects R (cancelCurrentAttempt scan now) := by
  unfold Outscan.cancelCurrentAttempt
  split
  · exact h.pure ()
  · refine h.get_bind fun _ => ?_
    split
    · exact Tx.Respects.fail _
    · split
      · exact Tx.Respects.fail _
      · split
        · exact Tx.Respects.fail _
        · exact h.bind h.updateGuestScanAttempt fun _ => h.pure ()

theorem cancelBody {id : String} {now : Nat} : Tx.Respects R (cancelBody id now) := by
  have hrelease : ∀ id, Tx.Respects R (releaseCancelled id now) := fun id =>
    h.bind h.release fun _ => h.ensure _ _
  unfold Outscan.cancelBody
  refine h.get_bind fun _ => ?_
  split
  · exact h.pure _
  · split
    · exact h.pure _
    · split
      · exact h.bind (hrelease _) fun _ => h.pure _
      · split
        · exact h.pure _
        · refine h.bind (h.cancelCurrentAttempt _ _) fun _ => h.bind h.updateGuestScan fun _ => ?_
          exact h.bind (hrelease _) fun _ => h.pure _

theorem persistResultBody (result : AuthenticatedResult) (transactionNow : TransactionTime) :
    Tx.Respects R (persistResultBody result transactionNow) := by
  unfold Outscan.persistResultBody
  refine h.get_bind fun _ => ?_
  split
  · exact h.pure _
  · split
    · exact h.pure _
    · exact h.pure _
    · split
      · exact h.pure _
      · refine h.bind ?_ fun _ => h.pure _
        refine h.bind h.updateGuestScanAttempt fun _ => ?_
        refine h.bind h.updateGuestScan fun _ => ?_
        refine h.bind h.insertGuestResult fun _ => ?_
        exact h.bind h.release fun _ => h.ensure _ _

theorem transaction {α : Type} (unavailable : α) {operation : Sql α}
    (hoperation : Tx.Respects R operation) (db : Database) :
    R db.val (transaction unavailable operation db).2.val := by
  rcases transaction_cases unavailable operation db with hrun | hrun
  · exact hoperation _ _ _ hrun
  · rw [hrun]
    exact h.refl _

theorem exec (node : NodeRuntime) (db : Database) {call : Call} {id : String}
    (hscan : call.scan? = some id) : R db.val (exec node db call).2.val := by
  cases call with
  | acquire guestScanId createAttemptId clock =>
    change R db.val (acquire guestScanId createAttemptId clock db).2.val
    unfold acquire
    split
    · exact h.refl _
    · split
      · exact h.refl _
      · exact h.transaction _ h.acquireBody db
  | start command clock =>
    change R db.val (start command clock db).2.val
    unfold start
    split
    · exact h.refl _
    · split
      · exact h.refl _
      · exact h.transaction _ h.startBody db
  | renew command clock =>
    change R db.val (renew command clock db).2.val
    unfold renew
    split
    · exact h.refl _
    · split
      · exact h.refl _
      · exact h.transaction _ h.renewBody db
  | cancel guestScanId clock =>
    change R db.val (cancel guestScanId clock db).2.val
    unfold cancel
    split
    · exact h.refl _
    · split
      · exact h.refl _
      · exact h.transaction _ h.cancelBody db
  | commit result transactionNow =>
    change R db.val (commit result transactionNow db).2.val
    cases result with
    | none => exact h.refl _
    | some result =>
      rcases atomically_cases (.failure .unavailable false)
        (Outscan.persistResultBody result transactionNow) db with
        ⟨answer, next, hrun, heq⟩ | ⟨hsame, -⟩
      · change R db.val (atomically _ _ db).2.val
        rw [heq]
        exact h.persistResultBody result transactionNow _ _ _ hrun
      · change R db.val (atomically _ _ db).2.val
        rw [hsame]
        exact h.refl _
  | createOrReplay dependencies request => cases hscan
  | runBatch batchSize clock locked => cases hscan
  | setServiceState state => cases hscan

end Quiet

end Outscan

import Outscan.Library.Record
import Outscan.Persistence.Committer

/-! The sink of rejected results: one event for each attempt and code, marked as
relevant to security or not. -/
namespace Outscan

open Relational Transactional Dynamic

/-! ### Codes -/

def ResultCommitDenyCode.text : ResultCommitDenyCode → String
  | .invalidState => "INVALID_STATE"
  | .jobNotRunning => "JOB_NOT_RUNNING"
  | .attemptNotRunning => "ATTEMPT_NOT_RUNNING"
  | .staleAttempt => "STALE_ATTEMPT"
  | .leaseExpired => "LEASE_EXPIRED"
  | .attemptDeadlineExceeded => "ATTEMPT_DEADLINE_EXCEEDED"
  | .resultDigestConflict => "RESULT_DIGEST_CONFLICT"

def CommitRejectionCode.text : CommitRejectionCode → String
  | .resultSubmissionRejected => "RESULT_SUBMISSION_REJECTED"
  | .denied code => code.text
  | .unavailable => "GUEST_PERSISTENCE_UNAVAILABLE"

def guestResultRejectionCodes : List CommitRejectionCode :=
  [.resultSubmissionRejected, .denied .invalidState, .denied .jobNotRunning,
    .denied .attemptNotRunning, .denied .staleAttempt, .denied .leaseExpired,
    .denied .attemptDeadlineExceeded, .denied .resultDigestConflict, .unavailable]

def securityRelevantCodes : List CommitRejectionCode :=
  [.resultSubmissionRejected, .denied .invalidState, .denied .resultDigestConflict]

def guestResultRejectionIsSecurityRelevant (code : CommitRejectionCode) : Bool :=
  securityRelevantCodes.contains code

/-! ### guest_result_rejection_events -/

structure RejectionEvent where
  guestScanId : String
  attemptId : String
  monotonicFence : Nat
  rejectionCode : CommitRejectionCode
  securityRelevant : Bool
  occurredAt : Nat
deriving DecidableEq

/-- The columns of `guest_result_rejection_identity`. -/
abbrev RejectionKey := String × String × Nat × CommitRejectionCode

def RejectionEvent.identity (row : RejectionEvent) : RejectionKey :=
  (row.guestScanId, row.attemptId, row.monotonicFence, row.rejectionCode)

/-- The CHECKs and the ranges of the column types; the second one is
`guest_result_rejection_security_class`. -/
def RejectionEvent.Constraints (row : RejectionEvent) : Prop :=
  (1 ≤ row.monotonicFence ∧ row.monotonicFence ≤ maxSafeInteger) ∧
    row.securityRelevant = securityRelevantCodes.contains row.rejectionCode ∧
    row.guestScanId.length ≤ 128 ∧ row.attemptId.length ≤ 128 ∧ row.occurredAt < timestampEnd

instance : DecidablePred RejectionEvent.Constraints := fun _ =>
  inferInstanceAs (Decidable (_ ∧ _ ∧ _ ∧ _ ∧ _))

instance : Schema RejectionEvent RejectionKey where
  key := RejectionEvent.identity
  Distinct := fun a b => a.identity ≠ b.identity
  Check := RejectionEvent.Constraints
  distinct_symm := fun h => h.symm
  key_ne := id

/-- The tables that the sink touches: its own, and those its rows refer to. -/
structure RejectionTables where
  tables : Tables
  events : Table RejectionEvent

/-- `guest_result_rejection_attempt_fk`, beside the keys of the other tables. -/
def RejectionKeys (s : RejectionTables) : Prop :=
  ForeignKeys s.tables ∧
    ∀ event ∈ s.events.rows, ∃ attempt ∈ s.tables.guestScanAttempts.rows,
      attempt.guestScanId = event.guestScanId ∧ attempt.id = event.attemptId ∧
        attempt.monotonicFence = event.monotonicFence

instance : DecidablePred RejectionKeys := fun _ => inferInstanceAs (Decidable (_ ∧ _))

/-- `guard_guest_result_rejection_event_insert`. -/
def Tables.acceptsRejection (t : Tables) (row : RejectionEvent) : Prop :=
  match t.guestScans.find? row.guestScanId with
  | none => False
  | some scan => scan.createdAt ≤ row.occurredAt ∧ row.occurredAt < scan.deletionDeadline

instance (t : Tables) (row : RejectionEvent) : Decidable (t.acceptsRejection row) := by
  unfold Tables.acceptsRejection
  split <;> infer_instance

inductive RejectionError where
  | database (violation : Violation)
  | eventState
deriving DecidableEq, Repr

abbrev RejectionSql := Tx RejectionTables RejectionError

def eventsTable : Lens RejectionTables (Table RejectionEvent) where
  get := RejectionTables.events
  put table t := { t with events := table }
  get_put _ _ := rfl
  put_get _ := rfl
  put_put _ _ _ := rfl

/-- `INSERT .. ON CONFLICT ON CONSTRAINT guest_result_rejection_identity DO
NOTHING`, with whether a row was inserted. The trigger and the CHECKs come before
the conflict. -/
def insertRejectionEvent (row : RejectionEvent) : RejectionSql Bool := do
  let s ← get
  Tx.ensure (s.tables.acceptsRejection row) (.database .trigger)
  Tx.ensure row.Constraints (.database .check)
  if (s.events.find? row.identity).isSome then return false
  else do
    Tx.insert eventsTable .database row
    return true

/-! ### The sink -/

structure RecordGuestResultRejection where
  guestScanId : String
  attemptId : String
  monotonicFence : Nat
  rejectionCode : CommitRejectionCode
deriving DecidableEq

inductive RecordGuestResultRejectionResult where
  | recorded (securityRelevant : Bool)
  | alreadyRecorded (securityRelevant : Bool)
  | invalidRequest
  | unavailable
deriving DecidableEq, Repr

def rejectionRequestKeys : List String :=
  ["schema_version", "guest_scan_id", "attempt_id", "monotonic_fence", "rejection_code"]

def rejectionCode? : Scalar → Option CommitRejectionCode
  | .string value => guestResultRejectionCodes.find? (·.text == value)
  | _ => none

/-- `parseRequest` of the sink. -/
def parseRejectionRequest (value : Value Scalar) : Option RecordGuestResultRejection :=
  match value with
  | .other => none
  | .record r =>
    if !r.hasExactKeys rejectionRequestKeys then none
    else do
      let _ ← exactly? 1 (r.get .other "schema_version")
      let guestScanId ← text? validId (r.get .other "guest_scan_id")
      let attemptId ← text? validId (r.get .other "attempt_id")
      let monotonicFence ← positiveSafeInteger? (r.get .other "monotonic_fence")
      let rejectionCode ← rejectionCode? (r.get .other "rejection_code")
      return { guestScanId, attemptId, monotonicFence, rejectionCode }

/-- The transaction of `record`; `occurredAt` is the time at BEGIN. -/
def recordRejectionBody (request : RecordGuestResultRejection) (occurredAt : Nat) :
    RejectionSql (Verdict RecordGuestResultRejectionResult) := do
  let securityRelevant := guestResultRejectionIsSecurityRelevant request.rejectionCode
  let row : RejectionEvent :=
    { guestScanId := request.guestScanId, attemptId := request.attemptId
      monotonicFence := request.monotonicFence, rejectionCode := request.rejectionCode
      securityRelevant, occurredAt }
  let inserted ← insertRejectionEvent row
  let s ← get
  match s.events.find? row.identity with
  | none => Tx.fail .eventState
  | some existing => do
    Tx.ensure (existing.securityRelevant = securityRelevant) .eventState
    if inserted then return .commit (.recorded securityRelevant)
    else return .commit (.alreadyRecorded securityRelevant)

/-- `record`. -/
def recordRejection (value : Value Scalar) (occurredAt : Nat)
    (s : Committed RejectionTables RejectionKeys) :
    RecordGuestResultRejectionResult × Committed RejectionTables RejectionKeys :=
  match parseRejectionRequest value with
  | none => (.invalidRequest, s)
  | some request => atomically .unavailable (recordRejectionBody request occurredAt) s

theorem recordRejection_class {value : Value Scalar} {occurredAt : Nat}
    {s next : Committed RejectionTables RejectionKeys} {securityRelevant : Bool}
    {answer : RecordGuestResultRejectionResult}
    (h : recordRejection value occurredAt s = (answer, next))
    (hrecorded : answer = .recorded securityRelevant ∨ answer = .alreadyRecorded securityRelevant) :
    ∃ request, parseRejectionRequest value = some request ∧
      securityRelevant = guestResultRejectionIsSecurityRelevant request.rejectionCode := by
  rw [recordRejection] at h
  cases hrequest : parseRejectionRequest value with
  | none =>
    rw [hrequest] at h
    cases h
    rcases hrecorded with hrecorded | hrecorded <;> cases hrecorded
  | some request =>
    rw [hrequest] at h
    dsimp only at h
    refine ⟨request, rfl, ?_⟩
    have hbody : ∀ verdict after, (recordRejectionBody request occurredAt).run s.val =
        .ok (verdict, after) →
        verdict = .commit (.recorded (guestResultRejectionIsSecurityRelevant request.rejectionCode)) ∨
        verdict = .commit
          (.alreadyRecorded (guestResultRejectionIsSecurityRelevant request.rejectionCode)) := by
      intro verdict after hrun
      rw [recordRejectionBody] at hrun
      obtain ⟨inserted, mid, -, hrun⟩ := Tx.run_bind_ok.mp hrun
      rw [Tx.run_bind_get] at hrun
      split at hrun
      · exact (Tx.run_fail_ok.mp hrun).elim
      · obtain ⟨_, _, -, hrun⟩ := Tx.run_bind_ok.mp hrun
        split at hrun
        · exact .inl (Tx.run_pure_ok.mp hrun).1
        · exact .inr (Tx.run_pure_ok.mp hrun).1
    rcases atomically_cases RecordGuestResultRejectionResult.unavailable
        (recordRejectionBody request occurredAt) s with
      ⟨given, after, hrun, heq⟩ | ⟨-, hunavailable | ⟨after, hrun⟩⟩
    · rw [h] at heq
      cases heq
      rcases hbody _ _ hrun with hverdict | hverdict <;> cases hverdict <;>
        rcases hrecorded with hrecorded | hrecorded <;> cases hrecorded <;> rfl
    · rw [h] at hunavailable
      rw [show answer = .unavailable from hunavailable] at hrecorded
      rcases hrecorded with hrecorded | hrecorded <;> cases hrecorded
    · rcases hbody _ _ hrun with hverdict | hverdict <;> cases hverdict

end Outscan

import Outscan.ScannerPolicy.Values
import Outscan.Target.CanonicalHost
import Outscan.Supervisor.Artifact

/-! The supervisor's decision on an execution envelope, against what it trusts. -/
namespace Outscan

open Dynamic

def executionEnvelopeKeys : List String :=
  ["schema_version", "job_id", "attempt_id", "fence", "canonical_target", "authorization_ref",
    "lease_expires_at_unix_seconds", "hard_deadline_unix_seconds", "policy", "artifact_identity"]

/-- The schema version of an envelope is 1. Its policy is a value that nobody has looked at,
and later the request that was allowed. -/
structure ExecutionEnvelope (Policy : Type) where
  jobId : String
  attemptId : String
  fence : Nat
  canonicalTarget : String
  authorizationRef : String
  leaseExpiresAt : Nat
  hardDeadline : Nat
  policy : Policy
  artifactIdentity : ScannerArtifactIdentity

structure TrustedExecutionState where
  now : Int
  jobId : String
  attemptId : String
  fence : Int
  canonicalTarget : String
  authorizationRef : String
  leaseExpiresAt : Int
  hardDeadline : Int
  approval : Option ScannerTemplateApproval

inductive SupervisorDenyCode where
  | invalidEnvelope | staleAttempt | authorizationMismatch | leaseExpired
  | attemptDeadlineExceeded | policyDenied | approvalRequired | approvalRevoked
  | artifactNotApproved
deriving DecidableEq, Repr

inductive SupervisorDecision where
  | allowed (envelope : ExecutionEnvelope ScannerExecutionRequest)
  | denied (code : SupervisorDenyCode) (message : String)
  | policyDenied (message : String) (policyDecision : PolicyDenyCode × String)

/-- A text of at most `maximum` units without white space at its ends. -/
def isBoundedString (maximum : Nat) (text : String) : Bool :=
  decide (0 < utf16Length text.toList) && decide (utf16Length text.toList ≤ maximum) &&
    decide (jsTrim text.toList = text.toList)

def parseEnvelope (input : Datum) : Option (ExecutionEnvelope Datum) := do
  guard (input.hasExactKeys executionEnvelopeKeys = true)
  guard ((input.get "schema_version").natural? = some 1)
  let jobId ← id? (input.get "job_id")
  let attemptId ← id? (input.get "attempt_id")
  let fence ← positiveInteger? (input.get "fence")
  let canonicalTarget ← (input.get "canonical_target").string?.filter (isBoundedString 253)
  let authorizationRef ← (input.get "authorization_ref").string?.filter (isBoundedString 256)
  let leaseExpiresAt ← positiveInteger? (input.get "lease_expires_at_unix_seconds")
  let hardDeadline ← positiveInteger? (input.get "hard_deadline_unix_seconds")
  let artifactIdentity ← parseArtifactIdentity (input.get "artifact_identity")
  return { jobId, attemptId, fence, canonicalTarget, authorizationRef, leaseExpiresAt,
           hardDeadline, policy := input.get "policy", artifactIdentity }

def authorizeSupervisorExecution (input : Datum) (trusted : TrustedExecutionState) :
    SupervisorDecision :=
  match parseEnvelope input with
  | none => .denied .invalidEnvelope "Execution envelope is invalid."
  | some envelope =>
    if envelope.jobId ≠ trusted.jobId ∨ envelope.attemptId ≠ trusted.attemptId ∨
        (envelope.fence : Int) ≠ trusted.fence then
      .denied .staleAttempt "Attempt identity or fence is stale."
    else if envelope.canonicalTarget ≠ trusted.canonicalTarget ∨
        envelope.authorizationRef ≠ trusted.authorizationRef then
      .denied .authorizationMismatch "Target authorization does not match trusted state."
    else if (envelope.leaseExpiresAt : Int) ≠ trusted.leaseExpiresAt ∨
        trusted.now ≥ trusted.leaseExpiresAt then
      .denied .leaseExpired "Attempt lease is expired or stale."
    else if (envelope.hardDeadline : Int) ≠ trusted.hardDeadline ∨
        trusted.now ≥ trusted.hardDeadline then
      .denied .attemptDeadlineExceeded "Attempt hard deadline is exceeded or stale."
    else
      match authorizeScannerExecution (policyOf envelope.policy) with
      | .denied code message => .policyDenied "Scanner policy denied execution." (code, message)
      | .allowed request =>
        if envelope.artifactIdentity.policyId.val ≠ "outscan-v1" ∨
            envelope.artifactIdentity.policyVersion.val ≠ "1.0.0" ∨
            envelope.artifactIdentity.profile.val ≠ request.profile.text then
          .denied .artifactNotApproved "Artifact identity does not match the execution policy."
        else
          match trusted.approval with
          | none => .denied .approvalRequired "Scanner artifact approval is required."
          | some approval =>
            if approval.status ≠ .approved then
              .denied .approvalRevoked "Scanner artifact approval is revoked."
            else if !matchesApproval envelope.artifactIdentity approval then
              .denied .artifactNotApproved "Scanner artifact identity is not approved."
            else .allowed { envelope with policy := request }

structure SupervisorApproved (trusted : TrustedExecutionState)
    (envelope : ExecutionEnvelope Datum) (request : ScannerExecutionRequest)
    (approval : ScannerTemplateApproval) : Prop where
  job : envelope.jobId = trusted.jobId
  attempt : envelope.attemptId = trusted.attemptId
  fence : (envelope.fence : Int) = trusted.fence
  target : envelope.canonicalTarget = trusted.canonicalTarget
  authorization : envelope.authorizationRef = trusted.authorizationRef
  lease : (envelope.leaseExpiresAt : Int) = trusted.leaseExpiresAt
  leased : trusted.now < trusted.leaseExpiresAt
  deadline : (envelope.hardDeadline : Int) = trusted.hardDeadline
  inTime : trusted.now < trusted.hardDeadline
  policy : authorizeScannerExecution (policyOf envelope.policy) = .allowed request
  policyId : envelope.artifactIdentity.policyId.val = "outscan-v1"
  policyVersion : envelope.artifactIdentity.policyVersion.val = "1.0.0"
  profile : envelope.artifactIdentity.profile.val = request.profile.text
  granted : trusted.approval = some approval
  approved : approval.status = .approved
  artifact : parseArtifactIdentity approval.artifactIdentity = some envelope.artifactIdentity

/-- Exactly the envelopes that agree with the trusted state are allowed. -/
theorem authorizeSupervisorExecution_eq_allowed {input : Datum} {trusted : TrustedExecutionState}
    {allowed : ExecutionEnvelope ScannerExecutionRequest} :
    authorizeSupervisorExecution input trusted = .allowed allowed ↔
      ∃ envelope request approval, parseEnvelope input = some envelope ∧
        SupervisorApproved trusted envelope request approval ∧
        allowed = { envelope with policy := request } := by
  unfold authorizeSupervisorExecution
  cases parseEnvelope input with
  | none => simp
  | some envelope =>
    dsimp only
    constructor
    · intro h
      split at h
      · cases h
      rename_i hidentity
      split at h
      · cases h
      rename_i htarget
      split at h
      · cases h
      rename_i hlease
      split at h
      · cases h
      rename_i hdeadline
      split at h
      · cases h
      rename_i request hpolicy
      split at h
      · cases h
      rename_i hartifact
      split at h
      · cases h
      rename_i approval happroval
      split at h
      · cases h
      rename_i hstatus
      split at h
      · cases h
      rename_i hmatches
      cases h
      simp only [not_or, not_not] at hidentity htarget hlease hdeadline hartifact hstatus
      simp only [Bool.not_eq_true', Bool.not_eq_false] at hmatches
      refine ⟨envelope, request, approval, rfl, ?_, rfl⟩
      exact {
        job := hidentity.1
        attempt := hidentity.2.1
        fence := hidentity.2.2
        target := htarget.1
        authorization := htarget.2
        lease := hlease.1
        leased := Int.not_le.mp hlease.2
        deadline := hdeadline.1
        inTime := Int.not_le.mp hdeadline.2
        policy := hpolicy
        policyId := hartifact.1
        policyVersion := hartifact.2.1
        profile := hartifact.2.2
        granted := happroval
        approved := hstatus
        artifact := matchesApproval_iff.mp hmatches }
    · rintro ⟨found, request, approval, hfound, h, rfl⟩
      cases hfound
      have hlease : ¬ trusted.now ≥ trusted.leaseExpiresAt := Int.not_le.mpr h.leased
      have hdeadline : ¬ trusted.now ≥ trusted.hardDeadline := Int.not_le.mpr h.inTime
      simp only [h.job, h.attempt, h.fence, h.target, h.authorization, h.lease, h.deadline, hlease,
        hdeadline, h.policy, h.policyId, h.policyVersion, h.profile, h.granted, h.approved,
        matchesApproval_iff.mpr h.artifact, ne_eq, not_true, or_self, if_false, Bool.not_true,
        Bool.false_eq_true]

/-! ### Texts of an honest envelope -/

theorem printable_of_isIdTail {c : Char} (h : isIdTail c = true) : Printable c := by
  simp only [isIdTail, Bool.or_eq_true, beq_iff_eq] at h
  rcases h with (halnum | rfl) | rfl
  · exact printable_of_isAlphanum halnum
  · exact ⟨by decide, by decide⟩
  · exact ⟨by decide, by decide⟩

theorem isBoundedString_of_printable {maximum : Nat} {text : String} (hne : text.toList ≠ [])
    (hlength : text.toList.length ≤ maximum) (h : ∀ c ∈ text.toList, Printable c) :
    isBoundedString maximum text = true := by
  have hascii : utf16Length text.toList = text.toList.length :=
    utf16Length_eq_length fun c hc => Nat.lt_of_le_of_lt (h c hc).2 (by decide)
  simp only [isBoundedString, hascii, jsTrim_of_printable h, Bool.and_eq_true, decide_eq_true_eq]
  exact ⟨⟨List.length_pos_iff.mpr hne, hlength⟩, trivial⟩

theorem printable_of_validId {id : String} (h : validId id = true) :
    id.toList ≠ [] ∧ id.toList.length ≤ 128 ∧ ∀ c ∈ id.toList, Printable c := by
  unfold validId at h
  split at h
  · cases h
  · rename_i head tail hid
    simp only [Bool.and_eq_true, List.all_eq_true, decide_eq_true_eq] at h
    obtain ⟨⟨hhead, htail⟩, hlength⟩ := h
    rw [hid]
    refine ⟨List.cons_ne_nil _ _, Nat.succ_le_succ hlength, ?_⟩
    rw [List.forall_mem_cons]
    exact ⟨printable_of_isAlphanum hhead, fun c hc => printable_of_isIdTail (htail c hc)⟩

theorem isBoundedString_of_canonical {node : NodeRuntime} {input host : String}
    (h : canonicalizeHostname node input = .ok host) : isBoundedString 253 host = true := by
  have hshape := hasValidDnsShape_of_canonicalizeHostname h
  refine isBoundedString_of_printable ?_ (length_le_of_hasValidDnsShape hshape)
    fun c hc => printable_of_isHostChar (isHostChar_of_mem hshape hc)
  intro hempty
  rw [hempty] at hshape
  exact absurd hshape (by decide)

end Outscan

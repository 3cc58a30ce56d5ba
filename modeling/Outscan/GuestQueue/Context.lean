import Mathlib.Data.Option.Basic
import Outscan.Creation.Replay
import Outscan.GuestQueue.Standing
import Outscan.Supervisor.Launch

/-! From a lease to what the supervisor is asked to run: the context of an attempt. -/
namespace Outscan

open Dynamic

/-! ### Approvals -/

def approvalKeys : List String := ["approval_id", "status", "artifact_identity"]

def statusField (value : Datum) : Option ApprovalStatus :=
  value.string?.bind fun text =>
    if text = "APPROVED" then some .approved
    else if text = "REVOKED" then some .revoked
    else none

def ScannerArtifactIdentity.IsGuest (artifact : ScannerArtifactIdentity) : Prop :=
  artifact.policyId.val = "outscan-v1" ∧ artifact.policyVersion.val = "1.0.0" ∧
    artifact.profile.val = "GUEST_SAFE"

instance (artifact : ScannerArtifactIdentity) : Decidable artifact.IsGuest :=
  inferInstanceAs (Decidable (_ ∧ _ ∧ _))

def parseApproval (value : Datum) : Option ScannerTemplateApproval := do
  guard (value.hasExactKeys approvalKeys = true)
  let approvalId ← id? (value.get "approval_id")
  let status ← statusField (value.get "status")
  let artifact ← parseArtifactIdentity (value.get "artifact_identity")
  guard artifact.IsGuest
  return { approvalId, status, artifactIdentity := artifact.datum }

theorem parseApproval_artifact {value : Datum} {approval : ScannerTemplateApproval}
    (h : parseApproval value = some approval) :
    ∃ artifact : ScannerArtifactIdentity, artifact.IsGuest ∧
      approval.artifactIdentity = artifact.datum := by
  simp only [parseApproval, Option.bind_eq_bind, Option.bind_eq_some_iff, Option.guard_eq_some',
    Option.pure_def, Option.some.injEq, exists_const] at h
  obtain ⟨-, approvalId, -, status, -, artifact, -, hguest, rfl⟩ := h
  exact ⟨artifact, hguest, rfl⟩

/-! ### The context of a lease -/

def guestSafePolicy : ScannerExecutionRequest where
  profile := .guestSafe
  requestedCapabilities := allowedCapabilities .guestSafe
  budgets := budgetCeilings .guestSafe
  profile_ne_active := by decide
  capabilities_allowed := fun _ h => h
  capabilities_nodup := by decide
  budgets_within := by constructor <;> exact le_refl _

def authorizationRef (guestScanId : String) : String := "guest-scan:" ++ guestScanId

structure GuestExecutionContext where
  envelope : Datum
  trusted : TrustedExecutionState

def GuestAttemptLease.envelope (lease : GuestAttemptLease) (approval : ScannerTemplateApproval) :
    Datum :=
  .object [("schema_version", .number (.whole 1)), ("job_id", .string lease.guestScanId),
    ("attempt_id", .string lease.attemptId), ("fence", .number (.whole lease.monotonicFence)),
    ("canonical_target", .string lease.canonicalTarget),
    ("authorization_ref", .string (authorizationRef lease.guestScanId)),
    ("lease_expires_at_unix_seconds", .number (.whole lease.leaseExpiresAt)),
    ("hard_deadline_unix_seconds", .number (.whole lease.hardDeadline)),
    ("policy", guestSafePolicy.datum), ("artifact_identity", approval.artifactIdentity)]

def GuestAttemptLease.trusted (lease : GuestAttemptLease) (now : Int)
    (approval : ScannerTemplateApproval) : TrustedExecutionState where
  now := now
  jobId := lease.guestScanId
  attemptId := lease.attemptId
  fence := lease.monotonicFence
  canonicalTarget := lease.canonicalTarget
  authorizationRef := authorizationRef lease.guestScanId
  leaseExpiresAt := lease.leaseExpiresAt
  hardDeadline := lease.hardDeadline
  approval := some approval

/-- `load`; `none` stands for a provider that throws. -/
def loadContext (clock : ClockReading) (rawApproval : Option Datum) (lease : GuestAttemptLease) :
    Option GuestExecutionContext := do
  let now ← clock
  let value ← rawApproval
  let approval ← parseApproval value
  guard (0 < now ∧ now ≤ (maxSafeInteger : Int) ∧ now < (lease.leaseExpiresAt : Int) ∧
    now < (lease.hardDeadline : Int))
  return ⟨lease.envelope approval, lease.trusted now approval⟩

/-! ### Leases of a reachable service -/

structure GuestAttemptLease.WellFormed (node : NodeRuntime) (lease : GuestAttemptLease) : Prop where
  scanId : validId lease.guestScanId = true
  attemptId : validId lease.attemptId = true
  fence : isPositiveSafeInteger lease.monotonicFence = true
  expiry : isPositiveSafeInteger lease.leaseExpiresAt = true
  deadline : isPositiveSafeInteger lease.hardDeadline = true
  target : canonicalizeHostname node lease.canonicalTarget = .ok lease.canonicalTarget

theorem GuestScanAttempt.Constraints.times {row : GuestScanAttempt} (h : row.Constraints)
    {expiry : Nat} (hexpiry : row.leaseExpiresAt = some expiry) :
    isPositiveSafeInteger expiry = true ∧ isPositiveSafeInteger row.hardDeadline = true := by
  have hlease := h.time.lease expiry hexpiry
  have hrange := h.range.1
  have hend : timestampEnd ≤ maxSafeInteger := by decide
  rw [isPositiveSafeInteger_iff, isPositiveSafeInteger_iff]
  omega

theorem acquire_wellFormed {node : NodeRuntime} {db : Database} (hreach : Reachable node db)
    {guestScanId : String} {createAttemptId : Option String} {clock : ClockReading}
    {lease : GuestAttemptLease}
    (h : (acquire guestScanId createAttemptId clock db).1 = .leaseAcquired lease) :
    lease.WellFormed node := by
  obtain ⟨g, current, hg, hstanding, -, -⟩ := acquire_standing hreach.sound h
  have hafter : Reachable node (exec node db (.acquire guestScanId createAttemptId clock)).2 :=
    Machine.Reachable.step hreach _
  have htargets := hafter.canonicalTargets
  have hscan := Tables.scan_check_of_aggregate? hg
  have hattempt : current.Constraints := Tables.attempt_check_of_aggregate? hg hstanding.mem
  obtain ⟨hexpiry, hdeadline⟩ := hattempt.times (hstanding.expiry hattempt)
  have hfence : isPositiveSafeInteger current.monotonicFence = true :=
    isPositiveSafeInteger_iff.mpr hattempt.fence
  exact {
    scanId := hstanding.scanId ▸ hscan.id_valid
    attemptId := hstanding.attemptId ▸ hattempt.id_valid
    fence := hstanding.fence ▸ hfence
    expiry := hexpiry
    deadline := hstanding.deadline ▸ hdeadline
    target := by
      have htarget : g.scan.canonicalTarget = lease.canonicalTarget :=
        congrArg GuestAttemptLease.canonicalTarget hstanding.lease
      rw [← htarget]
      exact htargets _ g hg }

/-! ### The context is allowed -/

theorem isBoundedString_authorizationRef {guestScanId : String} (h : validId guestScanId = true) :
    isBoundedString 256 (authorizationRef guestScanId) = true := by
  obtain ⟨-, hlength, hprintable⟩ := printable_of_validId h
  have hlist : (authorizationRef guestScanId).toList =
      "guest-scan:".toList ++ guestScanId.toList := String.toList_append
  refine isBoundedString_of_printable ?_ ?_ ?_
  · rw [hlist]
    exact List.append_ne_nil_of_left_ne_nil (by decide) _
  · have hfront : "guest-scan:".toList.length = 11 := rfl
    rw [hlist, List.length_append, hfront]
    omega
  · have hfixed : ("guest-scan:".toList.all fun c => decide (Printable c)) = true := by decide
    rw [hlist]
    intro c hc
    rcases List.mem_append.mp hc with hfront | hid
    · exact of_decide_eq_true (List.all_eq_true.mp hfixed c hfront)
    · exact hprintable c hid

def GuestAttemptLease.execution (lease : GuestAttemptLease) (artifact : ScannerArtifactIdentity) :
    ExecutionEnvelope Datum where
  jobId := lease.guestScanId
  attemptId := lease.attemptId
  fence := lease.monotonicFence
  canonicalTarget := lease.canonicalTarget
  authorizationRef := authorizationRef lease.guestScanId
  leaseExpiresAt := lease.leaseExpiresAt
  hardDeadline := lease.hardDeadline
  policy := guestSafePolicy.datum
  artifactIdentity := artifact

theorem parseEnvelope_lease {node : NodeRuntime} {lease : GuestAttemptLease}
    (h : lease.WellFormed node) {approval : ScannerTemplateApproval}
    {artifact : ScannerArtifactIdentity} (happroval : approval.artifactIdentity = artifact.datum) :
    parseEnvelope (lease.envelope approval) = some (lease.execution artifact) := by
  have hkeys : (lease.envelope approval).hasExactKeys executionEnvelopeKeys = true := rfl
  have hversion : ((lease.envelope approval).get "schema_version").natural? = some 1 := rfl
  have hjob : id? ((lease.envelope approval).get "job_id") = some lease.guestScanId :=
    id?_string h.scanId
  have hattempt : id? ((lease.envelope approval).get "attempt_id") = some lease.attemptId :=
    id?_string h.attemptId
  have hfence : positiveInteger? ((lease.envelope approval).get "fence") =
      some lease.monotonicFence := positiveInteger?_whole h.fence
  have htarget : ((lease.envelope approval).get "canonical_target").string?.filter
      (isBoundedString 253) = some lease.canonicalTarget := by
    change (some lease.canonicalTarget).filter (isBoundedString 253) = _
    rw [Option.filter_some, if_pos (isBoundedString_of_canonical h.target)]
  have hauthorization : ((lease.envelope approval).get "authorization_ref").string?.filter
      (isBoundedString 256) = some (authorizationRef lease.guestScanId) := by
    change (some (authorizationRef lease.guestScanId)).filter (isBoundedString 256) = _
    rw [Option.filter_some, if_pos (isBoundedString_authorizationRef h.scanId)]
  have hexpiry : positiveInteger?
      ((lease.envelope approval).get "lease_expires_at_unix_seconds") =
        some lease.leaseExpiresAt := positiveInteger?_whole h.expiry
  have hdeadline : positiveInteger?
      ((lease.envelope approval).get "hard_deadline_unix_seconds") =
        some lease.hardDeadline := positiveInteger?_whole h.deadline
  have hartifact : parseArtifactIdentity ((lease.envelope approval).get "artifact_identity") =
      some artifact := by
    change parseArtifactIdentity approval.artifactIdentity = _
    rw [happroval, parseArtifactIdentity_datum]
  simp only [parseEnvelope, hkeys, hversion, hjob, hattempt, hfence, htarget, hauthorization,
    hexpiry, hdeadline, hartifact]
  rfl

theorem loadContext_of {clock : ClockReading} {now : Int} {value : Datum}
    {approval : ScannerTemplateApproval} {node : NodeRuntime} {lease : GuestAttemptLease}
    (hlease : lease.WellFormed node) (hclock : clock = some now)
    (happroval : parseApproval value = some approval) (hpositive : 0 < now)
    (hleased : now < lease.leaseExpiresAt) (hdeadline : now < lease.hardDeadline) :
    loadContext clock (some value) lease =
      some ⟨lease.envelope approval, lease.trusted now approval⟩ := by
  have hsafe : now ≤ (maxSafeInteger : Int) := by
    have hexpiry := (isPositiveSafeInteger_iff.mp hlease.expiry).2
    omega
  have hguard : 0 < now ∧ now ≤ (maxSafeInteger : Int) ∧ now < (lease.leaseExpiresAt : Int) ∧
      now < (lease.hardDeadline : Int) := ⟨hpositive, hsafe, hleased, hdeadline⟩
  simp only [loadContext, hclock, happroval, hguard, Option.bind_eq_bind, Option.bind_some,
    Option.pure_def, guard, and_self, if_true]

theorem authorize_lease {node : NodeRuntime} {lease : GuestAttemptLease}
    (h : lease.WellFormed node) {approval : ScannerTemplateApproval}
    {artifact : ScannerArtifactIdentity} (happroval : approval.artifactIdentity = artifact.datum)
    (hguest : artifact.IsGuest) (hstatus : approval.status = .approved) {now : Int}
    (hleased : now < lease.leaseExpiresAt) (hdeadline : now < lease.hardDeadline) :
    authorizeSupervisorExecution (lease.envelope approval) (lease.trusted now approval) =
      .allowed { lease.execution artifact with policy := guestSafePolicy } := by
  refine authorizeSupervisorExecution_eq_allowed.mpr
    ⟨lease.execution artifact, guestSafePolicy, approval, parseEnvelope_lease h happroval, ?_, rfl⟩
  exact {
    job := rfl
    attempt := rfl
    fence := rfl
    target := rfl
    authorization := rfl
    lease := rfl
    leased := hleased
    deadline := rfl
    inTime := hdeadline
    policy := authorizeScannerExecution_datum guestSafePolicy
    policyId := hguest.1
    policyVersion := hguest.2.1
    profile := hguest.2.2
    granted := rfl
    approved := hstatus
    artifact := by
      rw [happroval, parseArtifactIdentity_datum]
      rfl }

/-! ### From the lease to the scanner -/

theorem guestSafePolicy_short : (Json.write guestSafePolicy.json).length ≤ 1000 := by
  decide +kernel

theorem guestSafePolicy_capabilities :
    ∀ c ∈ requiredCapabilities, c ∈ guestSafePolicy.requestedCapabilities := by decide

theorem guestSafePolicy_sufficient : guestSafePolicy.budgets.Sufficient := by decide

/-- Every lease that `acquire` hands out reaches the scanner: its context is allowed, the plan is
encoded for the approved artifact, and the scanner accepts what arrives. And whatever is allowed
agrees with the trusted state in every field. -/
theorem lease_reaches_scanner (node : NodeRuntime) :
    (∀ db guestScanId createAttemptId clock lease, Reachable node db →
      (acquire guestScanId createAttemptId clock db).1 = .leaseAcquired lease →
      ∀ rawApproval approval, parseApproval rawApproval = some approval →
      approval.status = .approved →
      ∀ configuredArtifact, parseArtifactIdentity configuredArtifact =
        parseArtifactIdentity approval.artifactIdentity →
      ∀ now : Int, 0 < now → now < lease.leaseExpiresAt → now < lease.hardDeadline →
      ∃ context envelope bytes,
        loadContext (some now) (some rawApproval) lease = some context ∧
        authorizeSupervisorExecution context.envelope context.trusted = .allowed envelope ∧
        encodeApprovedScannerInput node (launchPlan envelope) configuredArtifact = some bytes ∧
        ∀ chunks : List (List UInt8), chunks.flatten = bytes →
          chunks.length ≤ maxScannerInputChunks →
          ∃ value input, readInput chunks = some value ∧
            scannerInput node (scannerValueOf value) = some input ∧
            input.canonicalHost = lease.canonicalTarget ∧ input.policy = envelope.policy) ∧
    ∀ input trusted allowed, authorizeSupervisorExecution input trusted = .allowed allowed →
      ∃ envelope approval, parseEnvelope input = some envelope ∧
        SupervisorApproved trusted envelope allowed.policy approval ∧
        allowed = { envelope with policy := allowed.policy } := by
  constructor
  · intro db guestScanId createAttemptId clock lease hreach hacquired rawApproval approval
      happroval hstatus configuredArtifact hconfigured now hpositive hleased hdeadline
    have hlease := acquire_wellFormed hreach hacquired
    obtain ⟨artifact, hguest, hartifact⟩ := parseApproval_artifact happroval
    rw [hartifact, parseArtifactIdentity_datum] at hconfigured
    have hlength := length_scannerInputBytes_le hlease.target guestSafePolicy_short
    refine ⟨_, { lease.execution artifact with policy := guestSafePolicy }, _,
      loadContext_of hlease rfl happroval hpositive hleased hdeadline,
      authorize_lease hlease hartifact hguest hstatus hleased hdeadline,
      encodeApprovedScannerInput_plan hconfigured hlease.target hguest.2.2 hguest.1 hguest.2.1
        hlength, ?_⟩
    intro chunks hbytes hchunks
    exact ⟨_, _, readInput_bytes hbytes hlength hchunks,
      scannerInput_json hlease.target rfl guestSafePolicy_capabilities guestSafePolicy_sufficient,
      rfl, rfl⟩
  · intro input trusted allowed hallowed
    obtain ⟨envelope, request, approval, hparse, happroved, rfl⟩ :=
      authorizeSupervisorExecution_eq_allowed.mp hallowed
    exact ⟨envelope, approval, hparse, happroved, rfl⟩

def sampleArtifact : ScannerArtifactIdentity where
  templateWorkflowDigest := Bytes32.fill 1
  transitiveDependencyDigests := ⟨[Bytes32.fill 2, Bytes32.fill 3], by decide, by decide,
    by decide +kernel⟩
  engineVersion := ⟨"1.0.0", by decide⟩
  scannerImageDigest := Bytes32.fill 4
  configVersion := ⟨"2026.1", by decide⟩
  policyId := ⟨"outscan-v1", by decide⟩
  policyVersion := ⟨"1.0.0", by decide⟩
  profile := ⟨"GUEST_SAFE", by decide⟩

def sampleRawApproval : Datum :=
  .object [("approval_id", .string "approval-1"), ("status", .string "APPROVED"),
    ("artifact_identity", sampleArtifact.datumWith [Bytes32.fill 3, Bytes32.fill 2])]

theorem parseApproval_sample :
    parseApproval sampleRawApproval = some ⟨"approval-1", .approved, sampleArtifact.datum⟩ := by
  have hartifact : parseArtifactIdentity (sampleRawApproval.get "artifact_identity") =
      some sampleArtifact :=
    parseArtifactIdentity_datumWith sampleArtifact (List.Perm.swap _ _ _)
  have hkeys : sampleRawApproval.hasExactKeys approvalKeys = true := rfl
  have hid : id? (sampleRawApproval.get "approval_id") = some "approval-1" := id?_string (by decide)
  have hstatus : statusField (sampleRawApproval.get "status") = some .approved := rfl
  have hguest : sampleArtifact.IsGuest := ⟨rfl, rfl, rfl⟩
  simp only [parseApproval, hkeys, hid, hstatus, hartifact, hguest, guard, if_true,
    Option.bind_eq_bind, Option.pure_def, Option.bind_some]

/-- The lease of the small service, ten seconds before it runs out. -/
theorem lease_reaches_scanner_sample :
    ∃ context envelope bytes,
      loadContext (some 1006) (some sampleRawApproval) sampleLease = some context ∧
      authorizeSupervisorExecution context.envelope context.trusted = .allowed envelope ∧
      encodeApprovedScannerInput sampleNode (launchPlan envelope) sampleArtifact.datum =
        some bytes ∧
      ∃ value input, readInput [bytes] = some value ∧
        scannerInput sampleNode (scannerValueOf value) = some input ∧
        input.canonicalHost = "example.com" ∧ input.policy = envelope.policy := by
  have hacquired : (acquire "scan-1" (some "attempt-1") (some 1001) sampleCreated).1 =
      .leaseAcquired sampleLease := by decide +kernel
  obtain ⟨context, envelope, bytes, hload, hallowed, hencoded, hread⟩ :=
    (lease_reaches_scanner sampleNode).1 sampleCreated "scan-1" (some "attempt-1") (some 1001)
      sampleLease sampleCreated_reachable hacquired sampleRawApproval _ parseApproval_sample rfl
      sampleArtifact.datum rfl 1006 (by decide) (by decide) (by decide)
  exact ⟨context, envelope, bytes, hload, hallowed, hencoded,
    hread [bytes] (List.append_nil _) (show 1 ≤ 64 by decide)⟩

end Outscan

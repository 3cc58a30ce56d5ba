import Outscan.GuestScanner.Report
import Outscan.ResultEnvelope.Binding
import Outscan.Supervisor.Runs

/-! What the supervisor submits, at the ingress: the committer verifies it and brings it into the
canonical form that it is in already. -/
namespace Outscan

open Dynamic Machine

def canonicalProducer (runtime : EnvelopeRuntime) (locale : LocaleOrder) : CanonicalProducer :=
  fun payload limit =>
    (produceCanonicalGuestScannerResult runtime locale (.bytes payload)
      (.number (.whole limit))).toOption

theorem canonicalProducer_eq_some {runtime : EnvelopeRuntime} {locale : LocaleOrder}
    {payload : List UInt8} {limit : Nat} {result : CanonicalGuestScannerResult} :
    canonicalProducer runtime locale payload limit = some result ↔
      produceCanonicalGuestScannerResult runtime locale (.bytes payload)
        (.number (.whole limit)) = .ok result := by
  unfold canonicalProducer
  cases produceCanonicalGuestScannerResult runtime locale (.bytes payload)
    (.number (.whole limit)) with
  | error error => simp [Except.toOption]
  | ok found => simp [Except.toOption]

theorem le_of_outputLimit? {limit found : Nat}
    (h : outputLimit? (.number (.whole limit)) = some found) :
    found = limit ∧ 0 < found ∧ found ≤ maxGuestOutputBytes := by
  rw [outputLimit?, Datum.natural?, if_pos (Int.natCast_nonneg limit), Int.toNat_natCast,
    Option.filter_some] at h
  split at h
  · rename_i hbounds
    cases h
    simp only [Bool.and_eq_true, decide_eq_true_eq] at hbounds
    exact ⟨rfl, hbounds⟩
  · cases h

theorem canonicalProducer_again {runtime : EnvelopeRuntime} {locale : LocaleOrder}
    {payload : List UInt8} {limit other : Nat} {result : CanonicalGuestScannerResult}
    (h : canonicalProducer runtime locale payload limit = some result) (hle : limit ≤ other)
    (hother : other ≤ maxGuestOutputBytes) :
    canonicalProducer runtime locale result.canonicalPayload other = some result ∧
      result.payloadSize = result.canonicalPayload.length ∧
      result.payloadDigest = runtime.sha256 result.canonicalPayload ∧
      result.payloadSize ≤ limit := by
  have hproduced := canonicalProducer_eq_some.mp h
  obtain ⟨found, hfound, hfits, hsize, hdigest⟩ := payloadSize_le hproduced
  obtain ⟨rfl, hpos, -⟩ := le_of_outputLimit? hfound
  have hlimit : outputLimit? (.number (.whole other)) = some other :=
    outputLimit?_whole (hpos.trans_le hle) hother
  exact ⟨canonicalProducer_eq_some.mpr
    (produce_canonicalPayload hproduced hlimit (hfits.trans hle)), hsize, hdigest, hfits⟩

/-! ### Only a key signs -/

section

variable {runtime : EnvelopeRuntime} {canonical : CanonicalProducer} {context : SupervisorContext}

def SupervisorPhase.Unsigned (phase : SupervisorPhase) : Prop :=
  ∀ signed projection, phase ≠ .returned (.ok signed projection)

namespace SupervisorRun

variable {s : SupervisorRun}

theorem unsigned_stopWithEscalation (code : GuestSupervisorRunCode) :
    (s.stopWithEscalation context code).phase.Unsigned := by
  unfold stopWithEscalation
  split <;> nofun

theorem unsigned_takeLaunch (outcome : LaunchOutcome) (now : Int) :
    (s.takeLaunch context outcome now).phase.Unsigned := by
  unfold takeLaunch
  split
  · nofun
  · split
    · nofun
    · dsimp only
      split
      · exact unsigned_stopWithEscalation _
      · nofun

theorem unsigned_takeExit (payload : List UInt8) (completion : ScannerProcessCompletion)
    (trustedNow : Option ClockReading) :
    (s.takeExit context canonical payload completion trustedNow).phase.Unsigned := by
  unfold takeExit
  split
  · exact unsigned_stopWithEscalation _
  · dsimp only
    split
    · nofun
    · unfold takeOutput
      split
      · nofun
      · split
        · nofun
        · split <;> nofun

theorem unsigned_endGrace (code : GuestSupervisorRunCode) (completion : ScannerProcessCompletion) :
    (s.endGrace code completion).phase.Unsigned := by
  unfold endGrace
  split <;> nofun

theorem unsigned_takeFrame (h : s.phase.Unsigned) (timeoutMs : Int)
    (source : Option (List NextResult)) (now : Int) :
    (s.takeFrame context timeoutMs source now).phase.Unsigned := by
  unfold takeFrame
  split
  · exact h
  · exact unsigned_stopWithEscalation _
  · unfold awaitExit
    split
    · exact unsigned_stopWithEscalation _
    · split
      · exact unsigned_stopWithEscalation _
      · nofun

theorem unsigned_killLate (h : s.phase.Unsigned) (outcome : LaunchOutcome) :
    (s.killLate outcome).phase.Unsigned := by
  unfold killLate
  split
  · exact h
  · split
    · exact h
    · exact h

theorem unsigned_react (h : s.phase.Unsigned) (now : Int) (trustedNow : Option ClockReading) :
    (s.react context canonical now trustedNow).phase.Unsigned := by
  unfold react
  split
  · exact unsigned_takeLaunch _ _
  · exact unsigned_takeExit _ _ _
  · exact unsigned_endGrace _ _
  · split
    · exact unsigned_killLate h _
    · exact h
  · exact h

theorem unsigned_abort (h : s.phase.Unsigned) : (s.abort context).phase.Unsigned := by
  unfold abort
  split
  · nofun
  · exact unsigned_stopWithEscalation _
  · exact h

theorem unsigned_timer (h : s.phase.Unsigned) : (s.timer context).phase.Unsigned := by
  unfold timer
  split
  · nofun
  · exact unsigned_stopWithEscalation _
  · nofun
  · exact h

end SupervisorRun

theorem phase_of_returned {s : SupervisorRun} {result : GuestSupervisorRunResult}
    (h : s.phase = .returned result) (event : SupervisorEvent) :
    (supervisorStep runtime canonical context s event).phase = .returned result := by
  cases event with
  | launched outcome =>
    simp only [supervisorStep, SupervisorRun.settleLaunch]
    split <;> exact h
  | completed outcome =>
    simp only [supervisorStep, SupervisorRun.settleCompletion]
    split <;> exact h
  | abort =>
    simp only [supervisorStep, SupervisorRun.abort, h]
    split
    · exact h
    · rfl
  | react now trustedNow =>
    simp only [supervisorStep, SupervisorRun.react, h]
    split
    · cases ‹SupervisorPhase.returned result = .launching›
    · cases ‹SupervisorPhase.returned result = .exiting _›
    · cases ‹SupervisorPhase.returned result = .stopping _›
    · split
      · unfold SupervisorRun.killLate
        split
        · exact h
        · split <;> exact h
      · exact h
    · exact h
  | timer => simp only [supervisorStep, SupervisorRun.timer, h]
  | ipc source now => simp only [supervisorStep, SupervisorRun.ipc, h]
  | key value => simp only [supervisorStep, SupervisorRun.key, h]

/-- The key that a submission was signed with was handed over in the run. -/
structure KeyedBy (runtime : EnvelopeRuntime) (canonical : CanonicalProducer)
    (context : SupervisorContext) (events : List SupervisorEvent) (signed : SignedResultEnvelope)
    (projection : SanitizedGuestProjection) (keyVersion : Nat) (key : List UInt8) : Prop where
  handed : ∃ value, SupervisorEvent.key (.ok value) ∈ events ∧
    snapshotSigningKey value = some (keyVersion, key)
  earned : ∃ result now, Signable canonical context events result now ∧
    projection = result.projection ∧
    signResultEnvelope runtime (context.signingInput result)
      (context.signingContext now keyVersion key) = .ok signed

theorem KeyedBy.append {events : List SupervisorEvent} {signed : SignedResultEnvelope}
    {projection : SanitizedGuestProjection} {keyVersion : Nat} {key : List UInt8}
    (h : KeyedBy runtime canonical context events signed projection keyVersion key)
    (later : List SupervisorEvent) :
    KeyedBy runtime canonical context (events ++ later) signed projection keyVersion key := by
  obtain ⟨value, hmem, hkey⟩ := h.handed
  obtain ⟨result, now, hsignable, hrest⟩ := h.earned
  exact ⟨⟨value, List.mem_append_left _ hmem, hkey⟩, result, now, hsignable.append later, hrest⟩

def Keyed (runtime : EnvelopeRuntime) (canonical : CanonicalProducer)
    (context : SupervisorContext) (events : List SupervisorEvent) (s : SupervisorRun) : Prop :=
  ∀ signed projection, s.phase = .returned (.ok signed projection) →
    ∃ keyVersion key, KeyedBy runtime canonical context events signed projection keyVersion key

theorem keyed_takeKey {s : SupervisorRun} {events : List SupervisorEvent}
    {result : CanonicalGuestScannerResult} {now : Nat}
    (hsignable : Signable canonical context events result now) {value : Except Unit (Value Scalar)}
    (hevent : SupervisorEvent.key value ∈ events) :
    Keyed runtime canonical context events (s.takeKey runtime context result now value) := by
  intro signed projection h
  unfold SupervisorRun.takeKey at h
  split at h
  · cases h
  · split at h
    · cases h
    · rename_i keyVersion key hkey
      split at h
      · cases h
      · rename_i found hsigned
        cases h
        exact ⟨keyVersion, key, ⟨_, hevent, hkey⟩, result, now, hsignable, rfl, hsigned⟩

theorem keyed_step {s : SupervisorRun} {events : List SupervisorEvent}
    (htold : Told runtime canonical context events s)
    (h : Keyed runtime canonical context events s) (event : SupervisorEvent) :
    Keyed runtime canonical context (events ++ [event])
      (supervisorStep runtime canonical context s event) := by
  by_cases hunsigned : s.phase.Unsigned
  · have hnone : ∀ {s' : SupervisorRun}, s'.phase.Unsigned →
        Keyed runtime canonical context (events ++ [event]) s' :=
      fun hs' signed projection hphase => absurd hphase (hs' signed projection)
    cases event with
    | launched outcome =>
      simp only [supervisorStep, SupervisorRun.settleLaunch]
      split <;> exact hnone hunsigned
    | completed outcome =>
      simp only [supervisorStep, SupervisorRun.settleCompletion]
      split <;> exact hnone hunsigned
    | abort =>
      simp only [supervisorStep]
      split
      · exact hnone hunsigned
      · exact hnone (SupervisorRun.unsigned_abort hunsigned)
    | react now trustedNow => exact hnone (SupervisorRun.unsigned_react hunsigned now trustedNow)
    | timer => exact hnone (SupervisorRun.unsigned_timer hunsigned)
    | ipc source now =>
      simp only [supervisorStep, SupervisorRun.ipc]
      split
      · exact hnone (SupervisorRun.unsigned_takeFrame hunsigned _ _ _)
      · exact hnone hunsigned
    | key value =>
      simp only [supervisorStep, SupervisorRun.key]
      split
      · rename_i result now hphase
        have hsigning := htold.phase
        rw [hphase] at hsigning
        exact keyed_takeKey (hsigning.2.append _) (List.mem_append_right _ List.mem_cons_self)
      · exact hnone hunsigned
  · simp only [SupervisorPhase.Unsigned, not_forall, not_not] at hunsigned
    obtain ⟨signed, projection, hphase⟩ := hunsigned
    intro signed' projection' hphase'
    rw [phase_of_returned hphase] at hphase'
    cases hphase'
    obtain ⟨keyVersion, key, hkeyed⟩ := h signed projection hphase
    exact ⟨keyVersion, key, hkeyed.append [event]⟩

theorem keyed_run {start : SupervisorRun} (htold : Told runtime canonical context [] start)
    (h : Keyed runtime canonical context [] start) (events : List SupervisorEvent) :
    Keyed runtime canonical context events
      (run (supervisorMachine runtime canonical context) start events) :=
  (history_induction (supervisorMachine runtime canonical context)
    (P := fun events _ s => Told runtime canonical context events s ∧
      Keyed runtime canonical context events s)
    ⟨htold, h⟩
    (fun _ _ _ event hs => ⟨told_step hs.1 event, keyed_step hs.1 hs.2 event⟩) events).2

theorem keyed_start {input : Datum} {trusted : TrustedExecutionState}
    {raw : RawSupervisorDependencies} {startedAt waitsAt : Int} {start : SupervisorRun}
    (h : startSupervisor input trusted raw startedAt waitsAt = .ok (context, start)) :
    Keyed runtime canonical context [] start := by
  rcases (startSupervisor_ok h).2 with rfl | rfl
  · nofun
  · nofun

/-! ### What is signed -/

theorem snapshotInput_signingInput {result : CanonicalGuestScannerResult}
    {input : ResultEnvelopeSigningInput}
    (h : snapshotInput (context.signingInput result) = some input) :
    input = ⟨context.envelope.jobId, context.envelope.attemptId, context.envelope.fence,
      result.canonicalPayload⟩ := by
  unfold snapshotInput SupervisorContext.signingInput at h
  dsimp only at h
  split at h
  · simp only [Option.bind_eq_bind, Option.bind_eq_some_iff, text?_eq_some,
      positiveSafeInteger?_eq_some, bytes?_eq_some, pure, Option.some.injEq] at h
    obtain ⟨_, ⟨hjob, -⟩, _, ⟨hattempt, -⟩, _, ⟨hfence, -⟩, _, hpayload, rfl⟩ := h
    cases hjob
    cases hattempt
    cases hfence
    cases hpayload
    rfl
  · cases h

theorem snapshotSigningContext_signingContext {now keyVersion : Nat} {key : List UInt8}
    {signer : ResultEnvelopeSigningContext}
    (h : snapshotSigningContext (context.signingContext now keyVersion key) = some signer) :
    signer = ⟨now, resultEnvelopeLifetimeSeconds, supervisorWorkloadIdentity,
      resultEnvelopeAudience, context.envelope.policy.budgets.maxOutputBytes, keyVersion, key⟩ := by
  unfold snapshotSigningContext SupervisorContext.signingContext at h
  dsimp only at h
  split at h
  · simp only [Option.bind_eq_bind, Option.bind_eq_some_iff, text?_eq_some,
      positiveSafeInteger?_eq_some, naturalUpTo?_eq_some, bytes?_eq_some] at h
    obtain ⟨_, ⟨hnow, -⟩, _, ⟨hlifetime, -⟩, _, ⟨hworkload, -⟩, _, ⟨haudience, -⟩, _, ⟨hmaximum, -⟩,
      _, ⟨hversion, -⟩, _, hkey, h⟩ := h
    split at h
    · cases h
    · cases h
      cases hnow
      cases hlifetime
      cases hworkload
      cases haudience
      cases hmaximum
      cases hversion
      cases hkey
      rfl
  · cases h

theorem startSupervisor_profile {input : Datum} {trusted : TrustedExecutionState}
    {raw : RawSupervisorDependencies} {startedAt waitsAt : Int} {start : SupervisorRun}
    (h : startSupervisor input trusted raw startedAt waitsAt = .ok (context, start)) :
    context.envelope.policy.profile = .guestSafe := by
  unfold startSupervisor at h
  split at h
  · cases h
  · split at h
    · cases h
    · split at h
      · cases h
      · dsimp only at h
        split at h
        · cases h
        · rename_i hprofile
          split at h
          · cases h
          · cases h
            exact not_not.mp hprofile

theorem maxOutputBytes_le (h : context.envelope.policy.profile = .guestSafe) :
    context.envelope.policy.budgets.maxOutputBytes ≤ guestSafeOutputLimit := by
  have hwithin := context.envelope.policy.budgets_within.output
  rwa [h] at hwithin

end

/-! ### What the ingress makes of it -/

/-- A committer that trusts the supervisor, under the output limit of guest scans. -/
structure TrustsSupervisor (dependencies : GuestResultCommitDependencies) (keyVersion : Nat)
    (key : List UInt8) : Prop where
  workload : dependencies.expectedWorkloadIdentity = supervisorWorkloadIdentity
  audience : dependencies.expectedAudience = resultEnvelopeAudience
  limit : dependencies.maxPayloadBytes = guestSafeOutputLimit
  key : dependencies.resultKeyring keyVersion = some key

theorem authenticatedResult_of_verified {runtime : EnvelopeRuntime} {canonical : CanonicalProducer}
    {dependencies : GuestResultCommitDependencies} {value : RawSubmission}
    {now : Option Int} {verified : VerifiedResultEnvelope} {result : CanonicalGuestScannerResult}
    (hverified : verifyAuthenticatedResultEnvelope runtime value (dependencies.context now) =
      .ok verified)
    (hcanonical : canonical verified.payload dependencies.maxPayloadBytes = some result)
    (hdigest : result.payloadDigest = verified.header.payloadDigest)
    (hsize : result.payloadSize = verified.header.payloadSize) :
    ∃ accepted, authenticatedResult runtime canonical dependencies value now = some accepted ∧
      accepted.jobId = verified.header.jobId ∧
      accepted.submission = verified.submissionIdentity ∧
      accepted.projection = result.projection := by
  unfold authenticatedResult
  split
  · rename_i error herror
    rw [hverified] at herror
    cases herror
  · rename_i found hfound
    rw [hverified] at hfound
    cases hfound
    rw [hcanonical]
    dsimp only
    split
    · rename_i hdiffers
      simp [hdigest, hsize] at hdiffers
    · exact ⟨_, rfl, rfl, rfl, rfl⟩

theorem authenticatedResult_of_nonpositive {runtime : EnvelopeRuntime}
    {canonical : CanonicalProducer} {dependencies : GuestResultCommitDependencies}
    {value : RawSubmission} {now : Int} (h : now ≤ 0) :
    authenticatedResult runtime canonical dependencies value (some now) = none := by
  have hnow : positiveSafeInteger? (.number (some now)) = none := by
    rw [positiveSafeInteger?, if_neg (by omega)]
  have hverify : verifyAuthenticatedResultEnvelope runtime value
      (dependencies.context (some now)) = .error .invalidVerificationContext := by
    have hsnapshot : (dependencies.context (some now)).snapshot = none := by
      simp only [ResultEnvelopeVerificationContext.snapshot, GuestResultCommitDependencies.context,
        hnow, Option.bind_eq_bind, Option.bind_none]
    rw [verifyAuthenticatedResultEnvelope, hsnapshot]
  unfold authenticatedResult
  split
  · rfl
  · rename_i found hfound
    rw [hverify] at hfound
    cases hfound

section

variable {runtime : EnvelopeRuntime} {locale : LocaleOrder} {context : SupervisorContext}

/-- A submission is accepted for as long as it lasts, with what the supervisor signed. -/
theorem KeyedBy.accepted {events : List SupervisorEvent} {signed : SignedResultEnvelope}
    {projection : SanitizedGuestProjection} {keyVersion : Nat} {key : List UInt8}
    (h : KeyedBy runtime (canonicalProducer runtime locale) context events signed projection
      keyVersion key)
    (hprofile : context.envelope.policy.profile = .guestSafe)
    {dependencies : GuestResultCommitDependencies}
    (htrusts : TrustsSupervisor dependencies keyVersion key) {now : Int} (hpositive : 0 < now)
    (hbefore : (signed.header.issuedAt : Int) - resultEnvelopeMaxClockSkewSeconds ≤ now)
    (hafter : now < (signed.header.issuedAt : Int) + resultEnvelopeLifetimeSeconds) :
    ∃ accepted,
      verifyAuthenticatedResultEnvelope runtime signed.readSubmission
        (dependencies.context (some now)) = .ok signed.envelope.verified ∧
      authenticatedResult runtime (canonicalProducer runtime locale) dependencies
        signed.readSubmission (some now) = some accepted ∧
      accepted.jobId = context.envelope.jobId ∧
      accepted.submission = ⟨context.envelope.attemptId, context.envelope.fence,
        signed.header.payloadDigest⟩ ∧
      accepted.projection = projection := by
  obtain ⟨result, issuedAt, hsignable, rfl, hsign⟩ := h.earned
  obtain ⟨payload, -, hproduced⟩ := hsignable.output
  obtain ⟨hagain, hsize, hdigest, hfits⟩ :=
    canonicalProducer_again hproduced (maxOutputBytes_le hprofile) (by decide)
  have hsigned := hsign
  obtain ⟨input, signer, message, hinput, hsigner, -, -, rfl⟩ := signResultEnvelope_ok.mp hsigned
  cases snapshotInput_signingInput hinput
  cases snapshotSigningContext_signingContext hsigner
  obtain ⟨hissued, hlifetime, -, hsum, hworkload, haudience, -, -, -⟩ :=
    snapshotSigningContext_valid hsigner
  have hnow : (now.toNat : Int) = now := Int.toNat_of_nonneg hpositive.le
  change (issuedAt : Int) - resultEnvelopeMaxClockSkewSeconds ≤ now at hbefore
  change now < (issuedAt : Int) + resultEnvelopeLifetimeSeconds at hafter
  dsimp only at hsum
  have htrusted : (dependencies.context (some now)).snapshot = some
      ⟨now.toNat, supervisorWorkloadIdentity, resultEnvelopeAudience, guestSafeOutputLimit,
        dependencies.resultKeyring⟩ := by
    apply ResultEnvelopeVerificationContext.snapshot_eq_some.mpr
    refine ⟨?_, ?_, hworkload, haudience, show 0 < guestSafeOutputLimit by decide,
      show guestSafeOutputLimit ≤ resultEnvelopeMaxPayloadBytes by decide⟩
    · rw [GuestResultCommitDependencies.context, htrusts.workload, htrusts.audience, htrusts.limit,
        hnow]
    · rw [isPositiveSafeInteger_iff]
      dsimp only
      omega
  have hpayload : result.canonicalPayload.length ≤ guestSafeOutputLimit := by
    rw [← hsize]
    exact hfits.trans (maxOutputBytes_le hprofile)
  have hverified := verifyAuthenticatedResultEnvelope_ok.mpr
    ⟨_, _, _, htrusted, SignedResultEnvelope.presents _,
      signResultEnvelope_authentic hsign hsigner rfl rfl hpayload htrusts.key
        (by change issuedAt ≤ now.toNat + resultEnvelopeMaxClockSkewSeconds; omega)
        (by change now.toNat < issuedAt + resultEnvelopeLifetimeSeconds; omega), rfl⟩
  have hcanonical : canonicalProducer runtime locale result.canonicalPayload
      dependencies.maxPayloadBytes = some result := by
    rw [htrusts.limit]
    exact hagain
  obtain ⟨accepted, haccepted, hjob, hsubmission, hprojection⟩ :=
    authenticatedResult_of_verified hverified hcanonical hdigest hsize
  exact ⟨accepted, hverified, haccepted, hjob, hsubmission, hprojection⟩

theorem KeyedBy.keyVersion_eq {canonical : CanonicalProducer} {events : List SupervisorEvent}
    {signed : SignedResultEnvelope} {projection : SanitizedGuestProjection} {keyVersion : Nat}
    {key : List UInt8}
    (h : KeyedBy runtime canonical context events signed projection keyVersion key) :
    signed.authentication.keyVersion = keyVersion := by
  obtain ⟨result, issuedAt, -, -, hsign⟩ := h.earned
  obtain ⟨input, signer, message, -, hsigner, -, -, rfl⟩ := signResultEnvelope_ok.mp hsign
  rw [snapshotSigningContext_signingContext hsigner]

/-- What the supervisor submits is never rejected before the database. Whatever the scanner sent
and however the run went: if it returned a submission, every committer that trusts the supervisor
and holds the key that signed verifies it at any positive time of the window, finds the payload in
canonical form, and asks the database with the job, attempt, fence, digest and projection of the
run. -/
theorem supervised_submission_accepted {input : Datum} {trusted : TrustedExecutionState}
    {raw : RawSupervisorDependencies} {startedAt waitsAt : Int} {start : SupervisorRun}
    (hstart : startSupervisor input trusted raw startedAt waitsAt = .ok (context, start))
    {events : List SupervisorEvent} {signed : SignedResultEnvelope}
    {projection : SanitizedGuestProjection}
    (hreturned : (run (supervisorMachine runtime (canonicalProducer runtime locale) context) start
      events).phase = .returned (.ok signed projection)) :
    ∃ value key, SupervisorEvent.key (.ok value) ∈ events ∧
      snapshotSigningKey value = some (signed.authentication.keyVersion, key) ∧
      ∀ (dependencies : GuestResultCommitDependencies) (now : Int),
        TrustsSupervisor dependencies signed.authentication.keyVersion key → 0 < now →
        (signed.header.issuedAt : Int) - 30 ≤ now → now < (signed.header.issuedAt : Int) + 60 →
        ∃ accepted,
          verifyAuthenticatedResultEnvelope runtime signed.readSubmission
            (dependencies.context (some now)) = .ok signed.envelope.verified ∧
          authenticatedResult runtime (canonicalProducer runtime locale) dependencies
            signed.readSubmission (some now) = some accepted ∧
          accepted.jobId = context.envelope.jobId ∧
          accepted.submission = ⟨context.envelope.attemptId, context.envelope.fence,
            signed.header.payloadDigest⟩ ∧
          accepted.projection = projection ∧
          ∀ transactionNow db,
            commitSubmission runtime (canonicalProducer runtime locale) dependencies
                signed.readSubmission (some (some now)) transactionNow (some db) =
              ((commit (some accepted) transactionNow db).1,
                some (commit (some accepted) transactionNow db).2) := by
  obtain ⟨keyVersion, key, hkeyed⟩ :=
    keyed_run (told_start hstart) (keyed_start hstart) events signed projection hreturned
  obtain ⟨value, hmem, hkey⟩ := hkeyed.handed
  have hversion := hkeyed.keyVersion_eq
  subst hversion
  refine ⟨value, key, hmem, hkey, fun dependencies now htrusts hpositive hbefore hafter => ?_⟩
  obtain ⟨accepted, hverified, haccepted, hjob, hsubmission, hprojection⟩ :=
    hkeyed.accepted (startSupervisor_profile hstart) htrusts hpositive hbefore hafter
  exact ⟨accepted, hverified, haccepted, hjob, hsubmission, hprojection,
    fun transactionNow db => commitSubmission_of_commit haccepted rfl⟩

end

/-! ### A run of the small service -/

def ingressRuntime : EnvelopeRuntime := ⟨sampleNode, fun _ => Bytes32.fill 0⟩

def quietEnvelope : GuestEnvelope sampleNode where
  observations := ⟨[], by decide⟩
  findings := ⟨[], by decide⟩
  coverage := ⟨[⟨.targetResolution, .success, .complete⟩], by decide, by decide⟩
  metadata := {
    canonicalHost := "example.com"
    durationMs := 900
    requestCount := 2
    host_canonical := by decide +kernel
    duration_le := by decide
    request_le := by decide }
  warnings := ⟨[], by decide, by decide⟩

def quietResult : CanonicalGuestScannerResult :=
  canonicalResult ingressRuntime codePointOrder quietEnvelope

theorem length_of_no_findings {node : NodeRuntime} {envelope : GuestEnvelope node}
    (h : envelope.findings.val = []) : envelope.json.bytes.length ≤ guestSafeOutputLimit := by
  apply length_envelope_le
  · rw [h]
    decide
  · rw [h]
    nofun

theorem canonicalProducer_quiet :
    canonicalProducer ingressRuntime codePointOrder quietEnvelope.json.bytes
      guestSafeOutputLimit = some quietResult := by
  have hlimit : outputLimit? (.number (.whole guestSafeOutputLimit)) = some guestSafeOutputLimit :=
    outputLimit?_whole (by decide) (by decide)
  have hnone : (canonicalEnvelope quietEnvelope).findings.val = [] := by
    apply List.length_eq_zero_iff.mp
    exact (Unordered.sortBy_perm _ _).length_eq
  apply canonicalProducer_eq_some.mpr
  exact produceCanonicalGuestScannerResult_ok.mpr ⟨_, _, quietEnvelope, hlimit, rfl,
    length_of_no_findings rfl, envelopeOfBytes_json _, length_of_no_findings hnone, rfl⟩

def supervisorKey : List UInt8 := List.replicate 32 9

def supervisorKeyRecord : Value Scalar :=
  .record ⟨[("key_version", .number (some 1)), ("key", .bytes supervisorKey)], by decide⟩

theorem snapshotSigningKey_supervisorKey :
    snapshotSigningKey supervisorKeyRecord = some (1, supervisorKey) := by decide +kernel

theorem snapshotInput_quiet (result : CanonicalGuestScannerResult) :
    snapshotInput (sampleSupervisorContext.signingInput result) =
      some ⟨"scan-1", "attempt-1", 1, result.canonicalPayload⟩ := rfl

/-- The signing context of the run at `now`. -/
def quietSigner (now : Nat) : ResultEnvelopeSigningContext :=
  ⟨now, 60, supervisorWorkloadIdentity, resultEnvelopeAudience, guestSafeOutputLimit, 1,
    supervisorKey⟩

theorem exists_signed {now : Nat}
    (h : snapshotSigningContext (sampleSupervisorContext.signingContext now 1 supervisorKey) =
      some (quietSigner now)) :
    ∃ signed, signResultEnvelope ingressRuntime (sampleSupervisorContext.signingInput quietResult)
        (sampleSupervisorContext.signingContext now 1 supervisorKey) = .ok signed ∧
      signed.header.issuedAt = now := by
  have hinput := snapshotInput_quiet quietResult
  have hsize : quietResult.canonicalPayload.length ≤ guestSafeOutputLimit :=
    (canonicalProducer_again canonicalProducer_quiet (Nat.le_refl _) (by decide)).2.2.2
  have hvalid : (signedHeader ingressRuntime _ _).Valid := signedHeader_valid hinput h hsize
  have hversion : 1 ≤ uint32Max := by decide
  obtain ⟨message, hmessage⟩ := encodeResultEnvelopeAuthenticationMessage_defined hvalid hversion
  exact ⟨_, signResultEnvelope_ok.mpr ⟨_, _, message, hinput, h, hsize, hmessage, rfl⟩, rfl⟩

theorem takeOutput_signing {canonical : CanonicalProducer} {context : SupervisorContext}
    {s : SupervisorRun} {payload : List UInt8} {result : CanonicalGuestScannerResult}
    {trustedNow : Option ClockReading} {now : Nat}
    (hresult : canonical payload context.envelope.policy.budgets.maxOutputBytes = some result)
    (hhost : result.projection.canonicalHost = context.envelope.canonicalTarget)
    (htime : SupervisorRun.signingTime context trustedNow = .ok now) :
    s.takeOutput context canonical payload trustedNow =
      { s with phase := .signing result now } := by
  simp only [SupervisorRun.takeOutput, hresult, hhost, htime, ne_eq, not_true, if_false]

def quietExit : Datum := .object [("exit_code", .number (.whole 0)), ("signal", .null)]

/-- The events of a run whose scanner sent `frame` and ended well. -/
def quietEvents (frame : List UInt8) (now : Nat) : List SupervisorEvent :=
  [.launched (.ok (some ⟨true, true, true⟩)), .react 0 none, .ipc (undisturbed [frame]) 0,
    .completed (.ok quietExit), .react 0 (some (some now)), .key (.ok supervisorKeyRecord)]

theorem quiet_run {now : Nat} (hpos : 0 < now) (hinTime : now < 1046)
    (h : snapshotSigningContext (sampleSupervisorContext.signingContext now 1 supervisorKey) =
      some (quietSigner now)) :
    ∃ frame signed,
      (run (supervisorMachine ingressRuntime (canonicalProducer ingressRuntime codePointOrder)
          sampleSupervisorContext) ⟨.launching, false, .pending, false, .absent, none, []⟩
        (quietEvents frame now)).phase = .returned (.ok signed quietResult.projection) ∧
      signed.header.issuedAt = now := by
  obtain ⟨signed, hsigned, hissued⟩ := exists_signed h
  obtain ⟨field, hfield⟩ : ∃ field, u32be quietEnvelope.json.bytes.length = some field := by
    have hsize : quietEnvelope.json.bytes.length ≤ guestSafeOutputLimit := length_of_no_findings rfl
    have hlimit : guestSafeOutputLimit ≤ uint32Max := by decide
    rw [u32be, if_pos (hsize.trans hlimit)]
    exact ⟨_, rfl⟩
  let frame := scannerIpcMagic ++ (field ++ quietEnvelope.json.bytes)
  have hframe : IsScannerIpcFrame guestSafeOutputLimit quietEnvelope.json.bytes [frame].flatten := by
    refine ⟨⟨length_envelope_pos _, length_of_no_findings rfl⟩, field, hfield, ?_⟩
    rw [List.flatten_cons, List.flatten_nil, List.append_nil]
  have hoptions : (SupervisorRun.readOptions sampleSupervisorContext 30000).snapshot =
      some ⟨guestSafeOutputLimit, 30000⟩ := by decide +kernel
  have hread : readScannerIpcFrame (undisturbed [frame])
      (SupervisorRun.readOptions sampleSupervisorContext 30000) =
      some (.ok ⟨quietEnvelope.json.bytes.length, quietEnvelope.json.bytes⟩) := by
    have hchunks : [frame].length ≤ scannerIpcMaxChunks := show 1 ≤ scannerIpcMaxChunks by decide
    rw [readScannerIpcFrame_eq hoptions hchunks]
    exact congrArg some (verdict_ok.mpr ⟨hframe, rfl⟩)
  have hhost : quietResult.projection.canonicalHost =
      sampleSupervisorContext.envelope.canonicalTarget := rfl
  have htime : SupervisorRun.signingTime sampleSupervisorContext (some (some (now : Int))) =
      .ok now := by
    have hdeadline : sampleSupervisorContext.envelope.hardDeadline = 1046 := rfl
    simp only [SupervisorRun.signingTime, hdeadline]
    rw [if_pos (by unfold maxSafeInteger; omega), Int.toNat_natCast]
  refine ⟨frame, signed, ?_, hissued⟩
  let machine := supervisorMachine ingressRuntime (canonicalProducer ingressRuntime codePointOrder)
    sampleSupervisorContext
  let launched : Promised LaunchOutcome := .settled (.ok (some ⟨true, true, true⟩))
  have hlaunched : run machine ⟨.launching, false, .pending, false, .absent, none, []⟩
      ((quietEvents frame now).take 2) =
        ⟨.reading 30000, false, launched, false, .pending, none, []⟩ := rfl
  have hframed : (machine ⟨.reading 30000, false, launched, false, .pending, none, []⟩
      (.ipc (undisturbed [frame]) 0)).2 =
        ⟨.exiting quietEnvelope.json.bytes, false, launched, false, .pending, none, []⟩ := by
    simp only [machine, supervisorMachine, supervisorStep, SupervisorRun.ipc,
      SupervisorRun.takeFrame, hread]
    rfl
  have hexited : (machine ⟨.exiting quietEnvelope.json.bytes, false, launched, false,
      .settled (.exit cleanExit), none, []⟩ (.react 0 (some (some now)))).2 =
        ⟨.signing quietResult now, false, launched, false, .settled (.exit cleanExit),
          some cleanExit, []⟩ := by
    have hbudget : sampleSupervisorContext.envelope.policy.budgets.maxOutputBytes =
        guestSafeOutputLimit := rfl
    have hcanonical : canonicalProducer ingressRuntime codePointOrder quietEnvelope.json.bytes
        sampleSupervisorContext.envelope.policy.budgets.maxOutputBytes = some quietResult := by
      rw [hbudget]
      exact canonicalProducer_quiet
    simp only [machine, supervisorMachine, supervisorStep, SupervisorRun.react,
      SupervisorRun.takeExit, cleanExit, ne_eq, not_true, or_self, if_false]
    exact takeOutput_signing hcanonical hhost htime
  have hkeyed : (machine ⟨.signing quietResult now, false, launched, false,
      .settled (.exit cleanExit), some cleanExit, []⟩ (.key (.ok supervisorKeyRecord))).2.phase =
        .returned (.ok signed quietResult.projection) := by
    simp only [machine, supervisorMachine, supervisorStep, SupervisorRun.key,
      SupervisorRun.takeKey, snapshotSigningKey_supervisorKey, hsigned]
    rfl
  have hsplit : quietEvents frame now = (quietEvents frame now).take 2 ++
      [.ipc (undisturbed [frame]) 0, .completed (.ok quietExit), .react 0 (some (some now)),
        .key (.ok supervisorKeyRecord)] := rfl
  have hcompleted : (machine ⟨.exiting quietEnvelope.json.bytes, false, launched, false, .pending,
      none, []⟩ (.completed (.ok quietExit))).2 = ⟨.exiting quietEnvelope.json.bytes, false, launched,
        false, .settled (.exit cleanExit), none, []⟩ := by
    have hexit : scannerProcessCompletion (.ok quietExit) = .exit cleanExit := rfl
    simp only [machine, supervisorMachine, supervisorStep, SupervisorRun.settleCompletion, hexit]
  have hrun : run machine ⟨.launching, false, .pending, false, .absent, none, []⟩
      (quietEvents frame now) = (machine ⟨.signing quietResult now, false, launched, false,
        .settled (.exit cleanExit), some cleanExit, []⟩ (.key (.ok supervisorKeyRecord))).2 := by
    rw [hsplit, run_append, hlaunched, run_cons, hframed, run_cons, hcompleted, run_cons, hexited,
      run_cons, run_nil]
  rw [hrun]
  exact hkeyed

def ingressDependencies : GuestResultCommitDependencies where
  resultKeyring := fun version => if version = 1 then some supervisorKey else none
  expectedWorkloadIdentity := supervisorWorkloadIdentity
  expectedAudience := resultEnvelopeAudience
  maxPayloadBytes := guestSafeOutputLimit
  workload_valid := by decide +kernel
  audience_valid := by decide +kernel
  payload_pos := by decide
  payload_le := by decide

theorem trusts_ingress {frame : List UInt8} {now : Nat} {value : Value Scalar} {keyVersion : Nat}
    {key : List UInt8} (hmem : SupervisorEvent.key (.ok value) ∈ quietEvents frame now)
    (hkey : snapshotSigningKey value = some (keyVersion, key)) :
    TrustsSupervisor ingressDependencies keyVersion key := by
  have hvalue : value = supervisorKeyRecord := by
    simpa [quietEvents] using hmem
  rw [hvalue, snapshotSigningKey_supervisorKey] at hkey
  cases hkey
  exact ⟨rfl, rfl, rfl, rfl⟩

/-- Signed at 1010, committed one second before and up to the end of the window. -/
theorem supervised_submission_accepted_sample :
    ∃ signed : SignedResultEnvelope, signed.header.issuedAt = 1010 ∧
      ∀ now : Int, 1009 ≤ now → now < 1070 →
      ∃ accepted, authenticatedResult ingressRuntime
          (canonicalProducer ingressRuntime codePointOrder) ingressDependencies
          signed.readSubmission (some now) = some accepted ∧
        accepted.projection = quietResult.projection := by
  obtain ⟨frame, signed, hreturned, hissued⟩ :=
    quiet_run (show 0 < 1010 by decide) (by decide) (by decide +kernel)
  obtain ⟨value, key, hmem, hkey, haccepted⟩ :=
    supervised_submission_accepted startSupervisor_sample hreturned
  refine ⟨signed, hissued, fun now hfrom hto => ?_⟩
  obtain ⟨accepted, -, hresult, -, -, hprojection, -⟩ :=
    haccepted ingressDependencies now (trusts_ingress hmem hkey) (by omega) (by omega) (by omega)
  exact ⟨accepted, hresult, hprojection⟩

/-- Signed at ten seconds past the epoch and committed at the epoch: that is within the window,
and no verification time. -/
theorem submission_rejected_at_zero :
    ∃ frame signed,
      (run (supervisorMachine ingressRuntime (canonicalProducer ingressRuntime codePointOrder)
          sampleSupervisorContext) ⟨.launching, false, .pending, false, .absent, none, []⟩
        (quietEvents frame 10)).phase = .returned (.ok signed quietResult.projection) ∧
      (∀ value keyVersion key, SupervisorEvent.key (.ok value) ∈ quietEvents frame 10 →
        snapshotSigningKey value = some (keyVersion, key) →
        TrustsSupervisor ingressDependencies keyVersion key) ∧
      (signed.header.issuedAt : Int) - 30 ≤ 0 ∧ (0 : Int) < signed.header.issuedAt + 60 ∧
      ∀ transactionNow db,
        commitSubmission ingressRuntime (canonicalProducer ingressRuntime codePointOrder)
            ingressDependencies signed.readSubmission (some (some 0)) transactionNow db =
          (.failure .resultSubmissionRejected true, db) := by
  obtain ⟨frame, signed, hreturned, hissued⟩ :=
    quiet_run (show 0 < 10 by decide) (by decide) (by decide +kernel)
  refine ⟨frame, signed, hreturned, fun _ _ _ => trusts_ingress, by omega, by omega, ?_⟩
  intro transactionNow db
  unfold commitSubmission
  dsimp only
  rw [authenticatedResult_of_nonpositive (Int.le_refl 0)]

end Outscan

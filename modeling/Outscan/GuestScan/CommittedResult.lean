import Outscan.Creation.Replay
import Outscan.Lifecycle.Acceptance
import Outscan.Persistence.ResultRow
import Outscan.Supervisor.Ingress

/-! What is committed can be read: from the primary commit on, as long as the scan is stored,
by whoever was handed its token. -/
namespace Outscan

open Relational Transactional Lifecycle

/-! ### The stored result -/

theorem joined_of_aggregate {t : Tables} (hsound : Sound t) {id : String} {g : Aggregate}
    (hg : t.aggregate? id = some g) {row : GuestResult} (hrow : g.result = some row) :
    Joined g.scan row ∧ validId row.acceptedAttemptId = true := by
  have hinv := hsound _ g hg
  cases hinv.phase with
  | queued job attempts result held => rw [hrow] at result; cases result
  | running current earlier job attempts active updated result held =>
    rw [hrow] at result
    cases result
  | ended job attempt result returned => rw [hrow] at result; cases result
  | succeeded current earlier stored job attempts attempt result acceptedAttempt acceptedFence
      acceptedDigest isCurrent returned =>
    rw [hrow] at result
    cases result
    have hmem : current ∈ g.attempts := by simp [attempts]
    have hcurrent := hinv.current
    have hfind := (Tables.aggregate?_eq_some.mp hg).2.2.1
    have hfence := hinv.currentFence_eq attempts
    refine ⟨⟨Tables.scan_check_of_aggregate? hg, ?_, job, ?_, ?_, acceptedAttempt, acceptedFence,
      acceptedDigest⟩, ?_⟩
    · rw [Tables.scan_id_of_aggregate? hg]
      exact Table.find?_key (hfind.trans hrow)
    · rw [hcurrent, attempts, isCurrent.1]
      rfl
    · rw [hfence, isCurrent.2]
    · rw [isCurrent.1]
      exact (Tables.attempt_check_of_aggregate? hg hmem).id_valid

theorem stored_of_primaryCommit {db : Database} (hsound : Sound db.val)
    {result : AuthenticatedResult} {transactionNow : TransactionTime}
    (hprimary : (commit (some result) transactionNow db).1 = .primaryCommit) :
    ∃ g, (commit (some result) transactionNow db).2.val.aggregate? result.jobId = some g ∧
      g.result = some (result.row transactionNow.toNat) ∧
      ∃ attempt, guardGuestResultWrite g.scan attempt (result.row transactionNow.toNat) := by
  have houtcome := commit_outcome hsound result transactionNow
  rw [hprimary] at houtcome
  cases houtcome with
  | event g g' focus step =>
    rcases atomically_cases (.failure .unavailable false)
      (persistResultBody result transactionNow) db with ⟨answer, next, hrun, heq⟩ |
        ⟨-, hanswer | ⟨next, hrun⟩⟩
    · change (atomically _ _ db).1 = _ at hprimary
      rw [heq] at hprimary
      obtain rfl : answer = .primaryCommit := hprimary
      obtain ⟨current, earlier, hattempts, hid, hwrite⟩ :=
        persistResultBody_primary (hsound _ g focus.before) hrun focus.before
      obtain ⟨g'', hfocus, -, hstored, hguard⟩ :=
        writeResult_focus hwrite focus.before hattempts hid
      have hnext : (commit (some result) transactionNow db).2 = next := congrArg Prod.snd heq
      rw [hnext]
      exact ⟨g'', hfocus.after, hstored, hguard⟩
    · exact absurd (hanswer.symm.trans hprimary) (by decide)
    · exact absurd ((persistResultBody_rollback hrun).symm.trans hprimary) (by decide)

/-! ### Since a call -/

/-- The call was answered so, and no later one deleted the scan. -/
def KeptSince (node : NodeRuntime) (calls : List Call) (id : String) (call : Call)
    (answer : Answer) : Prop :=
  ∃ before after, calls = before ++ call :: after ∧
    (exec node (Machine.run (exec node) Database.initial before) call).1 = answer ∧
    Machine.Along (exec node) (fun db later => ¬ Deletes node db later id)
      (exec node (Machine.run (exec node) Database.initial before) call).2 after

def Call.mayDelete : Call → Bool
  | .createOrReplay _ _ | .runBatch _ _ _ => true
  | _ => false

theorem along_of_mayDelete {node : NodeRuntime} {id : String} {calls : List Call}
    (h : calls.all (fun call => !call.mayDelete) = true) {db : Database} :
    Machine.Along (exec node) (fun db later => ¬ Deletes node db later id) db calls := by
  induction calls generalizing db with
  | nil => trivial
  | cons call rest ih =>
    rw [List.all_cons, Bool.and_eq_true] at h
    refine ⟨?_, ih h.2⟩
    intro deletes
    cases call with
    | createOrReplay dependencies request => exact Bool.false_ne_true h.1
    | runBatch batchSize clock locked => exact Bool.false_ne_true h.1
    | _ => exact deletes

section

variable {node : NodeRuntime} {calls : List Call}

theorem KeptSince.result {result : AuthenticatedResult} {transactionNow : TransactionTime}
    (h : KeptSince node calls result.jobId (.commit (some result) transactionNow)
      (.commit .primaryCommit)) :
    ∃ g, (Machine.run (exec node) Database.initial calls).val.aggregate? result.jobId = some g ∧
      g.result = some (result.row transactionNow.toNat) ∧
      ∃ attempt, guardGuestResultWrite g.scan attempt (result.row transactionNow.toNat) := by
  obtain ⟨before, after, rfl, hanswer, hkept⟩ := h
  have hsound : Sound (Machine.run (exec node) Database.initial before).val :=
    Reachable.sound ⟨before, rfl⟩
  obtain ⟨g, hg, hrow, attempt, hguard⟩ :=
    stored_of_primaryCommit hsound (Answer.commit.inj hanswer)
  have hterminal : g.scan.jobState.terminal = true := by
    rw [hguard.1]
    rfl
  obtain ⟨-, hfinal⟩ := run_frozen node
    (exec_sound node hsound (.commit (some result) transactionNow)) hg hterminal hkept
  refine ⟨g, ?_, hrow, attempt, hguard⟩
  rw [Machine.run_append, Machine.run_cons]
  exact hfinal

theorem KeptSince.granted {dependencies : GuestPersistenceDependencies}
    {request : PersistGuestScanRequest} {action : Option CreateAction} {guestScanId token : String}
    {expiresAt expiresIn : Nat}
    (h : KeptSince node calls guestScanId (.createOrReplay dependencies request)
      (.createOrReplay (.ok action guestScanId token expiresAt expiresIn))) :
    ∃ g, (Machine.run (exec node) Database.initial calls).val.aggregate? guestScanId = some g ∧
      Granted node dependencies.tokenKeyring g.scan guestScanId token expiresAt := by
  obtain ⟨before, after, rfl, hanswer, hkept⟩ := h
  have hsound : Sound (Machine.run (exec node) Database.initial before).val :=
    Reachable.sound ⟨before, rfl⟩
  obtain ⟨row, hobtained⟩ :=
    createOrReplay_obtained (Prod.ext (Answer.createOrReplay.inj hanswer) rfl)
  obtain ⟨g, hg, rfl⟩ := aggregate?_of_lookup hobtained.stored
  rw [hobtained.granted.id] at hg
  obtain ⟨g', hg', hrecord⟩ := run_kept node
    (exec_sound node hsound (.createOrReplay dependencies request)) hg hkept
  refine ⟨g', ?_, hobtained.granted.of_record hrecord fun _ _ hkey => hkey⟩
  rw [Machine.run_append, Machine.run_cons]
  exact hg'

end

theorem Reachable.expires_le {node : NodeRuntime} {db : Database} (h : Reachable node db)
    {id : String} {g : Aggregate} (hg : db.val.aggregate? id = some g) :
    g.scan.idempotencyExpiresAt ≤ maxUnixSecondsForIso := by
  apply h.stored (P := fun record _ => record.idempotencyExpiresAt ≤ maxUnixSecondsForIso) _ hg
  rintro call scan ⟨dependencies, snapshot, nonce, rfl, hwell, -, hscan⟩
  rw [hscan]
  have hrange := hwell.now_le
  simp only [retentionSeconds, maxPostgresUnixSeconds] at hrange
  change snapshot.now + guestIdempotencyWindowSeconds ≤ _
  simp only [guestIdempotencyWindowSeconds, maxUnixSecondsForIso]
  omega

theorem coverage_of_authenticatedResult {runtime : EnvelopeRuntime} {locale : LocaleOrder}
    {dependencies : GuestResultCommitDependencies} {value : RawSubmission}
    {verificationNow : Option Int} {result : AuthenticatedResult}
    (h : authenticatedResult runtime (canonicalProducer runtime locale) dependencies value
      verificationNow = some result) : result.projection.coverage ≠ [] := by
  unfold authenticatedResult at h
  split at h
  · cases h
  split at h
  · cases h
  rename_i produced hproduced
  split at h
  · cases h
  · cases h
    obtain ⟨-, -, envelope, -, -, -, -, -, rfl⟩ :=
      produceCanonicalGuestScannerResult_ok.mp (canonicalProducer_eq_some.mp hproduced)
    intro hnone
    have hperm := locale.sort_perm (·.detectorGroup.text) envelope.coverage.val
    change locale.sort _ _ = [] at hnone
    rw [hnone] at hperm
    exact envelope.coverage.property.1 hperm.nil_eq.symm

/-! ### Reading -/

def AuthenticatedResult.view (result : AuthenticatedResult) (completedAt expiresAt : Nat) :
    GuestResultView where
  guestScanId := result.jobId
  canonicalHost := result.projection.canonicalHost
  completedAt := isoOfSeconds completedAt
  resultAccessExpiresAt := isoOfSeconds expiresAt
  postureSections := postureSections result.projection.posture
  potentialRiskCount := .whole result.projection.potentialRiskCount
  warningCount := .whole result.projection.warningCount
  coverage := coverageView result.projection.coverage

def readStoredResult (node : NodeRuntime) (db : Database) (ring : GuestResultTokenKeyring)
    (request : GuestResultAccessRequest) : ReadGuestResultDecision :=
  readAuthorizedGuestResult node request.toDatum ⟨loadByGuestScanId node db.val, ring⟩

theorem readStoredResult_cases (node : NodeRuntime) (db : Database)
    (ring : GuestResultTokenKeyring) {request : GuestResultAccessRequest}
    (hrequest : request.WellFormed) :
    (∃ view, readStoredResult node db ring request = .ok view) ∨
      readStoredResult node db ring request = .failure .resultAccessDenied :=
  readAuthorizedGuestResult_cases hrequest

theorem presents_of_readStoredResult {node : NodeRuntime} {db : Database} (hsound : Sound db.val)
    {ring : GuestResultTokenKeyring} {request : GuestResultAccessRequest}
    (hrequest : request.WellFormed) {view : GuestResultView}
    (h : readStoredResult node db ring request = .ok view) :
    ∃ g, db.val.aggregate? request.routeGuestScanId = some g ∧
      Bears node ring g.scan.record.tokenMetadata request.authorizationHeader
        request.nowUnixSeconds := by
  obtain ⟨value, metadata, hload, hmetadata, -, hbears⟩ :=
    bears_of_readAuthorizedGuestResult hrequest h
  have hjoined : ∀ scan result, db.val.guestScans.find? request.routeGuestScanId = some scan →
      db.val.guestResults.find? request.routeGuestScanId = some result → Joined scan result := by
    intro scan result hscan hresult
    have hg : db.val.aggregate? request.routeGuestScanId = some ⟨scan,
        db.val.attemptsOf request.routeGuestScanId, some result,
        db.val.reservations.find? request.routeGuestScanId⟩ :=
      Tables.aggregate?_eq_some.mpr ⟨hscan, rfl, hresult, rfl⟩
    exact (joined_of_aggregate hsound hg rfl).1
  obtain ⟨scan, hscan, rfl⟩ := loadByGuestScanId_metadata hjoined hload hmetadata
  exact ⟨⟨scan, _, _, _⟩, Tables.aggregate?_eq_some.mpr ⟨hscan, rfl, rfl, rfl⟩, hbears⟩

section

variable {node : NodeRuntime} {calls : List Call} {result : AuthenticatedResult}
  {transactionNow : TransactionTime} {dependencies : GuestPersistenceDependencies}
  {creation : PersistGuestScanRequest} {action : Option CreateAction} {token : String}
  {expiresAt expiresIn : Nat}

theorem readable_of_committed (hcoverage : result.projection.coverage ≠ [])
    (hcommit : KeptSince node calls result.jobId (.commit (some result) transactionNow)
      (.commit .primaryCommit)) :
    ∃ g, (Machine.run (exec node) Database.initial calls).val.aggregate? result.jobId = some g ∧
      g.result = some (result.row transactionNow.toNat) ∧
      Readable node g.scan (result.row transactionNow.toNat) := by
  obtain ⟨g, hg, hrow, attempt, hguard⟩ := hcommit.result
  have hreach : Reachable node (Machine.run (exec node) Database.initial calls) := ⟨calls, rfl⟩
  obtain ⟨hjoined, hattempt⟩ := joined_of_aggregate hreach.sound hg hrow
  obtain ⟨-, -, -, -, -, -, hcreated, hcompleted, hdeletion, hhost⟩ := hguard
  exact ⟨g, hg, hrow, hjoined, hattempt, hreach.canonicalTargets _ g hg, hhost, hcoverage, hcreated,
    hcompleted, hdeletion⟩

end

/-- What is committed can be read. In every run with a primary commit of a scan and a token handed
out for it, neither followed by a deletion of the scan, the joined row is mapped; under every
keyring that still has the key of the scan the token reads the committed host, posture, counts and
coverage from the completion to the expiry, and the scan is denied before, after, and to every
other bearer. Under any id only the token of the scan that is stored there is served. -/
theorem committed_result_readable {runtime : EnvelopeRuntime} {locale : LocaleOrder}
    {committer : GuestResultCommitDependencies} {submission : RawSubmission}
    {verificationNow : Option Int} {result : AuthenticatedResult}
    (hresult : authenticatedResult runtime (canonicalProducer runtime locale) committer submission
      verificationNow = some result)
    {calls : List Call} {transactionNow : TransactionTime}
    (hcommit : KeptSince runtime.toNodeRuntime calls result.jobId
      (.commit (some result) transactionNow) (.commit .primaryCommit))
    {dependencies : GuestPersistenceDependencies} {creation : PersistGuestScanRequest}
    {action : Option CreateAction} {token : String} {expiresAt expiresIn : Nat}
    (hcreation : KeptSince runtime.toNodeRuntime calls result.jobId
      (.createOrReplay dependencies creation)
      (.createOrReplay (.ok action result.jobId token expiresAt expiresIn))) :
    let node := runtime.toNodeRuntime
    let db := Machine.run (exec node) Database.initial calls
    ∃ scan row, db.val.joinedResult result.jobId = some (scan, row) ∧
      (mapGuestResultReadRow node (resultReadRow scan row)).isSome = true ∧
      ∀ ring : GuestResultTokenKeyring,
        ring scan.resultTokenKeyVersion = dependencies.tokenKeyring scan.resultTokenKeyVersion →
        ∀ request : GuestResultAccessRequest, request.WellFormed →
          (request.routeGuestScanId = result.jobId →
            readStoredResult node db ring request =
              if presentedToken? request.authorizationHeader = some token ∧
                  transactionNow.toNat ≤ request.nowUnixSeconds ∧
                  request.nowUnixSeconds < expiresAt then
                .ok (result.view transactionNow.toNat expiresAt)
              else .failure .resultAccessDenied) ∧
          ((∀ g ∈ db.val.aggregate? request.routeGuestScanId,
              ∀ presented ∈ presentedToken? request.authorizationHeader,
                (ring g.scan.resultTokenKeyVersion).bind
                  (deriveGuestResultToken node g.scan.record.tokenMetadata) ≠ some presented) →
            readStoredResult node db ring request = .failure .resultAccessDenied) := by
  intro node db
  have hreach : Reachable node db := ⟨calls, rfl⟩
  obtain ⟨g, hg, hrow, hreadable⟩ :=
    readable_of_committed (coverage_of_authenticatedResult hresult) hcommit
  obtain ⟨g', hg', hgranted⟩ := hcreation.granted
  rw [hg] at hg'
  cases hg'
  obtain ⟨hscan, -, hstored, -⟩ := Tables.aggregate?_eq_some.mp hg
  rw [hrow] at hstored
  refine ⟨g.scan, _, by rw [Tables.joinedResult, hscan, hstored]; rfl, ?_, ?_⟩
  · rw [hreadable.mapped]
    rfl
  intro ring hring request hrequest
  have hdenied : (∀ shown, readStoredResult node db ring request ≠ .ok shown) →
      readStoredResult node db ring request = .failure .resultAccessDenied := by
    intro hnone
    rcases readStoredResult_cases node db ring hrequest with ⟨shown, hshown⟩ | hfails
    · exact absurd hshown (hnone shown)
    · exact hfails
  have hexpires : g.scan.record.tokenMetadata.resultAccessExpiresAt = expiresAt := hgranted.expires
  have htoken : (ring g.scan.resultTokenKeyVersion).bind
      (deriveGuestResultToken node g.scan.record.tokenMetadata) = some token := by
    rw [hring]
    exact hgranted.token
  constructor
  · intro hid
    have hload : loadByGuestScanId node db.val request.routeGuestScanId =
        some hreadable.record.toDatum := by
      rw [hid]
      exact loadByGuestScanId_readable hscan hstored hreadable
    split
    · rename_i hserved
      obtain ⟨hpresented, hcompleted, hbefore⟩ := hserved
      have hbears : Bears node ring g.scan.record.tokenMetadata request.authorizationHeader
          request.nowUnixSeconds :=
        ⟨hgranted.unrevoked, hexpires.symm ▸ hbefore, token, hpresented, htoken⟩
      have hview : hreadable.record.view = result.view transactionNow.toNat expiresAt := by
        rw [← hgranted.expires, AuthenticatedResult.view, ← hgranted.id]
        rfl
      rw [← hview]
      exact readAuthorizedGuestResult_of_bears hrequest hreadable.storable hload
        (hgranted.id.trans hid.symm) hreadable.host (hreach.expires_le hg) hcompleted hbears
    · rename_i hunserved
      apply hdenied
      intro shown hshown
      apply hunserved
      obtain ⟨g', hg', -, hbefore, presented, hpresented, hderived⟩ :=
        presents_of_readStoredResult hreach.sound hrequest hshown
      rw [hid, hg] at hg'
      cases hg'
      refine ⟨hpresented.trans (hderived.symm.trans htoken), ?_, hexpires ▸ hbefore⟩
      exact completed_of_readAuthorizedGuestResult hreadable.storable hload hrequest hshown
  · intro hother
    apply hdenied
    intro shown hshown
    obtain ⟨g', hg', -, -, presented, hpresented, hderived⟩ :=
      presents_of_readStoredResult hreach.sound hrequest hshown
    exact hother g' hg' presented hpresented hderived

/-! ### The small service -/

theorem quiet_duration_le : 900 ≤ 30000 := by decide

theorem quiet_request_le : 2 ≤ 40 := by decide

def quietAccepted : AuthenticatedResult where
  jobId := "scan-1"
  submission := ⟨"attempt-1", 1, Bytes32.fill 0⟩
  projection := { (sampleResult 0).projection with
    posture := []
    potentialRiskCount := 0
    coverage := [⟨.targetResolution, .success, .complete⟩]
    durationMs := 900
    requestCount := 2
    posture_nodup := List.nodup_nil
    risk_le := by decide
    coverage_nodup := by decide
    duration_le := quiet_duration_le
    request_le := quiet_request_le }
  jobId_valid := sampleJob_valid
  submission_valid := sampleSubmission_valid _

theorem quietResult_projection : quietResult.projection = quietAccepted.projection := by
  have hposture : codePointOrder.sort (·.checkId.text) quietEnvelope.observations.val = [] :=
    List.mergeSort_nil
  have hcoverage : codePointOrder.sort (·.detectorGroup.text) quietEnvelope.coverage.val =
      [⟨.targetResolution, .success, .complete⟩] :=
    List.mergeSort_singleton _
  simp only [quietResult, canonicalResult, projectEnvelope, hposture, hcoverage, quietAccepted]
  rfl

theorem authenticatedResult_of_quiet {frame : List UInt8} {signed : SignedResultEnvelope}
    (hreturned : (Machine.run (supervisorMachine ingressRuntime
        (canonicalProducer ingressRuntime codePointOrder) sampleSupervisorContext)
      ⟨.launching, false, .pending, false, .absent, none, []⟩ (quietEvents frame 1010)).phase =
        .returned (.ok signed quietResult.projection)) (hissued : signed.header.issuedAt = 1010) :
    authenticatedResult ingressRuntime (canonicalProducer ingressRuntime codePointOrder)
      ingressDependencies signed.readSubmission (some 1010) = some quietAccepted := by
  obtain ⟨keyVersion, key, hkeyed⟩ := keyed_run (told_start startSupervisor_sample)
    (keyed_start startSupervisor_sample) _ signed _ hreturned
  obtain ⟨value, hmem, hkey⟩ := hkeyed.handed
  obtain ⟨accepted, -, haccepted, hjob, hsubmission, hprojection⟩ :=
    hkeyed.accepted (startSupervisor_profile startSupervisor_sample) (trusts_ingress hmem hkey)
      (show (0 : Int) < 1010 by decide) (by rw [hissued]; decide) (by rw [hissued]; decide)
  have hdigest : signed.header.payloadDigest = Bytes32.fill 0 := by
    obtain ⟨result, issuedAt, -, -, hsign⟩ := hkeyed.earned
    obtain ⟨input, signer, message, -, -, -, -, rfl⟩ := signResultEnvelope_ok.mp hsign
    rfl
  have hsame : accepted = quietAccepted := by
    rw [hdigest] at hsubmission
    rw [quietResult_projection] at hprojection
    cases accepted
    cases hjob
    cases hsubmission
    cases hprojection
    rfl
  exact hsame ▸ haccepted

theorem quiet_returned : ∃ frame signed,
    (Machine.run (supervisorMachine ingressRuntime (canonicalProducer ingressRuntime codePointOrder)
        sampleSupervisorContext)
      ⟨.launching, false, .pending, false, .absent, none, []⟩ (quietEvents frame 1010)).phase =
        .returned (.ok signed quietResult.projection) ∧ signed.header.issuedAt = 1010 :=
  quiet_run (show 0 < 1010 by decide) (by decide) (by decide +kernel)

def committedCalls : List Call := sampleCalls ++ [.commit (some quietAccepted) 1010]

/-- The owner of the token reads the result with any spelling of the scheme, until the expiry. -/
theorem committed_result_readable_sample :
    let db := Machine.run (exec sampleNode) Database.initial committedCalls
    let ring := (sampleDependencies "scan-1").tokenKeyring
    readStoredResult sampleNode db ring
        ⟨.string "bEARER eX192PSOJCXEzIbupUfNmcEvXyhFqIGEGXkxLrN_Cak", "scan-1", 2799⟩ =
        .ok (quietAccepted.view 1010 2800) ∧
      readStoredResult sampleNode db ring
        ⟨.string "Bearer eX192PSOJCXEzIbupUfNmcEvXyhFqIGEGXkxLrN_Cak", "scan-1", 2800⟩ =
        .failure .resultAccessDenied := by
  obtain ⟨frame, signed, hreturned, hissued⟩ := quiet_returned
  have hresult := authenticatedResult_of_quiet hreturned hissued
  have hcommit : KeptSince sampleNode committedCalls quietAccepted.jobId
      (.commit (some quietAccepted) 1010) (.commit .primaryCommit) :=
    ⟨sampleCalls, [], rfl, by decide +kernel, trivial⟩
  have hcreation : KeptSince sampleNode committedCalls quietAccepted.jobId
      (.createOrReplay (sampleDependencies "scan-1") (sampleRequest 1 1000))
      (.createOrReplay (.ok (some .create) "scan-1" "eX192PSOJCXEzIbupUfNmcEvXyhFqIGEGXkxLrN_Cak"
        2800 1800)) :=
    ⟨[], committedCalls.tail, rfl, by decide +kernel, along_of_mayDelete (by decide)⟩
  obtain ⟨scan, row, -, -, hread⟩ := committed_result_readable hresult hcommit hcreation
  have hread' := hread (sampleDependencies "scan-1").tokenKeyring rfl
  have hpresented : presentedToken? (.string
      "bEARER eX192PSOJCXEzIbupUfNmcEvXyhFqIGEGXkxLrN_Cak") =
        some "eX192PSOJCXEzIbupUfNmcEvXyhFqIGEGXkxLrN_Cak" := by
    decide +kernel
  have hearly := (hread' ⟨.string "bEARER eX192PSOJCXEzIbupUfNmcEvXyhFqIGEGXkxLrN_Cak", "scan-1",
    2799⟩ ⟨by decide, by decide, by decide⟩).1 rfl
  have hlate := (hread' ⟨.string "Bearer eX192PSOJCXEzIbupUfNmcEvXyhFqIGEGXkxLrN_Cak", "scan-1",
    2800⟩ ⟨by decide, by decide, by decide⟩).1 rfl
  exact ⟨hearly.trans (if_pos ⟨hpresented, by decide, by decide⟩),
    hlate.trans (if_neg fun h => absurd h.2.2 (by decide))⟩

end Outscan

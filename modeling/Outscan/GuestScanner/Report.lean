import Outscan.GuestScanner.ByteBudget
import Outscan.ScannerOutput.Canonical

/-! The report of the guest scanner as the projection reads it. -/
namespace Outscan

open Json Dynamic Dialogue

/-! ### The report as JSON -/

def CandidateFinding.json (finding : CandidateFinding) : Json.Value :=
  .object (literal [("fingerprint", textJson finding.fingerprint),
    ("severity", textJson finding.severity.text), ("confidence", naturalJson finding.confidence),
    ("evidence", textJson finding.evidence)])

/-- The output, in the order in which `buildOutput` names its members. -/
def GuestScannerOutput.json (output : GuestScannerOutput) : Json.Value :=
  .object (literal [
    ("observations", .array (output.observations.map observationJson)),
    ("candidate_findings", .array (output.candidateFindings.map (·.json))),
    ("coverage", .array (output.coverage.map coverageJson)),
    ("execution_metadata", .object (literal [("schema_version", naturalJson 1),
      ("profile", textJson "GUEST_SAFE"), ("canonical_host", textJson output.canonicalHost),
      ("policy_id", textJson "outscan-v1"), ("policy_version", textJson "1.0.0"),
      ("duration_ms", naturalJson output.durationMs),
      ("request_count", naturalJson output.requestCount)])),
    ("warnings", .array (output.warnings.map fun code => .object (literal [("code", textJson code)])))])

/-! ### Every check once -/

theorem checks_setOutcome (outcomes : List GuestPostureObservation) (check : GuestPostureCheck)
    (outcome : PostureOutcome) :
    (setOutcome outcomes check outcome).map (·.checkId) = outcomes.map (·.checkId) := by
  rw [setOutcome, List.map_map]
  apply List.map_congr_left
  intro item _
  rw [Function.comp_apply]
  split <;> rfl

theorem checks_foldl_setOutcome (items outcomes : List GuestPostureObservation) :
    (items.foldl (fun outcomes item => setOutcome outcomes item.checkId item.outcome)
      outcomes).map (·.checkId) = outcomes.map (·.checkId) := by
  induction items generalizing outcomes with
  | nil => rfl
  | cons item rest ih => rw [List.foldl_cons, ih, checks_setOutcome]

theorem checks_resolutionOutcomes (resolved : ResolveTargetResult)
    (outcomes : List GuestPostureObservation) :
    (resolutionOutcomes resolved outcomes).map (·.checkId) = outcomes.map (·.checkId) := by
  cases resolved with
  | ok target => exact checks_setOutcome ..
  | failed code decision => rfl

theorem checks_frontPageOutcomes (http : Option SafeHttpFlowResult)
    (outcomes : List GuestPostureObservation) :
    (frontPageOutcomes http outcomes).map (·.checkId) = outcomes.map (·.checkId) := by
  unfold frontPageOutcomes
  split
  · rw [checks_foldl_setOutcome, checks_setOutcome, checks_setOutcome]
  · rfl

theorem checks_securityTxtOutcomes (runtime : ScannerRuntime) (host : String) (completedAt : Nat)
    (securityTxt : Option SafeHttpFlowResult) (outcomes : List GuestPostureObservation) :
    (securityTxtOutcomes runtime host completedAt securityTxt outcomes).map (·.checkId) =
      outcomes.map (·.checkId) := by
  unfold securityTxtOutcomes
  split
  · exact checks_setOutcome ..
  · exact checks_setOutcome ..
  · rfl

section

variable (runtime : ScannerRuntime) (host : String) (startedAt completedAt requestCount : Nat)
  (resolved : ResolveTargetResult) (http securityTxt : Option SafeHttpFlowResult)

theorem checks_buildOutput :
    (buildOutput runtime host startedAt completedAt requestCount resolved http
      securityTxt).observations.map (·.checkId) = guestChecks := by
  unfold buildOutput
  dsimp only
  rw [checks_securityTxtOutcomes, checks_frontPageOutcomes, checks_resolutionOutcomes, List.map_map]
  exact List.map_id _

theorem groups_buildOutput :
    (buildOutput runtime host startedAt completedAt requestCount resolved http
      securityTxt).coverage.map (·.detectorGroup) = guestCoverageGroups := rfl

theorem warnings_buildOutput :
    (buildOutput runtime host startedAt completedAt requestCount resolved http
      securityTxt).warnings.Nodup ∧
    (buildOutput runtime host startedAt completedAt requestCount resolved http
      securityTxt).warnings.length ≤ 7 ∧
    ∀ code ∈ (buildOutput runtime host startedAt completedAt requestCount resolved http
      securityTxt).warnings, isMachineCode code = true := by
  have hall : ∀ found pageOk textOk : Bool,
      let codes := (if !found then ["TARGET_RESOLUTION_UNAVAILABLE"] else []) ++
        (if found && !pageOk then ["HTTPS_PROBE_UNAVAILABLE"] else []) ++
        (if found && !textOk then ["SECURITY_TXT_UNAVAILABLE"] else []) ++
        unavailableCoverage.map fun group => group.text ++ "_UNAVAILABLE"
      codes.Nodup ∧ codes.length ≤ 7 ∧ ∀ code ∈ codes, isMachineCode code = true := by
    decide +kernel
  exact hall resolved.isOk (http.any (·.isOk)) (securityTxt.any (·.isOk))

end

def checkFinding (runtime : ScannerRuntime) (host : String) (check : GuestPostureCheck) :
    GuestFinding where
  fingerprint := runtime.sha256 (findingDomain ++ utf8Bytes host ++ [0] ++ utf8Bytes check.text)
  severity := if check = .httpHsts ∨ check = .httpCsp then .medium else .low
  confidence := 90
  evidence := Json.textOf (check.text ++ ":NOT_ACCEPTED")
  confidence_le := by decide
  evidence_le := by cases check <;> decide +kernel

theorem length_evidence_checkFinding (runtime : ScannerRuntime) (host : String)
    (check : GuestPostureCheck) : (checkFinding runtime host check).evidence.length ≤ 100 := by
  change (Json.textOf (check.text ++ ":NOT_ACCEPTED")).length ≤ 100
  cases check <;> decide +kernel

/-! ### The report as an envelope -/

theorem exists_envelope {runtime : ScannerRuntime} {host : String} {requestCount : Nat}
    (hhost : canonicalizeHostname runtime.toNodeRuntime host = .ok host)
    (hrequests : requestCount ≤ 40) (startedAt completedAt : Nat) (resolved : ResolveTargetResult)
    (http securityTxt : Option SafeHttpFlowResult) :
    let output := buildOutput runtime host startedAt completedAt requestCount resolved http securityTxt
    ∃ envelope : GuestEnvelope runtime.toNodeRuntime, envelope.json = output.json ∧
      envelope.coverage.val = output.coverage ∧ envelope.metadata.canonicalHost = host ∧
      envelope.metadata.requestCount = requestCount ∧ envelope.findings.val.length ≤ 17 ∧
      ∀ item ∈ envelope.findings.val, item.evidence.length ≤ 100 := by
  intro output
  have hchecks : output.observations.map (·.checkId) = guestChecks := checks_buildOutput ..
  obtain ⟨hnodup, hwarnings, hcodes⟩ := warnings_buildOutput runtime host startedAt completedAt
    requestCount resolved http securityTxt
  let items := output.observations.filter fun item =>
    isCandidateCheck item.checkId && item.outcome == .attention
  have hitems : items.length ≤ 17 := by
    have hcount := congrArg List.length hchecks
    rw [List.length_map] at hcount
    exact (List.length_filter_le _ _).trans hcount.le
  have hfindings : output.candidateFindings =
      items.map fun item => candidateFinding runtime host item.checkId := rfl
  let findings := items.map fun item => checkFinding runtime host item.checkId
  have hlength : findings.length ≤ 17 := (List.length_map _).trans_le hitems
  let codes : List MachineCode := output.warnings.attachWith _ hcodes
  have hvalues : codes.map (·.val) = output.warnings := by simp [codes]
  have hcodesLength : codes.length = output.warnings.length := List.length_attachWith
  have hcodesNodup : codes.Nodup := by
    apply List.Nodup.of_map (·.val)
    rw [hvalues]
    exact hnodup
  refine ⟨{
      observations := ⟨output.observations, by rw [hchecks]; decide⟩
      findings := ⟨findings, hlength.trans (by decide)⟩
      coverage := ⟨output.coverage, by simp [output, buildOutput], by
        rw [groups_buildOutput]
        decide⟩
      metadata := {
        canonicalHost := host
        durationMs := min 30000 (completedAt - startedAt)
        requestCount := requestCount
        host_canonical := hhost
        duration_le := Nat.min_le_left _ _
        request_le := hrequests }
      warnings := ⟨codes, by rw [hcodesLength]; exact hwarnings.trans (by decide), hcodesNodup⟩ },
    ?_, rfl, rfl, rfl, hlength, ?_⟩
  · unfold GuestEnvelope.json GuestScannerOutput.json
    have hfindingsJson : findings.map findingJson = output.candidateFindings.map (·.json) := by
      rw [hfindings, List.map_map, List.map_map]
      rfl
    have hcodesJson : codes.map warningJson =
        output.warnings.map fun code => .object (literal [("code", textJson code)]) := by
      rw [← hvalues, List.map_map]
      rfl
    dsimp only
    rw [hfindingsJson, hcodesJson]
    rfl
  · intro item hitem
    obtain ⟨observation, -, rfl⟩ := List.mem_map.mp hitem
    exact length_evidence_checkFinding ..

/-! ### Every call is counted -/

section

variable {runtime : ScannerRuntime} {input : ScannerInput runtime.toNodeRuntime}
  {cidrs : UnknownList}

theorem calls_bounded {count last maxRequests : Nat} {α : Type} {flow : Flow α}
    {exchanges : List ScanExchange} {value : α}
    (h : Plays (bounded maxRequests flow count) exchanges (some (value, last))) :
    last = count + calls exchanges := by
  obtain ⟨outer, -, hinterpreted⟩ := plays_bounded.mp h
  exact (interpreted_count hinterpreted).1

/-- The calls of a run that returned its output are the ones that the output states. -/
theorem calls_of_splitsInto {exchanges : List ScanExchange} {parts : ScanParts}
    {http securityTxt : Option SafeHttpFlowResult} {output : GuestScannerOutput}
    (h : SplitsInto runtime input cidrs exchanges parts http securityTxt output) :
    calls exchanges = output.requestCount ∧
      output.requestCount ≤ input.policy.budgets.maxRequests := by
  obtain ⟨first, startedAt, resolved, count, requestCount, last, completedAt, rfl, -, -, hresolution,
    hruns, -, rfl⟩ := h.run
  have hcounted := calls_bounded hresolution
  obtain ⟨-, hcount⟩ := last_le (Nat.zero_le _) hresolution
  have hclock : ∀ reading, calls [⟨.now, reading⟩] = 0 := fun _ => rfl
  have hcalls : ∀ reading rest, calls (⟨.now, reading⟩ :: rest) = calls rest := fun _ _ => rfl
  change _ = requestCount ∧ requestCount ≤ _
  rw [hcalls, calls_append, calls_append, calls_append, hclock]
  cases hruns with
  | none hfront htext =>
    rw [hfront, htext]
    exact ⟨by rw [hcounted]; simp [calls], hcount⟩
  | both hfront htext =>
    have hfrontCalls := calls_bounded hfront
    have htextCalls := calls_bounded htext
    obtain ⟨-, hmiddle⟩ := last_le hcount hfront
    obtain ⟨-, hlast⟩ := last_le hmiddle htext
    exact ⟨by omega, hlast⟩

end

theorem scannerInput_target {node : NodeRuntime} {value : Dynamic.Value ScannerField}
    {input : ScannerInput node} (h : scannerInput node value = some input) :
    ∃ record, value = .record record ∧
      (record.get (.scalar .other) "canonical_target").text? = some input.canonicalHost := by
  unfold scannerInput at h
  split at h
  · cases h
  · rename_i record
    split at h
    · cases h
    · dsimp only at h
      split at h
      · rename_i htarget
        split at h
        · cases h
          exact ⟨record, rfl, htarget⟩
        · cases h
      · cases h

/-- `BUDGET_CEILINGS.GUEST_SAFE.max_output_bytes`. -/
def guestSafeOutputLimit : Nat := (budgetCeilings .guestSafe).maxOutputBytes

/-- Whatever the resolver, the transport and the clock answer: what the scanner reports is
accepted by the projection, for the target that was asked for and with every group covered.
Every call is counted, and none is made beyond the budget. -/
theorem report_projected {runtime : ScannerRuntime} {rawInput : Dynamic.Value ScannerField}
    {cidrs : UnknownList} {exchanges : List ScanExchange} {output : GuestScannerOutput}
    (h : Plays (runGuestSafeScanner runtime rawInput cidrs) exchanges (some (.ok output)))
    (locale : LocaleOrder) :
    ∃ input record projection, scannerInput runtime.toNodeRuntime rawInput = some input ∧
      rawInput = .record record ∧
      projectGuestScannerOutput runtime.toNodeRuntime locale (.bytes output.json.bytes)
        (.number (.whole guestSafeOutputLimit)) = .ok projection ∧
      (record.get (.scalar .other) "canonical_target").text? = some projection.canonicalHost ∧
      (∀ group, group ∈ projection.coverage.map (·.detectorGroup)) ∧
      calls exchanges = projection.requestCount ∧
      calls exchanges ≤ input.policy.budgets.maxRequests := by
  cases hinput : scannerInput runtime.toNodeRuntime rawInput with
  | none =>
    rw [runGuestSafeScanner, hinput] at h
    cases h
  | some input =>
    obtain ⟨record, hrecord, htarget⟩ := scannerInput_target hinput
    obtain ⟨parts, http, securityTxt, hsplits⟩ := splitsInto_of_plays hinput h
    obtain ⟨hcalls, hbudget⟩ := calls_of_splitsInto hsplits
    have hceiling : input.policy.budgets.maxRequests ≤ 40 := by
      have hwithin := input.policy.budgets_within.requests
      rw [input.guestSafe] at hwithin
      exact hwithin
    obtain ⟨_, startedAt, resolved, _, requestCount, _, completedAt, -, -, -, -, -, -, rfl⟩ :=
      hsplits.run
    obtain ⟨envelope, hjson, hcoverage, hhost, hrequests, hfew, hshort⟩ :=
      exists_envelope input.host_canonical (hbudget.trans hceiling) startedAt completedAt resolved
        http securityTxt
    have hread := envelopeOfBytes_json envelope
    have hsize := length_envelope_le hfew hshort
    rw [hjson] at hread hsize
    have hlimit : outputLimit? (.number (.whole guestSafeOutputLimit)) = some guestSafeOutputLimit :=
      outputLimit?_whole (by decide) (by decide)
    have hprojected := projectGuestScannerOutput_ok.mpr
      ⟨guestSafeOutputLimit, _, envelope, hlimit, rfl, hsize, hread,
        (rfl : projectEnvelope locale envelope = _)⟩
    refine ⟨input, record, _, rfl, hrecord, hprojected, ?_, ?_, ?_, hcalls.trans_le hbudget⟩
    · exact htarget.trans (congrArg some hhost.symm)
    · intro group
      have hmem : group ∈ envelope.coverage.val.map (·.detectorGroup) := by
        rw [hcoverage, groups_buildOutput]
        exact mem_guestCoverageGroups group
      exact ((locale.sort_perm _ _).map _).mem_iff.mpr hmem
    · exact hcalls.trans hrequests.symm

def codePointOrder : LocaleOrder where
  le left right := decide (left ≤ right)
  le_trans _ _ _ hab hbc := decide_eq_true (le_trans (of_decide_eq_true hab) (of_decide_eq_true hbc))
  le_total left right := by simp [le_total]
  le_antisymm _ _ hab hba := le_antisymm (of_decide_eq_true hab) (of_decide_eq_true hba)

def oneByteRun : List ScanExchange × Except GuestScannerFailure GuestScannerOutput :=
  converse oneByteEnvironment []
    (runGuestSafeScanner plainRuntime (scanRequest 40 1 1) (.strings []))

theorem report_projected_sample :
    ∃ output projection, oneByteRun.2 = .ok output ∧
      projectGuestScannerOutput plainRuntime.toNodeRuntime codePointOrder
        (.bytes output.json.bytes) (.number (.whole guestSafeOutputLimit)) = .ok projection ∧
      calls oneByteRun.1 = projection.requestCount := by
  have hok : oneByteRun.2.isOk = true := by decide +kernel
  cases hrun : oneByteRun.2 with
  | error failure =>
    rw [hrun] at hok
    cases hok
  | ok output =>
    have hplays : Plays (runGuestSafeScanner plainRuntime (scanRequest 40 1 1) (.strings []))
        oneByteRun.1 (some (.ok output)) := by
      rw [← hrun]
      exact plays_converse _ _ _
    obtain ⟨_, _, projection, -, -, hprojected, -, -, hcalls, -⟩ :=
      report_projected hplays codePointOrder
    exact ⟨output, projection, rfl, hprojected, hcalls⟩

end Outscan

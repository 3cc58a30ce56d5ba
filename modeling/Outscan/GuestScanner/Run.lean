import Outscan.GuestScanner.Headers
import Outscan.GuestScanner.SecurityTxt
import Outscan.ResultEnvelope.Codec
import Outscan.ScannerOutput.Inventory
import Outscan.ScannerPolicy.Validate

/-! The guest scanner: it resolves the target, fetches the front page and
`security.txt`, and reports, all within one budget of outbound requests. -/
namespace Outscan

def requiredCapabilities : List Capability :=
  [.dnsRead, .tlsHandshake, .httpGetHead, .sameHostRedirect, .httpHeaderObserve]

/-- `CHECKS`. -/
def guestChecks : List GuestPostureCheck :=
  [.dnsAaaaPresent, .dnsDnssec, .dnsCaa, .mailSpf, .mailDmarc, .mailMtaSts, .mailTlsRpt,
    .tlsCertificate, .httpHsts, .httpCsp, .httpXContentTypeOptions, .httpFrameProtection,
    .httpReferrerPolicy, .httpPermissionsPolicy, .httpProtocol, .infraRpki, .securityTxt]

def unavailableCoverage : List GuestCoverageGroup :=
  [.mailSecurityPosture, .publicInfrastructure, .rdapEnrichment, .ctEnrichment]

inductive ScannerField where
  | scalar (value : Dynamic.Scalar)
  | record (value : Dynamic.Record PolicyField)

def ScannerField.text? : ScannerField → Option String
  | .scalar (.string value) => some value
  | _ => none

def ScannerField.isNumber (field : ScannerField) (number : Int) : Bool :=
  match field with
  | .scalar (.number (some value)) => value == number
  | _ => false

def ScannerField.policy : ScannerField → Dynamic.Value PolicyField
  | .record value => .record value
  | .scalar _ => .other

structure ScannerBudgets.Sufficient (budgets : ScannerBudgets) : Prop where
  duration : 1 ≤ budgets.hardDurationSeconds
  requests : 3 ≤ budgets.maxRequests
  concurrency : 2 ≤ budgets.maxConcurrency
  response : 1 ≤ budgets.maxResponseBytes
  totalResponse : 1 ≤ budgets.maxTotalResponseBytes

instance (budgets : ScannerBudgets) : Decidable budgets.Sufficient :=
  decidable_of_iff
    (1 ≤ budgets.hardDurationSeconds ∧ 3 ≤ budgets.maxRequests ∧ 2 ≤ budgets.maxConcurrency ∧
      1 ≤ budgets.maxResponseBytes ∧ 1 ≤ budgets.maxTotalResponseBytes)
    ⟨fun ⟨h₁, h₂, h₃, h₄, h₅⟩ => ⟨h₁, h₂, h₃, h₄, h₅⟩,
      fun ⟨h₁, h₂, h₃, h₄, h₅⟩ => ⟨h₁, h₂, h₃, h₄, h₅⟩⟩

structure ScannerInput (node : NodeRuntime) where
  canonicalHost : String
  policy : ScannerExecutionRequest
  host_canonical : canonicalizeHostname node canonicalHost = .ok canonicalHost
  guestSafe : policy.profile = .guestSafe
  capabilities : ∀ c ∈ requiredCapabilities, c ∈ policy.requestedCapabilities
  sufficient : policy.budgets.Sufficient

/-- `INPUT_KEYS` of the scanner. -/
def scannerInputKeys : List String := ["schema_version", "canonical_target", "policy"]

def scannerInput (node : NodeRuntime) (value : Dynamic.Value ScannerField) :
    Option (ScannerInput node) :=
  match value with
  | .other => none
  | .record record =>
    if !record.hasExactKeys scannerInputKeys then none
    else
      let field := record.get (.scalar .other)
      match authorizeScannerExecution (field "policy").policy, (field "canonical_target").text? with
      | .allowed request, some canonicalTarget =>
        if h : (field "schema_version").isNumber 1 = true ∧
            canonicalizeHostname node canonicalTarget = .ok canonicalTarget ∧
            request.profile = .guestSafe ∧
            (∀ c ∈ requiredCapabilities, c ∈ request.requestedCapabilities) ∧
            request.budgets.Sufficient then
          some {
            canonicalHost := canonicalTarget
            policy := request
            host_canonical := h.2.1
            guestSafe := h.2.2.1
            capabilities := h.2.2.2.1
            sufficient := h.2.2.2.2 }
        else none
      | _, _ => none

/-! ### One budget of requests -/

inductive ScanQuestion where
  | now
  | resolve4 (hostname : String)
  | resolve6 (hostname : String)
  | transport (dispatch : Dispatch)

abbrev ScanAnswer : ScanQuestion → Type
  | .now => ClockReading
  | .resolve4 _ => FamilyQuery
  | .resolve6 _ => FamilyQuery
  | .transport _ => Except Unit PinnedTransportResult

abbrev Scan (α : Type) := Dialogue ScanQuestion ScanAnswer α

abbrev ScanExchange := Dialogue.Exchange ScanQuestion ScanAnswer

/-- A call that `reserve` guards: what is refused is answered without asking. -/
def reserved (maxRequests : Nat) (question : ScanQuestion) (refused : ScanAnswer question)
    (requestCount : Nat) : Scan (ScanAnswer question × Nat) :=
  if requestCount ≥ maxRequests then return (refused, requestCount)
  else do
    let answer ← Dialogue.question question
    return (answer, requestCount + 1)

/-- The error `REQUEST_BUDGET_EXCEEDED` has no code. -/
def boundedResolver (maxRequests : Nat) (hostname : String) (requestCount : Nat) :
    Scan ((FamilyQuery × FamilyQuery) × Nat) := do
  let (ipv4Result, count) ← reserved maxRequests (.resolve4 hostname) (.rejected none) requestCount
  let (ipv6Result, count) ← reserved maxRequests (.resolve6 hostname) (.rejected none) count
  return ((ipv4Result, ipv6Result), count)

def boundedTransport (maxRequests : Nat) (dispatch : Dispatch) (requestCount : Nat) :
    Scan (Except Unit PinnedTransportResult × Nat) :=
  reserved maxRequests (.transport dispatch) (.ok (.error .transportError)) requestCount

def boundedAnswer (maxRequests : Nat) : (q : FlowQuestion) → Nat → Scan (FlowAnswer q × Nat)
  | .now, requestCount => do
    let reading ← Dialogue.question ScanQuestion.now
    return (reading, requestCount)
  | .resolve hostname, requestCount => boundedResolver maxRequests hostname requestCount
  | .transport dispatch, requestCount => boundedTransport maxRequests dispatch requestCount

def bounded {α : Type} (maxRequests : Nat) (flow : Flow α) (requestCount : Nat) :
    Scan (α × Nat) :=
  Dialogue.interpret (boundedAnswer maxRequests) flow requestCount

/-! ### The probes -/

def probeLimits (durationMs maxResponseBytes : Nat) : Dynamic.Record Dynamic.Scalar where
  fields :=
    [("timeout_ms", .number (some (min durationMs 30000 : Nat))),
      ("max_response_bytes", .number (some maxResponseBytes)),
      ("max_header_pairs", .number (some (100 : Nat))),
      ("max_header_bytes", .number (some (64 * 1024 : Nat)))]
  unique := by simp

def probeRecord {node : NodeRuntime} (input : ScannerInput node) (startedAt : Nat) (path : String)
    (maxTotalResponseBytes maxResponseBytes : Nat) : Dynamic.Record FlowField :=
  let durationMs := input.policy.budgets.hardDurationSeconds * 1000
  let number (value : Nat) : FlowField := .scalar (.number (some value))
  { fields :=
      [("canonical_host", .scalar (.string input.canonicalHost)),
       ("protocol", .scalar (.string "https:")), ("method", .scalar (.string "GET")),
       ("path", .scalar (.string path)),
       ("deadline_unix_ms", number (startedAt + durationMs)),
       ("max_redirects", number input.policy.budgets.maxRedirects), ("max_retries", number 0),
       ("max_total_response_bytes", number maxTotalResponseBytes),
       ("transport_limits", .record (probeLimits durationMs maxResponseBytes))]
    unique := by simp }

def frontPageInput {node : NodeRuntime} (input : ScannerInput node) (startedAt : Nat) :
    Dynamic.Value FlowField :=
  .record (probeRecord input startedAt "/" input.policy.budgets.maxTotalResponseBytes
    (min input.policy.budgets.maxResponseBytes (64 * 1024)))

def securityTxtInput {node : NodeRuntime} (input : ScannerInput node) (startedAt : Nat) :
    Dynamic.Value FlowField :=
  .record (probeRecord input startedAt guestSecurityTxtPath guestSecurityTxtMaxBytes
    (min input.policy.budgets.maxResponseBytes guestSecurityTxtMaxBytes))

/-! ### The report -/

structure CandidateFinding where
  fingerprint : String
  severity : Severity
  confidence : Nat
  evidence : String
deriving DecidableEq, Repr

/-- The scanner's output. Its metadata name schema 1, the profile `GUEST_SAFE` and
policy `outscan-v1` 1.0.0 throughout. -/
structure GuestScannerOutput where
  observations : List GuestPostureObservation
  candidateFindings : List CandidateFinding
  coverage : List GuestCoverageProjection
  canonicalHost : String
  durationMs : Nat
  requestCount : Nat
  warnings : List String
deriving DecidableEq, Repr

/-- `OUTSCAN:GUEST_FINDING:v1`, closed by a zero byte. -/
def findingDomain : List UInt8 := utf8Bytes "OUTSCAN:GUEST_FINDING:v1" ++ [0]

def fingerprint (runtime : ScannerRuntime) (host : String) (check : GuestPostureCheck) : String :=
  digestText (runtime.sha256 (findingDomain ++ utf8Bytes host ++ [0] ++ utf8Bytes check.text))

/-- `outcomes.set`, on a map that has the check. -/
def setOutcome (outcomes : List GuestPostureObservation) (check : GuestPostureCheck)
    (outcome : PostureOutcome) : List GuestPostureObservation :=
  outcomes.map fun item => if item.checkId = check then { item with outcome } else item

def SafeHttpFlowResult.isOk : SafeHttpFlowResult → Bool
  | .ok _ _ _ _ => true
  | .failed _ => false

def ResolveTargetResult.isOk : ResolveTargetResult → Bool
  | .ok _ => true
  | .failed _ _ => false

def resolutionOutcomes (resolved : ResolveTargetResult) (outcomes : List GuestPostureObservation) :
    List GuestPostureObservation :=
  match resolved with
  | .ok target =>
    setOutcome outcomes .dnsAaaaPresent
      (if target.addresses.any (·.family = .v6) then .pass else .attention)
  | .failed _ _ => outcomes

def frontPageOutcomes (http : Option SafeHttpFlowResult) (outcomes : List GuestPostureObservation) :
    List GuestPostureObservation :=
  match http with
  | some (.ok response _ _ _) =>
    (inspectGuestSecurityHeaders response.headers).foldl
      (fun outcomes item => setOutcome outcomes item.checkId item.outcome)
      (setOutcome (setOutcome outcomes .tlsCertificate .pass) .httpProtocol .pass)
  | _ => outcomes

/-- What `security.txt` says of its check. -/
def securityTxtOutcomes (runtime : ScannerRuntime) (host : String) (completedAt : Nat)
    (securityTxt : Option SafeHttpFlowResult) (outcomes : List GuestPostureObservation) :
    List GuestPostureObservation :=
  match securityTxt with
  | some (.ok response _ _ .complete) =>
    setOutcome outcomes .securityTxt (inspectGuestSecurityTxt runtime response host completedAt)
  | some (.ok _ _ _ .crossHostRedirect) => setOutcome outcomes .securityTxt .attention
  | _ => outcomes

/-- `check.startsWith("HTTP_") || check === "SECURITY_TXT"`. -/
def isCandidateCheck (check : GuestPostureCheck) : Bool :=
  "HTTP_".toList.isPrefixOf check.text.toList || check == .securityTxt

def candidateFinding (runtime : ScannerRuntime) (host : String) (check : GuestPostureCheck) :
    CandidateFinding where
  fingerprint := fingerprint runtime host check
  severity := if check = .httpHsts ∨ check = .httpCsp then .medium else .low
  confidence := 90
  evidence := check.text ++ ":NOT_ACCEPTED"

def coverageItem (group : GuestCoverageGroup) (available : Bool) (completeness : Completeness) :
    GuestCoverageProjection where
  detectorGroup := group
  executionStatus := if available then .success else .failed
  completeness := if available then completeness else .unknown

def buildOutput (runtime : ScannerRuntime) (host : String) (startedAt completedAt requestCount : Nat)
    (resolved : ResolveTargetResult) (http securityTxt : Option SafeHttpFlowResult) :
    GuestScannerOutput :=
  let httpOk := http.any (·.isOk)
  let outcomes :=
    securityTxtOutcomes runtime host completedAt securityTxt
      (frontPageOutcomes http
        (resolutionOutcomes resolved
          (guestChecks.map fun check => { checkId := check, outcome := .unknown })))
  { observations := outcomes
    candidateFindings :=
      (outcomes.filter fun item => isCandidateCheck item.checkId && item.outcome == .attention).map
        fun item => candidateFinding runtime host item.checkId
    coverage :=
      [coverageItem .targetResolution resolved.isOk .complete,
        coverageItem .dnsDomainPosture resolved.isOk .partially,
        coverageItem .tlsCertificatePosture httpOk .complete,
        coverageItem .httpSecurityPosture httpOk .partially] ++
      unavailableCoverage.map fun group => coverageItem group false .unknown
    canonicalHost := host
    durationMs := min 30000 (completedAt - startedAt)
    requestCount := requestCount
    warnings :=
      (if !resolved.isOk then ["TARGET_RESOLUTION_UNAVAILABLE"] else []) ++
      (if resolved.isOk && !httpOk then ["HTTPS_PROBE_UNAVAILABLE"] else []) ++
      (if resolved.isOk && !securityTxt.any (·.isOk) then ["SECURITY_TXT_UNAVAILABLE"] else []) ++
      unavailableCoverage.map fun group => group.text ++ "_UNAVAILABLE" }

/-! ### The run -/

inductive GuestScannerFailure where
  | invalidScannerInput | invalidScannerRuntime
deriving DecidableEq, Repr

def safeNow : Scan (Option Nat) := do
  let reading ← Dialogue.question ScanQuestion.now
  return nowValue reading

/-- What the two flows returned, when the target was resolved, and the number of
requests made by then. -/
structure Probes where
  http : Option SafeHttpFlowResult
  securityTxt : Option SafeHttpFlowResult
  requestCount : Nat

def runProbes (runtime : ScannerRuntime) (input : ScannerInput runtime.toNodeRuntime)
    (cidrs : UnknownList) (startedAt requestCount : Nat) : Scan Probes := do
  let maxRequests := input.policy.budgets.maxRequests
  let (http, count) ← bounded maxRequests
    (executeSafeHttpFlow runtime.toFlowRuntime (frontPageInput input startedAt) cidrs) requestCount
  let (securityTxt, count) ← bounded maxRequests
    (executeSafeHttpFlow runtime.toFlowRuntime (securityTxtInput input startedAt) cidrs) count
  return { http := some http, securityTxt := some securityTxt, requestCount := count }

def probesAfter (runtime : ScannerRuntime) (input : ScannerInput runtime.toNodeRuntime)
    (cidrs : UnknownList) (startedAt requestCount : Nat) (resolved : ResolveTargetResult) :
    Scan Probes :=
  if resolved.isOk then runProbes runtime input cidrs startedAt requestCount
  else return { http := none, securityTxt := none, requestCount := requestCount }

/-- The scan of an accepted input that started at `startedAt`. -/
def scanFrom (runtime : ScannerRuntime) (input : ScannerInput runtime.toNodeRuntime)
    (cidrs : UnknownList) (startedAt : Nat) :
    Scan (Except GuestScannerFailure GuestScannerOutput) := do
  let (resolved, count) ← bounded input.policy.budgets.maxRequests
    (resolveAndClassifyHostname runtime.toNodeRuntime input.canonicalHost resolver cidrs startedAt) 0
  let probes ← probesAfter runtime input cidrs startedAt count resolved
  match ← safeNow with
  | none => return .error .invalidScannerRuntime
  | some completedAt =>
    return .ok (buildOutput runtime input.canonicalHost startedAt completedAt probes.requestCount
      resolved probes.http probes.securityTxt)

def runGuestSafeScanner (runtime : ScannerRuntime) (rawInput : Dynamic.Value ScannerField)
    (configuredInternalCidrs : UnknownList) :
    Scan (Except GuestScannerFailure GuestScannerOutput) :=
  match scannerInput runtime.toNodeRuntime rawInput,
    snapshotConfiguredInternalCidrs configuredInternalCidrs with
  | none, _ => return .error .invalidScannerInput
  | some _, none => return .error .invalidScannerRuntime
  | some input, some cidrs => do
    match ← safeNow with
    | none => return .error .invalidScannerRuntime
    | some startedAt =>
      if startedAt + input.policy.budgets.hardDurationSeconds * 1000 > maxSafeInteger then
        return .error .invalidScannerRuntime
      else scanFrom runtime input (.strings cidrs) startedAt

end Outscan

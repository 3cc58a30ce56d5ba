import Outscan.Library.Calendar
import Outscan.ScannerOutput.Inventory
import Outscan.Target.Hostname

/-! What a Guest may see of a finished scan. -/
namespace Outscan

open Dynamic

def maxResultWindowSeconds : Nat := 1800
def maxUnixSecondsForIso : Nat := 253402300799

inductive SectionId where
  | infrastructure | domain | mail | tls | web
deriving DecidableEq, Repr

def SectionId.text : SectionId → String
  | .infrastructure => "INFRASTRUCTURE"
  | .domain => "DOMAIN"
  | .mail => "MAIL"
  | .tls => "TLS"
  | .web => "WEB"

/-- The sections in the order of `SECTION_CHECKS`. -/
def sectionIds : List SectionId := [.infrastructure, .domain, .mail, .tls, .web]

def sectionChecks : SectionId → List GuestPostureCheck
  | .infrastructure => [.dnsAaaaPresent, .infraRpki]
  | .domain => [.dnsDnssec, .dnsCaa, .securityTxt]
  | .mail => [.mailSpf, .mailDmarc, .mailMtaSts, .mailTlsRpt]
  | .tls => [.tlsCertificate]
  | .web =>
    [.httpHsts, .httpCsp, .httpXContentTypeOptions, .httpFrameProtection, .httpReferrerPolicy,
      .httpPermissionsPolicy, .httpProtocol]

inductive PublicCoverageState where
  | complete | partially | notApplicable | unknown | unavailable | missing
deriving DecidableEq, Repr

def PublicCoverageState.text : PublicCoverageState → String
  | .complete => "COMPLETE"
  | .partially => "PARTIAL"
  | .notApplicable => "NOT_APPLICABLE"
  | .unknown => "UNKNOWN"
  | .unavailable => "UNAVAILABLE"
  | .missing => "MISSING"

inductive CoverageState where
  | complete | partially | insufficient
deriving DecidableEq, Repr

def CoverageState.text : CoverageState → String
  | .complete => "COMPLETE"
  | .partially => "PARTIAL"
  | .insufficient => "INSUFFICIENT"

structure PostureSection where
  sectionId : SectionId
  checks : List GuestPostureObservation
deriving DecidableEq, Repr

structure CoverageGroupView where
  detectorGroup : GuestCoverageGroup
  state : PublicCoverageState
deriving DecidableEq, Repr

structure CoverageView where
  state : CoverageState
  completeGroupCount : Nat
  totalGroupCount : Nat
  groups : List CoverageGroupView
deriving DecidableEq, Repr

/-- `schema_version` is 1, `status` is COMPLETED and the limitations are the same
in every view. -/
structure GuestResultView where
  guestScanId : String
  canonicalHost : String
  completedAt : String
  resultAccessExpiresAt : String
  postureSections : List PostureSection
  potentialRiskCount : Number
  warningCount : Number
  coverage : CoverageView
deriving DecidableEq

/-! ### What the view is made from -/

/-- `access`, as `snapshotAccess` lets it through. -/
structure GuestResultAccess where
  guestScanId : String
  resultAccessExpiresAt : Nat
  resultTokenExpiresIn : Nat
  id_valid : validId guestScanId = true
  expires_pos : 1 ≤ resultAccessExpiresAt
  expires_le : resultAccessExpiresAt ≤ maxUnixSecondsForIso
  remaining_pos : 1 ≤ resultTokenExpiresIn
  remaining_le : resultTokenExpiresIn ≤ maxResultWindowSeconds

/-- A projection, as `snapshotSanitizedGuestProjection` lets it through. Numbers
are as they came, so a zero keeps its sign. -/
structure ProjectionSnapshot (node : NodeRuntime) where
  canonicalHost : String
  posture : List GuestPostureObservation
  potentialRiskCount : Number
  coverage : List GuestCoverageProjection
  warningCount : Number
  durationMs : Number
  requestCount : Number
  host_canonical : canonicalizeHostname node canonicalHost = .ok canonicalHost
  posture_nodup : (posture.map (·.checkId)).Nodup
  coverage_ne : coverage ≠ []
  coverage_nodup : (coverage.map (·.detectorGroup)).Nodup
  risk_count : potentialRiskCount.isCount 256 = true
  warning_count : warningCount.isCount 32 = true
  duration_count : durationMs.isCount 30000 = true
  request_count : requestCount.isCount 40 = true

def guestResultSecurityHeaders : Datum :=
  .object [("cache-control", .string "no-store"), ("referrer-policy", .string "no-referrer")]

def accessKeys : List String :=
  ["guest_scan_id", "result_access_expires_at_unix_seconds", "result_token_expires_in_seconds",
    "response_headers"]

def snapshotAccess (value : Datum) : Option GuestResultAccess :=
  if !value.hasExactKeys accessKeys then none
  else do
    let id ← (value.get "guest_scan_id").string?
    let expires ← (value.get "result_access_expires_at_unix_seconds").bigint?
    let remaining ← (value.get "result_token_expires_in_seconds").whole?
    let headers := value.get "response_headers"
    let cacheControl ← (headers.get "cache-control").string?
    let referrerPolicy ← (headers.get "referrer-policy").string?
    if h : validId id = true ∧ 1 ≤ expires ∧ expires ≤ maxUnixSecondsForIso ∧ 1 ≤ remaining ∧
        remaining ≤ maxResultWindowSeconds ∧
        headers.hasExactKeys ["cache-control", "referrer-policy"] = true ∧
        cacheControl = "no-store" ∧ referrerPolicy = "no-referrer" then
      some {
        guestScanId := id
        resultAccessExpiresAt := expires.toNat
        resultTokenExpiresIn := remaining.toNat
        id_valid := h.1
        expires_pos := by omega
        expires_le := by omega
        remaining_pos := by omega
        remaining_le := by omega }
    else none

def projectionKeys : List String :=
  ["schema_version", "canonical_host", "posture", "potential_risk_count", "coverage",
    "warning_count", "execution"]

def readObservation (item : Datum) : Option GuestPostureObservation :=
  if !item.hasExactKeys ["check_id", "outcome"] then none
  else do
    let checkId ← memberOf guestPostureChecks GuestPostureCheck.text (item.get "check_id")
    let outcome ← memberOf postureOutcomes PostureOutcome.text (item.get "outcome")
    some { checkId, outcome }

def readCoverage (item : Datum) : Option GuestCoverageProjection :=
  if !item.hasExactKeys ["detector_group", "execution_status", "completeness"] then none
  else do
    let detectorGroup ←
      memberOf guestCoverageGroups GuestCoverageGroup.text (item.get "detector_group")
    let executionStatus ←
      memberOf executionStatuses ExecutionStatus.text (item.get "execution_status")
    let completeness ← memberOf completenesses Completeness.text (item.get "completeness")
    some { detectorGroup, executionStatus, completeness }

theorem ok_of_toOption {ε α : Type} {result : Except ε α} {value : α}
    (h : result.toOption = some value) : result = .ok value := by
  cases result with
  | error fault => cases h
  | ok found => exact congrArg Except.ok (Option.some.inj h)

/-- Every check that raises and every early return gives `none`. -/
def snapshotSanitizedGuestProjection (node : NodeRuntime) (value : Datum) :
    Option (ProjectionSnapshot node) :=
  if !value.hasExactKeys projectionKeys then none
  else do
    let schemaVersion ← (value.get "schema_version").number?
    let host ← (value.get "canonical_host").string?
    let postureValue ← (value.get "posture").array?
    let posture ← postureValue.mapM readObservation
    let coverageValue ← (value.get "coverage").array?
    let coverage ← coverageValue.mapM readCoverage
    let riskCount ← (value.get "potential_risk_count").number?
    let warningCount ← (value.get "warning_count").number?
    let execution := value.get "execution"
    let policyVersion ← (execution.get "policy_version").string?
    let duration ← (execution.get "duration_ms").number?
    let requestCount ← (execution.get "request_count").number?
    if schemaVersion ≠ .whole 1 || decide (postureValue.length > guestPostureChecks.length) ||
        decide (coverageValue.length > guestCoverageGroups.length) ||
        !execution.hasExactKeys ["policy_version", "duration_ms", "request_count"] ||
        policyVersion ≠ "1.0.0" then none
    else if h : (canonicalizeHostname node host).toOption = some host ∧
        (posture.map (·.checkId)).Nodup ∧ coverage ≠ [] ∧
        (coverage.map (·.detectorGroup)).Nodup ∧ riskCount.isCount 256 = true ∧
        warningCount.isCount 32 = true ∧ duration.isCount 30000 = true ∧
        requestCount.isCount 40 = true then
      some {
        canonicalHost := host
        posture := posture
        potentialRiskCount := riskCount
        coverage := coverage
        warningCount := warningCount
        durationMs := duration
        requestCount := requestCount
        host_canonical := ok_of_toOption h.1
        posture_nodup := h.2.1
        coverage_ne := h.2.2.1
        coverage_nodup := h.2.2.2.1
        risk_count := h.2.2.2.2.1
        warning_count := h.2.2.2.2.2.1
        duration_count := h.2.2.2.2.2.2.1
        request_count := h.2.2.2.2.2.2.2 }
    else none

/-! ### The view -/

def publicCoverageState (status : ExecutionStatus) (completeness : Completeness) :
    PublicCoverageState :=
  if completeness = .notApplicable then .notApplicable
  else if status ≠ .success then .unavailable
  else
    match completeness with
    | .complete => .complete
    | .partially => .partially
    | .notApplicable => .notApplicable
    | .unknown => .unknown

/-- `new Date(seconds * 1_000).toISOString()`, up to the year 9999. -/
def isoOfSeconds (seconds : Nat) : String :=
  String.ofList (Calendar.ofUnixMs (seconds * 1000)).isoText

/-- The sections of a posture. No check occurs twice, so the map from checks to
observations has the first one of each. -/
def postureSections (posture : List GuestPostureObservation) : List PostureSection :=
  sectionIds.map fun sectionId => {
    sectionId
    checks := (sectionChecks sectionId).filterMap fun check =>
      posture.find? fun item => item.checkId = check }

def coverageGroups (coverage : List GuestCoverageProjection) : List CoverageGroupView :=
  guestCoverageGroups.map fun group => {
    detectorGroup := group
    state :=
      match coverage.find? fun item => item.detectorGroup = group with
      | some item => publicCoverageState item.executionStatus item.completeness
      | none => .missing }

def coverageView (coverage : List GuestCoverageProjection) : CoverageView :=
  let groups := coverageGroups coverage
  let resolved :=
    (groups.filter fun item => item.state = .complete || item.state = .notApplicable).length
  let useful := groups.any fun item => item.state = .complete || item.state = .partially
  { state :=
      if resolved = groups.length then .complete else if useful then .partially else .insufficient
    completeGroupCount := (groups.filter fun item => item.state = .complete).length
    totalGroupCount := groups.length
    groups }

def guestResultBody {node : NodeRuntime} (access : GuestResultAccess) (completed : Nat)
    (projection : ProjectionSnapshot node) : GuestResultView where
  guestScanId := access.guestScanId
  canonicalHost := projection.canonicalHost
  completedAt := isoOfSeconds completed
  resultAccessExpiresAt := isoOfSeconds access.resultAccessExpiresAt
  postureSections := postureSections projection.posture
  potentialRiskCount := projection.potentialRiskCount
  warningCount := projection.warningCount
  coverage := coverageView projection.coverage

/-- `none` is `INVALID_GUEST_RESULT_VIEW`. -/
def createGuestResultView (node : NodeRuntime) (value : Datum) : Option GuestResultView :=
  if !value.hasExactKeys ["access", "completed_at_unix_seconds", "projection"] then none
  else do
    let access ← snapshotAccess (value.get "access")
    let projection ← snapshotSanitizedGuestProjection node (value.get "projection")
    let completed ← (value.get "completed_at_unix_seconds").bigint?
    if completed < 0 || completed > maxUnixSecondsForIso then none
    else if completed > (access.resultAccessExpiresAt : Int) - access.resultTokenExpiresIn then none
    else some (guestResultBody access completed.toNat projection)

/-! ### The same things as values -/

def GuestPostureObservation.toDatum (item : GuestPostureObservation) : Datum :=
  .object [("check_id", .string item.checkId.text), ("outcome", .string item.outcome.text)]

def GuestCoverageProjection.toDatum (item : GuestCoverageProjection) : Datum :=
  .object [
    ("detector_group", .string item.detectorGroup.text),
    ("execution_status", .string item.executionStatus.text),
    ("completeness", .string item.completeness.text)]

def projectionDatum (host riskCount warningCount posture coverage durationMs requestCount : Datum) :
    Datum :=
  .object [
    ("schema_version", .number (.whole 1)),
    ("canonical_host", host),
    ("posture", posture),
    ("potential_risk_count", riskCount),
    ("warning_count", warningCount),
    ("coverage", coverage),
    ("execution", .object [
      ("policy_version", .string "1.0.0"),
      ("duration_ms", durationMs),
      ("request_count", requestCount)])]

def ProjectionSnapshot.toDatum {node : NodeRuntime} (projection : ProjectionSnapshot node) :
    Datum :=
  projectionDatum (.string projection.canonicalHost) (.number projection.potentialRiskCount)
    (.number projection.warningCount)
    (.array (projection.posture.map GuestPostureObservation.toDatum))
    (.array (projection.coverage.map GuestCoverageProjection.toDatum))
    (.number projection.durationMs) (.number projection.requestCount)

/-- The argument of `createGuestResultView`. -/
def viewInput (guestScanId : String) (expires remaining completed : Int) (projection : Datum) :
    Datum :=
  .object [
    ("access", .object [
      ("guest_scan_id", .string guestScanId),
      ("result_access_expires_at_unix_seconds", .bigint expires),
      ("result_token_expires_in_seconds", .number (.whole remaining)),
      ("response_headers", guestResultSecurityHeaders)]),
    ("completed_at_unix_seconds", .bigint completed),
    ("projection", projection)]

def PostureSection.toDatum (part : PostureSection) : Datum :=
  .object [
    ("section_id", .string part.sectionId.text),
    ("checks", .array (part.checks.map GuestPostureObservation.toDatum))]

def CoverageGroupView.toDatum (item : CoverageGroupView) : Datum :=
  .object [
    ("detector_group", .string item.detectorGroup.text), ("state", .string item.state.text)]

def CoverageView.toDatum (coverage : CoverageView) : Datum :=
  .object [
    ("state", .string coverage.state.text),
    ("complete_group_count", .number (.whole coverage.completeGroupCount)),
    ("total_group_count", .number (.whole coverage.totalGroupCount)),
    ("groups", .array (coverage.groups.map CoverageGroupView.toDatum))]

def guestResultLimitations : Datum :=
  .array [.string "GUEST_POSTURE_ONLY", .string "NO_SECURITY_SCORE",
    .string "NO_ABSOLUTE_ASSURANCE"]

def GuestResultView.toDatum (view : GuestResultView) : Datum :=
  .object [
    ("schema_version", .number (.whole 1)),
    ("guest_scan_id", .string view.guestScanId),
    ("canonical_host", .string view.canonicalHost),
    ("status", .string "COMPLETED"),
    ("completed_at", .string view.completedAt),
    ("result_access_expires_at", .string view.resultAccessExpiresAt),
    ("posture_sections", .array (view.postureSections.map PostureSection.toDatum)),
    ("potential_risk_count", .number view.potentialRiskCount),
    ("warning_count", .number view.warningCount),
    ("coverage", view.coverage.toDatum),
    ("limitations", guestResultLimitations)]

/-! ### Written and read again -/

theorem readObservation_toDatum (item : GuestPostureObservation) :
    readObservation item.toDatum = some item := by
  simp [readObservation, GuestPostureObservation.toDatum, Datum.get_object_cons,
    Datum.hasExactKeys_object]

theorem readCoverage_toDatum (item : GuestCoverageProjection) :
    readCoverage item.toDatum = some item := by
  simp [readCoverage, GuestCoverageProjection.toDatum, Datum.get_object_cons,
    Datum.hasExactKeys_object]

theorem snapshotSanitizedGuestProjection_toDatum {node : NodeRuntime}
    (projection : ProjectionSnapshot node) :
    snapshotSanitizedGuestProjection node projection.toDatum = some projection := by
  have hposture : (projection.posture.map GuestPostureObservation.toDatum).mapM readObservation =
      some projection.posture := by
    rw [mapM_map_of_inverse readObservation_toDatum, List.map_id']
  have hcoverage : (projection.coverage.map GuestCoverageProjection.toDatum).mapM readCoverage =
      some projection.coverage := by
    rw [mapM_map_of_inverse readCoverage_toDatum, List.map_id']
  have hhost : (canonicalizeHostname node projection.canonicalHost).toOption =
      some projection.canonicalHost := by
    rw [projection.host_canonical]
    rfl
  have hchecks := length_le_of_nodup projection.posture_nodup mem_guestPostureChecks
  have hgroups := length_le_of_nodup projection.coverage_nodup mem_guestCoverageGroups
  rw [List.length_map] at hchecks hgroups
  have hkeys : projection.toDatum.hasExactKeys projectionKeys = true := by
    simp [ProjectionSnapshot.toDatum, projectionDatum, Datum.hasExactKeys_object, projectionKeys]
  rw [snapshotSanitizedGuestProjection, hkeys]
  simp only [ProjectionSnapshot.toDatum, projectionDatum, Datum.get_object_cons, String.reduceEq,
    if_true, if_false, Bool.not_true, Bool.false_eq_true, Datum.number?, Datum.string?,
    Datum.array?, Option.bind_eq_bind, Option.bind_some, hposture, hcoverage, hhost]
  rw [if_neg, dif_pos]
  · exact ⟨trivial, projection.posture_nodup, projection.coverage_ne, projection.coverage_nodup,
      projection.risk_count, projection.warning_count, projection.duration_count,
      projection.request_count⟩
  · simp [Datum.hasExactKeys_object]
    omega

/-! ### What the view says of its argument -/

theorem snapshotAccess_eq_some {value : Datum} {access : GuestResultAccess}
    (h : snapshotAccess value = some access) :
    (value.get "guest_scan_id").string? = some access.guestScanId ∧
      (value.get "result_access_expires_at_unix_seconds").bigint? =
        some (access.resultAccessExpiresAt : Int) ∧
      (value.get "result_token_expires_in_seconds").whole? =
        some (access.resultTokenExpiresIn : Int) := by
  rw [snapshotAccess] at h
  split at h
  · cases h
  · simp only [Option.bind_eq_bind, Option.bind_eq_some_iff] at h
    obtain ⟨id, hid, expires, hexpires, remaining, hremaining, _, -, _, -, hguard⟩ := h
    split at hguard
    · rename_i hchecks
      cases hguard
      refine ⟨hid, hexpires.trans ?_, hremaining.trans ?_⟩
      · rw [Int.toNat_of_nonneg (by omega)]
      · rw [Int.toNat_of_nonneg (by omega)]
    · cases hguard

/-- A view is the body of an access, a moment and a projection that passed their checks. -/
theorem createGuestResultView_eq_some {node : NodeRuntime} {value : Datum} {view : GuestResultView}
    (h : createGuestResultView node value = some view) :
    ∃ (access : GuestResultAccess) (completed : Nat) (projection : ProjectionSnapshot node),
      snapshotAccess (value.get "access") = some access ∧
      (value.get "completed_at_unix_seconds").bigint? = some (completed : Int) ∧
      snapshotSanitizedGuestProjection node (value.get "projection") = some projection ∧
      completed ≤ maxUnixSecondsForIso ∧
      completed + access.resultTokenExpiresIn ≤ access.resultAccessExpiresAt ∧
      view = guestResultBody access completed projection := by
  rw [createGuestResultView] at h
  split at h
  · cases h
  · simp only [Option.bind_eq_bind, Option.bind_eq_some_iff] at h
    obtain ⟨access, haccess, projection, hprojection, completed, hcompleted, hguard⟩ := h
    split at hguard
    · cases hguard
    · rename_i hrange
      split at hguard
      · cases hguard
      · rename_i hlate
        simp only [Bool.or_eq_true, decide_eq_true_eq, not_or, Int.not_lt] at hrange
        refine ⟨access, completed.toNat, projection, haccess, ?_, hprojection, ?_, ?_, ?_⟩
        · rw [hcompleted, Int.toNat_of_nonneg hrange.1]
        · omega
        · omega
        · exact (Option.some.inj hguard).symm

theorem createGuestResultView_viewInput {node : NodeRuntime} (access : GuestResultAccess)
    {completed : Nat} (projection : ProjectionSnapshot node)
    (h : completed + access.resultTokenExpiresIn ≤ access.resultAccessExpiresAt) :
    createGuestResultView node (viewInput access.guestScanId access.resultAccessExpiresAt
        access.resultTokenExpiresIn completed projection.toDatum) =
      some (guestResultBody access completed projection) := by
  have hexpires := access.expires_le
  have hheaders : guestResultSecurityHeaders.hasExactKeys ["cache-control", "referrer-policy"] =
      true := by
    simp [guestResultSecurityHeaders, Datum.hasExactKeys_object]
  have haccess : snapshotAccess ((viewInput access.guestScanId access.resultAccessExpiresAt
      access.resultTokenExpiresIn completed projection.toDatum).get "access") = some access := by
    simp only [viewInput, Datum.get_object_cons, if_true]
    rw [snapshotAccess, if_neg (by simp [Datum.hasExactKeys_object, accessKeys])]
    simp only [Datum.get_object_cons, String.reduceEq, if_true, if_false, Datum.string?,
      Datum.bigint?, Datum.whole?, Option.bind_eq_bind, Option.bind_some, hheaders]
    simp only [guestResultSecurityHeaders, Datum.get_object_cons, String.reduceEq, if_true,
      if_false, Option.bind_some]
    have hremaining := access.remaining_le
    have hpos := access.remaining_pos
    have hexpos := access.expires_pos
    rw [dif_pos ⟨access.id_valid, by omega, by omega, by omega, by omega, trivial, trivial, trivial⟩]
    rfl
  rw [createGuestResultView, if_neg (by simp [viewInput, Datum.hasExactKeys_object]), haccess]
  simp only [viewInput, Datum.get_object_cons, String.reduceEq, if_true, if_false, Datum.bigint?,
    snapshotSanitizedGuestProjection_toDatum, Option.bind_eq_bind, Option.bind_some]
  rw [if_neg, if_neg, Int.toNat_natCast]
  · omega
  · simp only [Bool.or_eq_true, decide_eq_true_eq, not_or, Int.not_lt]
    omega
end Outscan

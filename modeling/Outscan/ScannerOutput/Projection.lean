import Mathlib.Algebra.Ring.Nat
import Mathlib.Data.List.Nodup
import Mathlib.Data.List.Perm.Subperm
import Outscan.Basic

/-! The sanitized projection of a scanner result, as the result table keeps it. -/
namespace Outscan

inductive GuestPostureCheck where
  | dnsAaaaPresent | dnsDnssec | dnsCaa | mailSpf | mailDmarc | mailMtaSts | mailTlsRpt
  | tlsCertificate | httpHsts | httpCsp | httpXContentTypeOptions | httpFrameProtection
  | httpReferrerPolicy | httpPermissionsPolicy | httpProtocol | infraRpki | securityTxt
deriving DecidableEq, Repr

inductive GuestCoverageGroup where
  | targetResolution | dnsDomainPosture | tlsCertificatePosture | httpSecurityPosture
  | mailSecurityPosture | publicInfrastructure | rdapEnrichment | ctEnrichment
deriving DecidableEq, Repr

inductive PostureOutcome where
  | pass | attention | unknown | notApplicable
deriving DecidableEq, Repr

inductive ExecutionStatus where
  | success | failed | timedOut | cancelled | superseded
deriving DecidableEq, Repr

inductive Completeness where
  | complete | partially | notApplicable | unknown
deriving DecidableEq, Repr

def GuestPostureCheck.text : GuestPostureCheck → String
  | .dnsAaaaPresent => "DNS_AAAA_PRESENT"
  | .dnsDnssec => "DNS_DNSSEC"
  | .dnsCaa => "DNS_CAA"
  | .mailSpf => "MAIL_SPF"
  | .mailDmarc => "MAIL_DMARC"
  | .mailMtaSts => "MAIL_MTA_STS"
  | .mailTlsRpt => "MAIL_TLS_RPT"
  | .tlsCertificate => "TLS_CERTIFICATE"
  | .httpHsts => "HTTP_HSTS"
  | .httpCsp => "HTTP_CSP"
  | .httpXContentTypeOptions => "HTTP_X_CONTENT_TYPE_OPTIONS"
  | .httpFrameProtection => "HTTP_FRAME_PROTECTION"
  | .httpReferrerPolicy => "HTTP_REFERRER_POLICY"
  | .httpPermissionsPolicy => "HTTP_PERMISSIONS_POLICY"
  | .httpProtocol => "HTTP_PROTOCOL"
  | .infraRpki => "INFRA_RPKI"
  | .securityTxt => "SECURITY_TXT"

def GuestCoverageGroup.text : GuestCoverageGroup → String
  | .targetResolution => "TARGET_RESOLUTION"
  | .dnsDomainPosture => "DNS_DOMAIN_POSTURE"
  | .tlsCertificatePosture => "TLS_CERTIFICATE_POSTURE"
  | .httpSecurityPosture => "HTTP_SECURITY_POSTURE"
  | .mailSecurityPosture => "MAIL_SECURITY_POSTURE"
  | .publicInfrastructure => "PUBLIC_INFRASTRUCTURE"
  | .rdapEnrichment => "RDAP_ENRICHMENT"
  | .ctEnrichment => "CT_ENRICHMENT"

def PostureOutcome.text : PostureOutcome → String
  | .pass => "PASS"
  | .attention => "ATTENTION"
  | .unknown => "UNKNOWN"
  | .notApplicable => "NOT_APPLICABLE"

def ExecutionStatus.text : ExecutionStatus → String
  | .success => "SUCCESS"
  | .failed => "FAILED"
  | .timedOut => "TIMED_OUT"
  | .cancelled => "CANCELLED"
  | .superseded => "SUPERSEDED"

def Completeness.text : Completeness → String
  | .complete => "COMPLETE"
  | .partially => "PARTIAL"
  | .notApplicable => "NOT_APPLICABLE"
  | .unknown => "UNKNOWN"

structure GuestPostureObservation where
  checkId : GuestPostureCheck
  outcome : PostureOutcome
deriving DecidableEq, Repr

structure GuestCoverageProjection where
  detectorGroup : GuestCoverageGroup
  executionStatus : ExecutionStatus
  completeness : Completeness
deriving DecidableEq, Repr

/-- What `projectGuestScannerOutput` lets through: no check and no group twice,
and every number inside its bound. `schema_version` is 1 and `policy_version`
is 1.0.0 throughout. -/
structure SanitizedGuestProjection where
  canonicalHost : String
  posture : List GuestPostureObservation
  potentialRiskCount : Nat
  coverage : List GuestCoverageProjection
  warningCount : Nat
  durationMs : Nat
  requestCount : Nat
  posture_nodup : (posture.map (·.checkId)).Nodup
  risk_le : potentialRiskCount ≤ 256
  coverage_nodup : (coverage.map (·.detectorGroup)).Nodup
  warning_le : warningCount ≤ 32
  duration_le : durationMs ≤ 30000
  request_le : requestCount ≤ 40
deriving DecidableEq

/-! ### The text `projection::text` of the stored `jsonb`

`jsonb` prints keys by length, then by bytes, with one blank after each colon
and comma. A canonical host holds no character that JSON escapes. -/

def jsonList (items : List String) : String :=
  "[" ++ String.join (items.intersperse ", ") ++ "]"

def GuestPostureObservation.jsonbText (item : GuestPostureObservation) : String :=
  String.join ["\x7b\"outcome\": \"", item.outcome.text, "\", \"check_id\": \"",
    item.checkId.text, "\"\x7d"]

def GuestCoverageProjection.jsonbText (item : GuestCoverageProjection) : String :=
  String.join ["\x7b\"completeness\": \"", item.completeness.text,
    "\", \"detector_group\": \"", item.detectorGroup.text,
    "\", \"execution_status\": \"", item.executionStatus.text, "\"\x7d"]

def SanitizedGuestProjection.jsonbText (projection : SanitizedGuestProjection) : String :=
  String.join
    ["\x7b\"posture\": ", jsonList (projection.posture.map (·.jsonbText)),
      ", \"coverage\": ", jsonList (projection.coverage.map (·.jsonbText)),
      ", \"execution\": \x7b\"duration_ms\": ", toString projection.durationMs,
      ", \"request_count\": ", toString projection.requestCount,
      ", \"policy_version\": \"1.0.0\"\x7d, \"warning_count\": ",
      toString projection.warningCount, ", \"canonical_host\": \"",
      projection.canonicalHost, "\", \"schema_version\": 1, \"potential_risk_count\": ",
      toString projection.potentialRiskCount, "\x7d"]

/-! ### The size of that text -/

theorem utf8ByteSize_join (texts : List String) :
    (String.join texts).utf8ByteSize = (texts.map String.utf8ByteSize).sum := by
  have hfold : ∀ start : String, (texts.foldl (fun r s => r ++ s) start).utf8ByteSize =
      start.utf8ByteSize + (texts.map String.utf8ByteSize).sum := by
    induction texts with
    | nil => intro start; rfl
    | cons text rest ih =>
      intro start
      rw [List.foldl_cons, ih, String.utf8ByteSize_append, List.map_cons, List.sum_cons]
      omega
  have hempty := hfold ""
  rw [String.utf8ByteSize_empty, Nat.zero_add] at hempty
  exact hempty

theorem jsonList_size (items : List String) {bound : Nat}
    (h : ∀ item ∈ items, item.utf8ByteSize ≤ bound) :
    (jsonList items).utf8ByteSize ≤ 2 + items.length * (bound + 2) := by
  have hjoin : (String.join (items.intersperse ", ")).utf8ByteSize ≤
      items.length * (bound + 2) := by
    rw [utf8ByteSize_join]
    induction items with
    | nil => exact Nat.zero_le _
    | cons item rest ih =>
      have hitem := h item (List.mem_cons_self ..)
      have hrest := ih fun other hother => h other (List.mem_cons_of_mem _ hother)
      cases rest with
      | nil =>
        simp only [List.intersperse_singleton, List.map_cons, List.map_nil, List.sum_cons,
          List.sum_nil, List.length_singleton]
        omega
      | cons next others =>
        have hcomma : (", " : String).utf8ByteSize = 2 := by decide
        rw [List.intersperse_cons_cons, List.map_cons, List.map_cons, List.sum_cons, List.sum_cons,
          hcomma, List.length_cons, Nat.succ_mul]
        omega
  have hopen : ("[" : String).utf8ByteSize = 1 := by decide
  have hclose : ("]" : String).utf8ByteSize = 1 := by decide
  unfold jsonList
  rw [String.utf8ByteSize_append, String.utf8ByteSize_append, hopen, hclose]
  omega

theorem posture_length_le (projection : SanitizedGuestProjection) :
    projection.posture.length ≤ 17 := by
  have hsubset : projection.posture.map (·.checkId) ⊆
      [.dnsAaaaPresent, .dnsDnssec, .dnsCaa, .mailSpf, .mailDmarc, .mailMtaSts, .mailTlsRpt,
        .tlsCertificate, .httpHsts, .httpCsp, .httpXContentTypeOptions, .httpFrameProtection,
        .httpReferrerPolicy, .httpPermissionsPolicy, .httpProtocol, .infraRpki, .securityTxt] := by
    intro check _
    cases check <;> decide
  have hlength := (List.subperm_of_subset projection.posture_nodup hsubset).length_le
  rwa [List.length_map] at hlength

theorem coverage_length_le (projection : SanitizedGuestProjection) :
    projection.coverage.length ≤ 8 := by
  have hsubset : projection.coverage.map (·.detectorGroup) ⊆
      [.targetResolution, .dnsDomainPosture, .tlsCertificatePosture, .httpSecurityPosture,
        .mailSecurityPosture, .publicInfrastructure, .rdapEnrichment, .ctEnrichment] := by
    intro group _
    cases group <;> decide
  have hlength := (List.subperm_of_subset projection.coverage_nodup hsubset).length_le
  rwa [List.length_map] at hlength

theorem inventory_size (check : GuestPostureCheck) (group : GuestCoverageGroup)
    (outcome : PostureOutcome) (status : ExecutionStatus) (completeness : Completeness) :
    check.text.utf8ByteSize ≤ 30 ∧ group.text.utf8ByteSize ≤ 30 ∧
      outcome.text.utf8ByteSize ≤ 30 ∧ status.text.utf8ByteSize ≤ 30 ∧
      completeness.text.utf8ByteSize ≤ 30 :=
  ⟨by cases check <;> decide, by cases group <;> decide, by cases outcome <;> decide,
    by cases status <;> decide, by cases completeness <;> decide⟩

theorem toString_size {n : Nat} (h : n ≤ 99999) : (toString n).utf8ByteSize ≤ 20 := by
  have hlength : n.repr.length ≤ 5 := (Nat.length_repr_le_iff (by decide)).mpr (by omega)
  have hsize := utf8ByteSize_le n.repr
  rw [String.length_toList] at hsize
  change n.repr.utf8ByteSize ≤ 20
  omega

theorem GuestPostureObservation.jsonbText_size (item : GuestPostureObservation) :
    item.jsonbText.utf8ByteSize ≤ 200 := by
  obtain ⟨hcheck, -, houtcome, -⟩ :=
    inventory_size item.checkId .ctEnrichment item.outcome .success .complete
  unfold GuestPostureObservation.jsonbText
  rw [utf8ByteSize_join]
  have hfirst : ("\x7b\"outcome\": \"" : String).utf8ByteSize = 13 := by decide
  have hsecond : ("\", \"check_id\": \"" : String).utf8ByteSize = 16 := by decide
  have hlast : ("\"\x7d" : String).utf8ByteSize = 2 := by decide
  simp only [List.map_cons, List.map_nil, List.sum_cons, List.sum_nil, hfirst, hsecond, hlast]
  omega

theorem GuestCoverageProjection.jsonbText_size (item : GuestCoverageProjection) :
    item.jsonbText.utf8ByteSize ≤ 200 := by
  obtain ⟨-, hgroup, -, hstatus, hcompleteness⟩ :=
    inventory_size .dnsCaa item.detectorGroup .pass item.executionStatus item.completeness
  unfold GuestCoverageProjection.jsonbText
  rw [utf8ByteSize_join]
  have hfirst : ("\x7b\"completeness\": \"" : String).utf8ByteSize = 18 := by decide
  have hsecond : ("\", \"detector_group\": \"" : String).utf8ByteSize = 22 := by decide
  have hthird : ("\", \"execution_status\": \"" : String).utf8ByteSize = 24 := by decide
  have hlast : ("\"\x7d" : String).utf8ByteSize = 2 := by decide
  simp only [List.map_cons, List.map_nil, List.sum_cons, List.sum_nil, hfirst, hsecond, hthird,
    hlast]
  omega

theorem SanitizedGuestProjection.jsonbText_size (projection : SanitizedGuestProjection)
    (hhost : projection.canonicalHost.length ≤ 253) :
    projection.jsonbText.utf8ByteSize ≤ 262144 := by
  have hposture : (jsonList (projection.posture.map (·.jsonbText))).utf8ByteSize ≤
      2 + 17 * (200 + 2) := by
    have hsize := jsonList_size (projection.posture.map (·.jsonbText)) fun text htext => by
      obtain ⟨item, -, rfl⟩ := List.mem_map.mp htext
      exact item.jsonbText_size
    have hlength := posture_length_le projection
    rw [List.length_map] at hsize
    omega
  have hcoverage : (jsonList (projection.coverage.map (·.jsonbText))).utf8ByteSize ≤
      2 + 8 * (200 + 2) := by
    have hsize := jsonList_size (projection.coverage.map (·.jsonbText)) fun text htext => by
      obtain ⟨item, -, rfl⟩ := List.mem_map.mp htext
      exact item.jsonbText_size
    have hlength := coverage_length_le projection
    rw [List.length_map] at hsize
    omega
  have hhostSize := utf8ByteSize_le projection.canonicalHost
  rw [String.length_toList] at hhostSize
  have hduration := toString_size (n := projection.durationMs) (by have := projection.duration_le; omega)
  have hrequest := toString_size (n := projection.requestCount) (by have := projection.request_le; omega)
  have hwarning := toString_size (n := projection.warningCount) (by have := projection.warning_le; omega)
  have hrisk := toString_size (n := projection.potentialRiskCount) (by have := projection.risk_le; omega)
  unfold SanitizedGuestProjection.jsonbText
  rw [utf8ByteSize_join]
  have h₁ : ("\x7b\"posture\": " : String).utf8ByteSize = 12 := by decide
  have h₂ : (", \"coverage\": " : String).utf8ByteSize = 14 := by decide
  have h₃ : (", \"execution\": \x7b\"duration_ms\": " : String).utf8ByteSize = 31 := by decide
  have h₄ : (", \"request_count\": " : String).utf8ByteSize = 19 := by decide
  have h₅ : (", \"policy_version\": \"1.0.0\"\x7d, \"warning_count\": " : String).utf8ByteSize =
      47 := by decide
  have h₆ : (", \"canonical_host\": \"" : String).utf8ByteSize = 21 := by decide
  have h₇ : ("\", \"schema_version\": 1, \"potential_risk_count\": " : String).utf8ByteSize = 48 := by
    decide
  have h₈ : ("\x7d" : String).utf8ByteSize = 1 := by decide
  simp only [List.map_cons, List.map_nil, List.sum_cons, List.sum_nil, h₁, h₂, h₃, h₄, h₅, h₆, h₇,
    h₈]
  omega

end Outscan

import Outscan.Basic
import Outscan.Library.Record

/-! The scanner policy: profiles, capabilities and budgets, and the decision on a
request to execute. -/
namespace Outscan

inductive Capability where
  | dnsRead | rdapRead | passiveCtRead | tlsHandshake | httpGetHead | sameHostRedirect
  | httpHeaderObserve | techFingerprintSafe | nucleiSafeHttp | boundedSameOriginCrawl
  | headlessBrowser | httpStateChange | authenticatedRequest | oobCallback | javascriptTemplate
  | codeExecution | fuzzing | bruteForce | rawTcp | portEnumeration | payloadGeneration
  | destructive | unknown
deriving DecidableEq, Repr

def capabilities : List (String × Capability) :=
  [("DNS_READ", .dnsRead), ("RDAP_READ", .rdapRead), ("PASSIVE_CT_READ", .passiveCtRead),
    ("TLS_HANDSHAKE", .tlsHandshake), ("HTTP_GET_HEAD", .httpGetHead),
    ("SAME_HOST_REDIRECT", .sameHostRedirect), ("HTTP_HEADER_OBSERVE", .httpHeaderObserve),
    ("TECH_FINGERPRINT_SAFE", .techFingerprintSafe), ("NUCLEI_SAFE_HTTP", .nucleiSafeHttp),
    ("BOUNDED_SAME_ORIGIN_CRAWL", .boundedSameOriginCrawl), ("HEADLESS_BROWSER", .headlessBrowser),
    ("HTTP_STATE_CHANGE", .httpStateChange), ("AUTHENTICATED_REQUEST", .authenticatedRequest),
    ("OOB_CALLBACK", .oobCallback), ("JAVASCRIPT_TEMPLATE", .javascriptTemplate),
    ("CODE_EXECUTION", .codeExecution), ("FUZZING", .fuzzing), ("BRUTE_FORCE", .bruteForce),
    ("RAW_TCP", .rawTcp), ("PORT_ENUMERATION", .portEnumeration),
    ("PAYLOAD_GENERATION", .payloadGeneration), ("DESTRUCTIVE", .destructive),
    ("UNKNOWN", .unknown)]

inductive Profile where
  | guestSafe | verifiedBaseline | controlledDeep | active
deriving DecidableEq, Repr

def profiles : List (String × Profile) :=
  [("GUEST_SAFE", .guestSafe), ("VERIFIED_BASELINE", .verifiedBaseline),
    ("CONTROLLED_DEEP", .controlledDeep), ("ACTIVE", .active)]

structure ScannerBudgets where
  hardDurationSeconds : Nat
  maxRequests : Nat
  maxConcurrency : Nat
  maxRedirects : Nat
  maxResponseBytes : Nat
  maxTotalResponseBytes : Nat
  maxOutputBytes : Nat
  maxCrawlUrls : Nat
deriving DecidableEq, Repr

def budgetKeys : List String :=
  ["hard_duration_seconds", "max_requests", "max_concurrency", "max_redirects",
    "max_response_bytes", "max_total_response_bytes", "max_output_bytes", "max_crawl_urls"]

/-- `BUDGET_CEILINGS`; `ACTIVE` is never executed and has none. -/
def budgetCeilings : Profile → ScannerBudgets
  | .guestSafe =>
    { hardDurationSeconds := 30, maxRequests := 40, maxConcurrency := 4, maxRedirects := 5,
      maxResponseBytes := 1048576, maxTotalResponseBytes := 8388608, maxOutputBytes := 2097152,
      maxCrawlUrls := 0 }
  | .verifiedBaseline =>
    { hardDurationSeconds := 120, maxRequests := 300, maxConcurrency := 8, maxRedirects := 5,
      maxResponseBytes := 2097152, maxTotalResponseBytes := 67108864, maxOutputBytes := 12582912,
      maxCrawlUrls := 100 }
  | .controlledDeep =>
    { hardDurationSeconds := 300, maxRequests := 1200, maxConcurrency := 10, maxRedirects := 5,
      maxResponseBytes := 2097152, maxTotalResponseBytes := 201326592,
      maxOutputBytes := 33554432, maxCrawlUrls := 500 }
  | .active =>
    { hardDurationSeconds := 0, maxRequests := 0, maxConcurrency := 0, maxRedirects := 0,
      maxResponseBytes := 0, maxTotalResponseBytes := 0, maxOutputBytes := 0, maxCrawlUrls := 0 }

structure ScannerBudgets.Within (budgets ceiling : ScannerBudgets) : Prop where
  duration : budgets.hardDurationSeconds ≤ ceiling.hardDurationSeconds
  requests : budgets.maxRequests ≤ ceiling.maxRequests
  concurrency : budgets.maxConcurrency ≤ ceiling.maxConcurrency
  redirects : budgets.maxRedirects ≤ ceiling.maxRedirects
  response : budgets.maxResponseBytes ≤ ceiling.maxResponseBytes
  totalResponse : budgets.maxTotalResponseBytes ≤ ceiling.maxTotalResponseBytes
  output : budgets.maxOutputBytes ≤ ceiling.maxOutputBytes
  crawlUrls : budgets.maxCrawlUrls ≤ ceiling.maxCrawlUrls

instance (budgets ceiling : ScannerBudgets) : Decidable (budgets.Within ceiling) :=
  decidable_of_iff
    (budgets.hardDurationSeconds ≤ ceiling.hardDurationSeconds ∧
      budgets.maxRequests ≤ ceiling.maxRequests ∧ budgets.maxConcurrency ≤ ceiling.maxConcurrency ∧
      budgets.maxRedirects ≤ ceiling.maxRedirects ∧
      budgets.maxResponseBytes ≤ ceiling.maxResponseBytes ∧
      budgets.maxTotalResponseBytes ≤ ceiling.maxTotalResponseBytes ∧
      budgets.maxOutputBytes ≤ ceiling.maxOutputBytes ∧ budgets.maxCrawlUrls ≤ ceiling.maxCrawlUrls)
    ⟨fun ⟨h₁, h₂, h₃, h₄, h₅, h₆, h₇, h₈⟩ => ⟨h₁, h₂, h₃, h₄, h₅, h₆, h₇, h₈⟩,
      fun ⟨h₁, h₂, h₃, h₄, h₅, h₆, h₇, h₈⟩ => ⟨h₁, h₂, h₃, h₄, h₅, h₆, h₇, h₈⟩⟩

def baselineCapabilities : List Capability :=
  [.dnsRead, .rdapRead, .passiveCtRead, .tlsHandshake, .httpGetHead, .sameHostRedirect,
    .httpHeaderObserve, .techFingerprintSafe]

def verifiedCapabilities : List Capability :=
  baselineCapabilities ++ [.nucleiSafeHttp, .boundedSameOriginCrawl]

def allowedCapabilities : Profile → List Capability
  | .guestSafe => baselineCapabilities
  | .verifiedBaseline => verifiedCapabilities
  | .controlledDeep => verifiedCapabilities
  | .active => []

/-- A request that was allowed; `schema_version` is 1, `policy_id` is `outscan-v1` and
`policy_version` is 1.0.0 throughout. -/
structure ScannerExecutionRequest where
  profile : Profile
  requestedCapabilities : List Capability
  budgets : ScannerBudgets
  profile_ne_active : profile ≠ .active
  capabilities_allowed : ∀ c ∈ requestedCapabilities, c ∈ allowedCapabilities profile
  capabilities_nodup : requestedCapabilities.Nodup
  budgets_within : budgets.Within (budgetCeilings profile)
deriving DecidableEq

inductive PolicyDenyCode where
  | invalidRequest | policyIdentityMismatch | profileDisabled | unknownCapability
  | capabilityDenied | budgetExceeded
deriving DecidableEq, Repr

inductive PolicyDecision where
  | allowed (request : ScannerExecutionRequest)
  | denied (code : PolicyDenyCode) (message : String)
deriving DecidableEq

inductive PolicyField where
  | scalar (value : Dynamic.Scalar)
  | array (items : List Dynamic.Scalar)
  | record (value : Dynamic.Record Dynamic.Scalar)

def stringItems : List Dynamic.Scalar → Option (List String)
  | [] => some []
  | .string item :: rest => (stringItems rest).map (item :: ·)
  | _ :: _ => none

def parseCapabilities (value : PolicyField) :
    Except (PolicyDenyCode × String) (List Capability) :=
  match value with
  | .array items =>
    match stringItems items with
    | none => .error (.invalidRequest, "Capability list must contain strings.")
    | some snapshot =>
      if ¬ snapshot.Nodup then .error (.invalidRequest, "Capability list contains duplicates.")
      else
        match snapshot.mapM (capabilities.lookup ·) with
        | none => .error (.unknownCapability, "Unknown capability is denied.")
        | some parsed => .ok parsed
  | _ => .error (.invalidRequest, "Capability list must contain strings.")

def budgetOf : Dynamic.Scalar → Option Nat
  | .number (some value) =>
    if 0 ≤ value ∧ value ≤ (maxSafeInteger : Int) then some value.toNat else none
  | _ => none

def parseBudgets (value : PolicyField) : Except (PolicyDenyCode × String) ScannerBudgets :=
  match value with
  | .record record =>
    if !record.hasExactKeys budgetKeys then
      .error (.invalidRequest, "Budget object must use the V1 fields only.")
    else
      let budget (key : String) := budgetOf (record.get .other key)
      match budget "hard_duration_seconds", budget "max_requests", budget "max_concurrency",
        budget "max_redirects", budget "max_response_bytes", budget "max_total_response_bytes",
        budget "max_output_bytes", budget "max_crawl_urls" with
      | some hardDurationSeconds, some maxRequests, some maxConcurrency, some maxRedirects,
        some maxResponseBytes, some maxTotalResponseBytes, some maxOutputBytes, some maxCrawlUrls =>
        .ok { hardDurationSeconds, maxRequests, maxConcurrency, maxRedirects, maxResponseBytes,
              maxTotalResponseBytes, maxOutputBytes, maxCrawlUrls }
      | _, _, _, _, _, _, _, _ =>
        .error (.invalidRequest, "Budget values must be non-negative integers.")
  | _ => .error (.invalidRequest, "Budget object must use the V1 fields only.")

/-- `REQUEST_KEYS` of an execution request. -/
def executionKeys : List String :=
  ["schema_version", "policy_id", "policy_version", "profile", "requested_capabilities", "budgets"]

def PolicyField.isNumber (field : PolicyField) (number : Int) : Bool :=
  match field with
  | .scalar (.number (some value)) => value == number
  | _ => false

def PolicyField.isText (field : PolicyField) (text : String) : Bool :=
  match field with
  | .scalar (.string value) => value == text
  | _ => false

def PolicyField.profile? : PolicyField → Option Profile
  | .scalar (.string value) => profiles.lookup value
  | _ => none

theorem mem_of_lookup {α : Type} {fields : List (String × α)} {key : String} {value : α}
    (h : fields.lookup key = some value) : (key, value) ∈ fields := by
  induction fields with
  | nil => cases h
  | cons field rest ih =>
    obtain ⟨name, first⟩ := field
    rw [List.lookup_cons] at h
    split at h
    · rename_i hkey
      cases h
      rw [beq_iff_eq.mp hkey]
      exact List.mem_cons_self ..
    · exact List.mem_cons_of_mem _ (ih h)

theorem capabilities_text_unique :
    ∀ first ∈ capabilities, ∀ second ∈ capabilities, first.2 = second.2 → first.1 = second.1 := by
  decide

theorem capability_of_mem {texts : List String} {parsed : List Capability}
    (h : texts.mapM (capabilities.lookup ·) = some parsed) {capability : Capability}
    (hmem : capability ∈ parsed) : ∃ text ∈ texts, capabilities.lookup text = some capability := by
  induction texts generalizing parsed with
  | nil =>
    cases h
    cases hmem
  | cons text rest ih =>
    rw [List.mapM_cons] at h
    obtain ⟨first, hfirst, h⟩ := Option.bind_eq_some_iff.mp h
    obtain ⟨others, hothers, h⟩ := Option.bind_eq_some_iff.mp h
    cases h
    rcases List.mem_cons.mp hmem with rfl | hrest
    · exact ⟨text, List.mem_cons_self .., hfirst⟩
    · obtain ⟨other, hother, hlookup⟩ := ih hothers hrest
      exact ⟨other, List.mem_cons_of_mem _ hother, hlookup⟩

theorem nodup_of_mapM_lookup {texts : List String} {parsed : List Capability}
    (hnodup : texts.Nodup) (h : texts.mapM (capabilities.lookup ·) = some parsed) :
    parsed.Nodup := by
  induction texts generalizing parsed with
  | nil =>
    cases h
    exact List.nodup_nil
  | cons text rest ih =>
    rw [List.mapM_cons] at h
    obtain ⟨first, hfirst, h⟩ := Option.bind_eq_some_iff.mp h
    obtain ⟨others, hothers, h⟩ := Option.bind_eq_some_iff.mp h
    cases h
    rw [List.nodup_cons] at hnodup
    refine List.nodup_cons.mpr ⟨fun hmem => ?_, ih hnodup.2 hothers⟩
    obtain ⟨other, hother, hlookup⟩ := capability_of_mem hothers hmem
    have hsame : text = other :=
      capabilities_text_unique _ (mem_of_lookup hfirst) _ (mem_of_lookup hlookup) rfl
    exact hnodup.1 (hsame ▸ hother)

theorem parseCapabilities_nodup {value : PolicyField} {parsed : List Capability}
    (h : parseCapabilities value = .ok parsed) : parsed.Nodup := by
  unfold parseCapabilities at h
  split at h
  · split at h
    · cases h
    · split at h
      · cases h
      · rename_i hnodup
        split at h
        · cases h
        · rename_i hparsed
          cases h
          exact nodup_of_mapM_lookup (not_not.mp hnodup) hparsed
  · cases h

def authorizeProfile (profile : Profile) (hprofile : profile ≠ .active)
    (requestedCapabilities budgets : PolicyField) : PolicyDecision :=
  match hcapabilities : parseCapabilities requestedCapabilities with
  | .error (code, message) => .denied code message
  | .ok parsed =>
    if hallowed : ∀ c ∈ parsed, c ∈ allowedCapabilities profile then
      match parseBudgets budgets with
      | .error (code, message) => .denied code message
      | .ok parsedBudgets =>
        if hwithin : parsedBudgets.Within (budgetCeilings profile) then
          .allowed {
            profile := profile
            requestedCapabilities := parsed
            budgets := parsedBudgets
            profile_ne_active := hprofile
            capabilities_allowed := hallowed
            capabilities_nodup := parseCapabilities_nodup hcapabilities
            budgets_within := hwithin }
        else .denied .budgetExceeded "Requested budget exceeds its V1 ceiling."
    else .denied .capabilityDenied "Requested capability is denied."

def authorizeScannerExecution (input : Dynamic.Value PolicyField) : PolicyDecision :=
  match input with
  | .other => .denied .invalidRequest "Execution request shape is invalid."
  | .record record =>
    if !record.hasExactKeys executionKeys then
      .denied .invalidRequest "Execution request shape is invalid."
    else
      let field := record.get (.scalar .other)
      if !(field "schema_version").isNumber 1 || !(field "policy_id").isText "outscan-v1" ||
          !(field "policy_version").isText "1.0.0" then
        .denied .policyIdentityMismatch "Policy identity is not current."
      else
        match (field "profile").profile? with
        | none => .denied .invalidRequest "Scanner profile is unknown."
        | some profile =>
          if hprofile : profile = .active then .denied .profileDisabled "ACTIVE is disabled in V1."
          else
            authorizeProfile profile hprofile (field "requested_capabilities") (field "budgets")

end Outscan

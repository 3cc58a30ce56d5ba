import Outscan.Library.Json.Objects
import Outscan.ScannerPolicy.Validate

/-! Execution requests as values and as JSON: an allowed request, handed over again, is
allowed again. -/
namespace Outscan

open Dynamic

/-! ### Values as the policy reads them -/

def scalarOf : Datum → Scalar
  | .number (.whole value) => .number (some value)
  | .number .negativeZero => .number (some 0)
  | .number (.other _) => .number none
  | .string value => .string value
  | .bytes value => .bytes value
  | _ => .other

def recordOf {α : Type} (read : Datum → α) : Datum → Option (Record α)
  | .record _ fields =>
    if h : (fields.map Prod.fst).Nodup then
      some ⟨fields.map fun field => (field.1, read field.2), by rwa [List.map_map]⟩
    else none
  | _ => none

def policyFieldOf (value : Datum) : PolicyField :=
  match value with
  | .array items => .array (items.map scalarOf)
  | value => (recordOf scalarOf value).elim (.scalar (scalarOf value)) .record

def policyOf (value : Datum) : Value PolicyField :=
  (recordOf policyFieldOf value).elim .other .record

theorem recordOf_object {α : Type} (read : Datum → α) {fields : List (String × Datum)}
    (h : (fields.map Prod.fst).Nodup) :
    recordOf read (.object fields) =
      some ⟨fields.map fun field => (field.1, read field.2), by rwa [List.map_map]⟩ :=
  dif_pos h

/-! ### Texts -/

def Capability.text : Capability → String
  | .dnsRead => "DNS_READ"
  | .rdapRead => "RDAP_READ"
  | .passiveCtRead => "PASSIVE_CT_READ"
  | .tlsHandshake => "TLS_HANDSHAKE"
  | .httpGetHead => "HTTP_GET_HEAD"
  | .sameHostRedirect => "SAME_HOST_REDIRECT"
  | .httpHeaderObserve => "HTTP_HEADER_OBSERVE"
  | .techFingerprintSafe => "TECH_FINGERPRINT_SAFE"
  | .nucleiSafeHttp => "NUCLEI_SAFE_HTTP"
  | .boundedSameOriginCrawl => "BOUNDED_SAME_ORIGIN_CRAWL"
  | .headlessBrowser => "HEADLESS_BROWSER"
  | .httpStateChange => "HTTP_STATE_CHANGE"
  | .authenticatedRequest => "AUTHENTICATED_REQUEST"
  | .oobCallback => "OOB_CALLBACK"
  | .javascriptTemplate => "JAVASCRIPT_TEMPLATE"
  | .codeExecution => "CODE_EXECUTION"
  | .fuzzing => "FUZZING"
  | .bruteForce => "BRUTE_FORCE"
  | .rawTcp => "RAW_TCP"
  | .portEnumeration => "PORT_ENUMERATION"
  | .payloadGeneration => "PAYLOAD_GENERATION"
  | .destructive => "DESTRUCTIVE"
  | .unknown => "UNKNOWN"

def Profile.text : Profile → String
  | .guestSafe => "GUEST_SAFE"
  | .verifiedBaseline => "VERIFIED_BASELINE"
  | .controlledDeep => "CONTROLLED_DEEP"
  | .active => "ACTIVE"

@[simp] theorem capabilities_lookup_text (capability : Capability) :
    capabilities.lookup capability.text = some capability := by
  cases capability <;> rfl

@[simp] theorem profiles_lookup_text (profile : Profile) :
    profiles.lookup profile.text = some profile := by
  cases profile <;> rfl

theorem Capability.text_injective : Function.Injective Capability.text := by
  intro first second h
  have hfirst := capabilities_lookup_text first
  rw [h, capabilities_lookup_text] at hfirst
  exact (Option.some.inj hfirst).symm

/-! ### Requests -/

/-- The budgets in the order of `BUDGET_KEYS`. -/
def ScannerBudgets.values (budgets : ScannerBudgets) : List (String × Nat) :=
  [("hard_duration_seconds", budgets.hardDurationSeconds), ("max_requests", budgets.maxRequests),
    ("max_concurrency", budgets.maxConcurrency), ("max_redirects", budgets.maxRedirects),
    ("max_response_bytes", budgets.maxResponseBytes),
    ("max_total_response_bytes", budgets.maxTotalResponseBytes),
    ("max_output_bytes", budgets.maxOutputBytes), ("max_crawl_urls", budgets.maxCrawlUrls)]

def ScannerBudgets.datum (budgets : ScannerBudgets) : Datum :=
  .object (budgets.values.map fun field => (field.1, .number (.whole field.2)))

def ScannerBudgets.json (budgets : ScannerBudgets) : Json.Value :=
  .object (Json.literal (budgets.values.map fun field => (field.1, .number (.natural field.2))))

def ScannerExecutionRequest.datum (request : ScannerExecutionRequest) : Datum :=
  .object [("schema_version", .number (.whole 1)), ("policy_id", .string "outscan-v1"),
    ("policy_version", .string "1.0.0"), ("profile", .string request.profile.text),
    ("requested_capabilities",
      .array (request.requestedCapabilities.map fun capability => .string capability.text)),
    ("budgets", request.budgets.datum)]

/-- What `JSON.stringify` makes of it. -/
def ScannerExecutionRequest.json (request : ScannerExecutionRequest) : Json.Value :=
  .object (Json.literal [("schema_version", .number (.natural 1)),
    ("policy_id", .string (Json.textOf "outscan-v1")),
    ("policy_version", .string (Json.textOf "1.0.0")),
    ("profile", .string (Json.textOf request.profile.text)),
    ("requested_capabilities", .array (request.requestedCapabilities.map fun capability =>
      .string (Json.textOf capability.text))),
    ("budgets", request.budgets.json)])

theorem ScannerBudgets.Within.small {budgets : ScannerBudgets} {profile : Profile}
    (h : budgets.Within (budgetCeilings profile)) : ∀ field ∈ budgets.values, field.2 < 2 ^ 53 := by
  obtain ⟨h₁, h₂, h₃, h₄, h₅, h₆, h₇, h₈⟩ := h
  have hceiling : ∀ field ∈ (budgetCeilings profile).values, field.2 < 2 ^ 53 := by
    cases profile <;> decide
  simp only [values, List.forall_mem_cons, List.not_mem_nil, false_imp_iff, implies_true,
    and_true] at hceiling ⊢
  obtain ⟨g₁, g₂, g₃, g₄, g₅, g₆, g₇, g₈⟩ := hceiling
  exact ⟨h₁.trans_lt g₁, h₂.trans_lt g₂, h₃.trans_lt g₃, h₄.trans_lt g₄, h₅.trans_lt g₅,
    h₆.trans_lt g₆, h₇.trans_lt g₇, h₈.trans_lt g₈⟩

theorem ScannerBudgets.keys_nodup (budgets : ScannerBudgets) :
    (budgets.values.map Prod.fst).Nodup := by
  change budgetKeys.Nodup
  decide

theorem ScannerBudgets.datum_json {budgets : ScannerBudgets}
    (h : ∀ field ∈ budgets.values, field.2 < 2 ^ 53) : budgets.json.datum = budgets.datum := by
  unfold json datum
  rw [Json.datum_literal (by rw [List.map_map]; exact budgets.keys_nodup), List.map_map]
  congr 1
  apply List.map_congr_left
  intro field hfield
  exact congrArg (Prod.mk field.1) (Json.datum_natural (h field hfield))

theorem executionKeys_nodup : executionKeys.Nodup := by decide

theorem ScannerExecutionRequest.datum_json (request : ScannerExecutionRequest) :
    request.json.datum = request.datum := by
  have hcapabilities : Json.Value.datum ∘ (fun capability : Capability =>
      Json.Value.string (Json.textOf capability.text)) =
        fun capability => Datum.string capability.text := by
    funext capability
    exact Json.datum_textOf _
  unfold json datum
  rw [Json.datum_literal]
  · simp only [List.map_cons, List.map_nil, Json.datum_textOf, Json.datum_array, List.map_map,
      ScannerBudgets.datum_json request.budgets_within.small,
      Json.datum_natural (show 1 < 2 ^ 53 by decide), hcapabilities]
    rfl
  · exact executionKeys_nodup

/-! ### Allowed again -/

theorem stringItems_texts (texts : List String) :
    stringItems (texts.map Scalar.string) = some texts := by
  induction texts with
  | nil => rfl
  | cons text rest ih => rw [List.map_cons, stringItems, ih, Option.map_some]

theorem mapM_lookup_texts (parsed : List Capability) :
    (parsed.map Capability.text).mapM (capabilities.lookup ·) = some parsed := by
  induction parsed with
  | nil => rfl
  | cons capability rest ih =>
    rw [List.map_cons, List.mapM_cons, capabilities_lookup_text, ih]
    rfl

theorem parseCapabilities_texts {parsed : List Capability} (h : parsed.Nodup) :
    parseCapabilities (.array ((parsed.map Capability.text).map Scalar.string)) = .ok parsed := by
  unfold parseCapabilities
  dsimp only
  rw [stringItems_texts]
  dsimp only
  rw [if_neg (not_not.mpr (h.map Capability.text_injective)), mapM_lookup_texts]

theorem budgetOf_natural {n : Nat} (h : n < 2 ^ 53) :
    budgetOf (.number (some (n : Int))) = some n := by
  have hle : (n : Int) ≤ (maxSafeInteger : Int) := by
    unfold maxSafeInteger
    omega
  rw [budgetOf, if_pos ⟨Int.natCast_nonneg n, hle⟩, Int.toNat_natCast]

def ScannerBudgets.record (budgets : ScannerBudgets) : Record Scalar :=
  ⟨budgets.values.map fun field => (field.1, .number (some (field.2 : Int))), by
    rw [List.map_map]
    exact budgets.keys_nodup⟩

theorem parseBudgets_record {budgets : ScannerBudgets}
    (h : ∀ field ∈ budgets.values, field.2 < 2 ^ 53) :
    parseBudgets (.record budgets.record) = .ok budgets := by
  have hkeys : budgets.record.hasExactKeys budgetKeys = true := rfl
  have hget : ∀ field ∈ budgets.values,
      budgetOf (budgets.record.get .other field.1) = some field.2 := by
    intro field hfield
    have hmem : (field.1, Scalar.number (some (field.2 : Int))) ∈ budgets.record.fields :=
      List.mem_map_of_mem (f := fun field : String × Nat =>
        (field.1, Scalar.number (some (field.2 : Int)))) hfield
    rw [Record.get_of_perm (List.Perm.refl _) Scalar.other hmem]
    exact budgetOf_natural (h field hfield)
  simp only [ScannerBudgets.values, List.forall_mem_cons, List.not_mem_nil, false_imp_iff,
    implies_true, and_true] at hget
  obtain ⟨h₁, h₂, h₃, h₄, h₅, h₆, h₇, h₈⟩ := hget
  simp only [parseBudgets, hkeys, Bool.not_true, Bool.false_eq_true, if_false, h₁, h₂, h₃, h₄, h₅,
    h₆, h₇, h₈]

theorem authorizeProfile_of (request : ScannerExecutionRequest)
    {requestedCapabilities budgets : PolicyField}
    (hcapabilities : parseCapabilities requestedCapabilities = .ok request.requestedCapabilities)
    (hbudgets : parseBudgets budgets = .ok request.budgets) :
    authorizeProfile request.profile request.profile_ne_active requestedCapabilities budgets =
      .allowed request := by
  unfold authorizeProfile
  split
  · rename_i code message herror
    rw [hcapabilities] at herror
    cases herror
  · rename_i parsed hparsed
    rw [hcapabilities] at hparsed
    cases hparsed
    rw [dif_pos request.capabilities_allowed, hbudgets]
    dsimp only
    rw [dif_pos request.budgets_within]

theorem policyFieldOf_budgets (budgets : ScannerBudgets) :
    policyFieldOf budgets.datum = .record budgets.record := by
  have hrecord : recordOf scalarOf budgets.datum = some budgets.record := by
    rw [ScannerBudgets.datum, recordOf_object _ (by rw [List.map_map]; exact budgets.keys_nodup)]
    congr 2
  have hfield : policyFieldOf budgets.datum =
      (recordOf scalarOf budgets.datum).elim (.scalar (scalarOf budgets.datum)) .record := rfl
  rw [hfield, hrecord, Option.elim_some]

theorem authorizeScannerExecution_of {record : Record PolicyField}
    {request : ScannerExecutionRequest} (hkeys : record.hasExactKeys executionKeys = true)
    (hversion : (record.get (.scalar .other) "schema_version").isNumber 1 = true)
    (hpolicy : (record.get (.scalar .other) "policy_id").isText "outscan-v1" = true)
    (hpolicyVersion : (record.get (.scalar .other) "policy_version").isText "1.0.0" = true)
    (hprofile : (record.get (.scalar .other) "profile").profile? = some request.profile)
    (hcapabilities : parseCapabilities (record.get (.scalar .other) "requested_capabilities") =
      .ok request.requestedCapabilities)
    (hbudgets : parseBudgets (record.get (.scalar .other) "budgets") = .ok request.budgets) :
    authorizeScannerExecution (.record record) = .allowed request := by
  unfold authorizeScannerExecution
  simp only [hkeys, hversion, hpolicy, hpolicyVersion, hprofile, Bool.not_true, Bool.or_self,
    Bool.false_eq_true, if_false, request.profile_ne_active, dite_false]
  exact authorizeProfile_of request hcapabilities hbudgets

theorem authorizeScannerExecution_datum (request : ScannerExecutionRequest) :
    authorizeScannerExecution (policyOf request.datum) = .allowed request := by
  have hvalue : policyOf request.datum = .record ⟨[("schema_version", .scalar (.number (some 1))),
      ("policy_id", .scalar (.string "outscan-v1")), ("policy_version", .scalar (.string "1.0.0")),
      ("profile", .scalar (.string request.profile.text)),
      ("requested_capabilities", .array
        ((request.requestedCapabilities.map Capability.text).map Scalar.string)),
      ("budgets", .record request.budgets.record)], executionKeys_nodup⟩ := by
    unfold policyOf ScannerExecutionRequest.datum
    rw [recordOf_object, Option.elim_some]
    · congr 2
      simp only [List.map_cons, List.map_nil, policyFieldOf_budgets]
      simp only [policyFieldOf, List.map_map]
      rfl
    · exact executionKeys_nodup
  rw [hvalue]
  exact authorizeScannerExecution_of rfl rfl rfl rfl (profiles_lookup_text _)
    (parseCapabilities_texts request.capabilities_nodup)
    (parseBudgets_record request.budgets_within.small)

end Outscan

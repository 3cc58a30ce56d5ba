import Mathlib.Data.String.Basic
import Outscan.Library.Json.Bytes
import Outscan.Library.Json.Objects
import Outscan.ResultEnvelope.Codec
import Outscan.ScannerOutput.Inventory
import Outscan.ScannerOutput.JsonKeys

/-! The envelope of a scanner output: what the strict parser lets through, and how it
is written. -/
namespace Outscan

open Json Dynamic

def maxObservations : Nat := 64
def maxFindings : Nat := 256
def maxCoverage : Nat := 16
def maxWarnings : Nat := 32
def maxEvidenceBytes : Nat := 4096

/-! ### Parts of an envelope -/

abbrev Observations :=
  { items : List GuestPostureObservation // (items.map (·.checkId)).Nodup }

abbrev Coverage :=
  { items : List GuestCoverageProjection // items ≠ [] ∧ (items.map (·.detectorGroup)).Nodup }

/-- A finding. `^sha256:[0-9a-f]{64}$` holds of its fingerprint by type; the evidence
is any text, a lone surrogate included. -/
structure GuestFinding where
  fingerprint : Bytes32
  severity : Severity
  confidence : Nat
  evidence : Text
  confidence_le : confidence ≤ 100
  evidence_le : (bytesOf evidence).length ≤ maxEvidenceBytes

abbrev Findings := { items : List GuestFinding // items.length ≤ maxFindings }

/-- The pattern `^[A-Z][A-Z0-9_]{0,63}$`. -/
def isMachineCode (code : String) : Bool :=
  match code.toList with
  | [] => false
  | head :: tail =>
    head.isUpper && tail.all (fun c => c.isUpper || c.isDigit || c == '_') &&
      decide (tail.length ≤ 63)

abbrev MachineCode := { code : String // isMachineCode code = true }

abbrev Warnings := { codes : List MachineCode // codes.length ≤ maxWarnings ∧ codes.Nodup }

/-- The metadata. They name schema 1, the profile `GUEST_SAFE` and policy `outscan-v1`
1.0.0 throughout. -/
structure ExecutionMetadata (node : NodeRuntime) where
  canonicalHost : String
  durationMs : Nat
  requestCount : Nat
  host_canonical : canonicalizeHostname node canonicalHost = .ok canonicalHost
  duration_le : durationMs ≤ 30000
  request_le : requestCount ≤ 40

/-- `ValidatedGuestEnvelope`. -/
structure GuestEnvelope (node : NodeRuntime) where
  observations : Observations
  findings : Findings
  coverage : Coverage
  metadata : ExecutionMetadata node
  warnings : Warnings

/-! ### The parser -/

def namedMember {α : Type} (inventory : List α) (text : α → String) (value : Json.Value) :
    Option α :=
  value.string?.bind (memberNamed inventory text)

def observationKeys : List String := ["check_id", "outcome"]

def observation? (entry : Json.Value) : Option GuestPostureObservation :=
  if !entry.hasExactKeys observationKeys then none
  else do
    let checkId ← namedMember guestPostureChecks GuestPostureCheck.text (← entry.get? "check_id")
    let outcome ← namedMember postureOutcomes PostureOutcome.text (← entry.get? "outcome")
    some { checkId, outcome }

/-- `parseObservations`, without the sort. -/
def parseObservations (value : Json.Value) : Option Observations := do
  let entries ← value.items?
  if entries.length > maxObservations then none
  else
    let items ← entries.mapM observation?
    if h : (items.map (·.checkId)).Nodup then some ⟨items, h⟩ else none

def coverageKeys : List String := ["detector_group", "execution_status", "completeness"]

def coverage? (entry : Json.Value) : Option GuestCoverageProjection :=
  if !entry.hasExactKeys coverageKeys then none
  else do
    let detectorGroup ←
      namedMember guestCoverageGroups GuestCoverageGroup.text (← entry.get? "detector_group")
    let executionStatus ←
      namedMember executionStatuses ExecutionStatus.text (← entry.get? "execution_status")
    let completeness ← namedMember completenesses Completeness.text (← entry.get? "completeness")
    some { detectorGroup, executionStatus, completeness }

/-- `parseCoverage`, without the sort. -/
def parseCoverage (value : Json.Value) : Option Coverage := do
  let entries ← value.items?
  if entries.length > maxCoverage then none
  else
    let items ← entries.mapM coverage?
    if h : items ≠ [] ∧ (items.map (·.detectorGroup)).Nodup then some ⟨items, h⟩ else none

def findingKeys : List String := ["fingerprint", "severity", "confidence", "evidence"]

def finding? (entry : Json.Value) : Option GuestFinding :=
  if !entry.hasExactKeys findingKeys then none
  else do
    let fingerprint ← (← entry.get? "fingerprint").string?.bind parseDigest
    let severity ← namedMember severities Severity.text (← entry.get? "severity")
    let confidence ← (← entry.get? "confidence").natural?
    let evidence ← (← entry.get? "evidence").units?
    if h : confidence ≤ 100 ∧ (bytesOf evidence).length ≤ maxEvidenceBytes then
      some { fingerprint, severity, confidence, evidence, confidence_le := h.1, evidence_le := h.2 }
    else none

/-- `findingCount`, with the findings themselves. -/
def parseFindings (value : Json.Value) : Option Findings := do
  let entries ← value.items?
  let items ← entries.mapM finding?
  if h : items.length ≤ maxFindings then some ⟨items, h⟩ else none

def warning? (entry : Json.Value) : Option MachineCode :=
  if !entry.hasExactKeys ["code"] then none
  else do
    let code ← (← entry.get? "code").string?
    if h : isMachineCode code = true then some ⟨code, h⟩ else none

/-- `warningCount`, with the codes themselves. -/
def parseWarnings (value : Json.Value) : Option Warnings := do
  let entries ← value.items?
  let codes ← entries.mapM warning?
  if h : codes.length ≤ maxWarnings ∧ codes.Nodup then some ⟨codes, h⟩ else none

def executionMetadataKeys : List String :=
  ["schema_version", "profile", "canonical_host", "policy_id", "policy_version", "duration_ms",
    "request_count"]

def parseMetadata (node : NodeRuntime) (metadata : Json.Value) :
    Option (ExecutionMetadata node) :=
  if !metadata.hasExactKeys executionMetadataKeys then none
  else do
    let canonicalHost ← (← metadata.get? "canonical_host").string?
    let schemaVersion ← (← metadata.get? "schema_version").natural?
    let profile ← (← metadata.get? "profile").string?
    let policyId ← (← metadata.get? "policy_id").string?
    let policyVersion ← (← metadata.get? "policy_version").string?
    let durationMs ← (← metadata.get? "duration_ms").natural?
    let requestCount ← (← metadata.get? "request_count").natural?
    if h : (schemaVersion = 1 ∧ profile = "GUEST_SAFE" ∧ policyId = "outscan-v1" ∧
          policyVersion = "1.0.0") ∧
        canonicalizeHostname node canonicalHost = .ok canonicalHost ∧ durationMs ≤ 30000 ∧
        requestCount ≤ 40 then
      some { canonicalHost, durationMs, requestCount, host_canonical := h.2.1,
             duration_le := h.2.2.1, request_le := h.2.2.2 }
    else none

def guestEnvelopeKeys : List String :=
  ["observations", "candidate_findings", "coverage", "execution_metadata", "warnings"]

def guestEnvelope? (node : NodeRuntime) (value : Json.Value) : Option (GuestEnvelope node) :=
  if !value.hasExactKeys guestEnvelopeKeys then none
  else do
    let observations ← parseObservations (← value.get? "observations")
    let findings ← parseFindings (← value.get? "candidate_findings")
    let coverage ← parseCoverage (← value.get? "coverage")
    let warnings ← parseWarnings (← value.get? "warnings")
    let metadata ← parseMetadata node (← value.get? "execution_metadata")
    some { observations, findings, coverage, metadata, warnings }

/-- `parseJsonBytes`, on bytes within the limit: no byte order mark, UTF-8, and no
name twice. -/
def parseJsonBytes (raw : List UInt8) : Option Json.Value :=
  if raw.take 3 = [0xef, 0xbb, 0xbf] then none
  else
    (textOfBytes raw).bind fun text => if guestHasUniqueJsonKeys text then parse text else none

def envelopeOfBytes (node : NodeRuntime) (raw : List UInt8) : Option (GuestEnvelope node) :=
  (parseJsonBytes raw).bind (guestEnvelope? node)

/-! ### Written envelopes -/

def textJson (text : String) : Json.Value := .string (Json.textOf text)

def naturalJson (n : Nat) : Json.Value := .number (.natural n)

def observationJson (item : GuestPostureObservation) : Json.Value :=
  .object (literal [("check_id", textJson item.checkId.text), ("outcome", textJson item.outcome.text)])

def findingJson (item : GuestFinding) : Json.Value :=
  .object (literal [("fingerprint", textJson (digestText item.fingerprint)),
    ("severity", textJson item.severity.text), ("confidence", naturalJson item.confidence),
    ("evidence", .string item.evidence)])

def coverageJson (item : GuestCoverageProjection) : Json.Value :=
  .object (literal [("detector_group", textJson item.detectorGroup.text),
    ("execution_status", textJson item.executionStatus.text),
    ("completeness", textJson item.completeness.text)])

def metadataJson {node : NodeRuntime} (metadata : ExecutionMetadata node) : Json.Value :=
  .object (literal [("schema_version", naturalJson 1), ("profile", textJson "GUEST_SAFE"),
    ("canonical_host", textJson metadata.canonicalHost), ("policy_id", textJson "outscan-v1"),
    ("policy_version", textJson "1.0.0"), ("duration_ms", naturalJson metadata.durationMs),
    ("request_count", naturalJson metadata.requestCount)])

def warningJson (code : MachineCode) : Json.Value :=
  .object (literal [("code", textJson code.val)])

def GuestEnvelope.json {node : NodeRuntime} (envelope : GuestEnvelope node) : Json.Value :=
  .object (literal [
    ("observations", .array (envelope.observations.val.map observationJson)),
    ("candidate_findings", .array (envelope.findings.val.map findingJson)),
    ("coverage", .array (envelope.coverage.val.map coverageJson)),
    ("execution_metadata", metadataJson envelope.metadata),
    ("warnings", .array (envelope.warnings.val.map warningJson))])

/-! ### What is written is read -/

theorem namedMember_textJson {α : Type} {inventory : List α} {text : α → String} {member : α}
    (h : memberNamed inventory text (text member) = some member) :
    namedMember inventory text (textJson (text member)) = some member := by
  rw [namedMember, textJson, string?_textOf, Option.bind_some, h]

theorem string?_textJson (text : String) : (textJson text).string? = some text :=
  string?_textOf text

theorem natural?_naturalJson {n : Nat} (h : n < 2 ^ 53) : (naturalJson n).natural? = some n :=
  natural?_natural h

theorem observation?_json (item : GuestPostureObservation) :
    observation? (observationJson item) = some item := by
  have hkeys : (observationJson item).hasExactKeys observationKeys = true :=
    hasExactKeys_literal (by simp) rfl
  have hget : ∀ name, (observationJson item).get? name = List.lookup name _ :=
    get?_literal (by simp)
  simp only [observation?, hkeys, hget, lookup_cons_ite, String.reduceEq, if_true, if_false,
    Bool.not_true, Bool.false_eq_true, Option.bind_eq_bind, Option.bind_some]
  simp [namedMember_textJson]

theorem finding?_json (item : GuestFinding) : finding? (findingJson item) = some item := by
  have hkeys : (findingJson item).hasExactKeys findingKeys = true :=
    hasExactKeys_literal (by simp) rfl
  have hget : ∀ name, (findingJson item).get? name = List.lookup name _ :=
    get?_literal (by simp)
  have hconfidence : (naturalJson item.confidence).natural? = some item.confidence :=
    natural?_naturalJson (Nat.lt_of_le_of_lt item.confidence_le (by decide))
  have hevidence : (Json.Value.string item.evidence).units? = some item.evidence := rfl
  have hfingerprint : parseDigest (digestText item.fingerprint) = some item.fingerprint :=
    parseDigest_eq_some.mpr rfl
  simp only [finding?, hkeys, hget, lookup_cons_ite, String.reduceEq, if_true, if_false,
    Bool.not_true, Bool.false_eq_true, Option.bind_eq_bind, Option.bind_some]
  simp [namedMember_textJson, string?_textJson, hfingerprint, hconfidence, hevidence,
    item.confidence_le, item.evidence_le]

theorem coverage?_json (item : GuestCoverageProjection) :
    coverage? (coverageJson item) = some item := by
  have hkeys : (coverageJson item).hasExactKeys coverageKeys = true :=
    hasExactKeys_literal (by simp) rfl
  have hget : ∀ name, (coverageJson item).get? name = List.lookup name _ :=
    get?_literal (by simp)
  simp only [coverage?, hkeys, hget, lookup_cons_ite, String.reduceEq, if_true, if_false,
    Bool.not_true, Bool.false_eq_true, Option.bind_eq_bind, Option.bind_some]
  simp [namedMember_textJson]

theorem warning?_json (code : MachineCode) : warning? (warningJson code) = some code := by
  have hkeys : (warningJson code).hasExactKeys ["code"] = true := hasExactKeys_literal (by simp) rfl
  have hget : ∀ name, (warningJson code).get? name = List.lookup name _ :=
    get?_literal (by simp)
  simp only [warning?, hkeys, hget, lookup_cons_ite, if_true, if_false,
    Bool.not_true, Bool.false_eq_true, Option.bind_eq_bind, Option.bind_some]
  simp [string?_textJson, code.property]

theorem parseMetadata_json {node : NodeRuntime} (metadata : ExecutionMetadata node) :
    parseMetadata node (metadataJson metadata) = some metadata := by
  have hkeys : (metadataJson metadata).hasExactKeys executionMetadataKeys = true :=
    hasExactKeys_literal (by simp) rfl
  have hget : ∀ name, (metadataJson metadata).get? name = List.lookup name _ :=
    get?_literal (by simp)
  have hone : (naturalJson 1).natural? = some 1 := natural?_naturalJson (by decide)
  have hduration : (naturalJson metadata.durationMs).natural? = some metadata.durationMs :=
    natural?_naturalJson (Nat.lt_of_le_of_lt metadata.duration_le (by decide))
  have hrequests : (naturalJson metadata.requestCount).natural? = some metadata.requestCount :=
    natural?_naturalJson (Nat.lt_of_le_of_lt metadata.request_le (by decide))
  simp only [parseMetadata, hkeys, hget, lookup_cons_ite, String.reduceEq, if_true, if_false,
    Bool.not_true, Bool.false_eq_true, Option.bind_eq_bind, Option.bind_some]
  simp [string?_textJson, hone, hduration, hrequests, metadata.host_canonical,
    metadata.duration_le, metadata.request_le]

theorem parseObservations_json (items : Observations) :
    parseObservations (.array (items.val.map observationJson)) = some items := by
  have hfew : items.val.length ≤ guestPostureChecks.length := by
    rw [← List.length_map (fun item : GuestPostureObservation => item.checkId)]
    exact length_le_of_nodup items.property mem_guestPostureChecks
  have hitems : (items.val.map observationJson).mapM observation? = some (items.val.map id) :=
    mapM_map_of_inverse observation?_json items.val
  have hcount : guestPostureChecks.length ≤ maxObservations := by decide
  simp only [parseObservations, Json.Value.items?, Option.bind_eq_bind, Option.bind_some,
    List.length_map, hitems, List.map_id, items.property, dite_true]
  rw [if_neg (by omega)]

theorem parseCoverage_json (items : Coverage) :
    parseCoverage (.array (items.val.map coverageJson)) = some items := by
  have hfew : items.val.length ≤ guestCoverageGroups.length := by
    rw [← List.length_map (fun item : GuestCoverageProjection => item.detectorGroup)]
    exact length_le_of_nodup items.property.2 mem_guestCoverageGroups
  have hitems : (items.val.map coverageJson).mapM coverage? = some (items.val.map id) :=
    mapM_map_of_inverse coverage?_json items.val
  have hcount : guestCoverageGroups.length ≤ maxCoverage := by decide
  simp only [parseCoverage, Json.Value.items?, Option.bind_eq_bind, Option.bind_some,
    List.length_map, hitems, List.map_id]
  rw [if_neg (by omega), dif_pos items.property]

theorem parseFindings_json (items : Findings) :
    parseFindings (.array (items.val.map findingJson)) = some items := by
  have hitems : (items.val.map findingJson).mapM finding? = some (items.val.map id) :=
    mapM_map_of_inverse finding?_json items.val
  simp only [parseFindings, Json.Value.items?, Option.bind_eq_bind, Option.bind_some, hitems,
    List.map_id]
  rw [dif_pos items.property]

theorem parseWarnings_json (codes : Warnings) :
    parseWarnings (.array (codes.val.map warningJson)) = some codes := by
  have hcodes : (codes.val.map warningJson).mapM warning? = some (codes.val.map id) :=
    mapM_map_of_inverse warning?_json codes.val
  simp only [parseWarnings, Json.Value.items?, Option.bind_eq_bind, Option.bind_some, hcodes,
    List.map_id]
  rw [dif_pos codes.property]

theorem guestEnvelope?_json {node : NodeRuntime} (envelope : GuestEnvelope node) :
    guestEnvelope? node envelope.json = some envelope := by
  have hkeys : envelope.json.hasExactKeys guestEnvelopeKeys = true :=
    hasExactKeys_literal (by simp) rfl
  have hget : ∀ name, envelope.json.get? name = List.lookup name _ :=
    get?_literal (by simp)
  simp only [guestEnvelope?, hkeys, hget, lookup_cons_ite, String.reduceEq, if_true, if_false,
    Bool.not_true, Bool.false_eq_true, Option.bind_eq_bind, Option.bind_some]
  simp [parseObservations_json, parseFindings_json, parseCoverage_json, parseWarnings_json,
    parseMetadata_json]

/-! ### Written envelopes as bytes -/

theorem tame_textJson (limit : Nat) (text : String) : (textJson text).Tame limit :=
  Value.tame_string limit _

theorem tame_naturalJson (limit n : Nat) : (naturalJson n).Tame limit := Value.tame_number limit _

theorem tame_envelope {node : NodeRuntime} (envelope : GuestEnvelope node) :
    envelope.json.Tame 3 := by
  have hobservation : ∀ item, (observationJson item).Tame 1 := fun item =>
    Value.tame_literal (by simp) (by simp [tame_textJson])
  have hfinding : ∀ item, (findingJson item).Tame 1 := fun item =>
    Value.tame_literal (by simp) (by simp [tame_textJson, tame_naturalJson, Value.tame_string])
  have hcoverage : ∀ item, (coverageJson item).Tame 1 := fun item =>
    Value.tame_literal (by simp) (by simp [tame_textJson])
  have hmetadata : (metadataJson envelope.metadata).Tame 2 :=
    Value.tame_literal (by simp) (by simp [tame_textJson, tame_naturalJson])
  have hwarning : ∀ code, (warningJson code).Tame 1 := fun code =>
    Value.tame_literal (by simp) (by simp [tame_textJson])
  have hlist : ∀ {α : Type} (write : α → Json.Value) (items : List α),
      (∀ item, (write item).Tame 1) → (Json.Value.array (items.map write)).Tame 2 := by
    intro α write items h
    apply Value.tame_array
    intro value hvalue
    obtain ⟨item, -, rfl⟩ := List.mem_map.mp hvalue
    exact h item
  apply Value.tame_literal (by simp)
  simp only [List.forall_mem_cons]
  exact ⟨hlist _ _ hobservation, hlist _ _ hfinding, hlist _ _ hcoverage, hmetadata,
    hlist _ _ hwarning, fun _ hnone => absurd hnone List.not_mem_nil⟩

theorem parseJsonBytes_bytes {members : List (Text × Json.Value)}
    (h : (Json.Value.object members).Tame guestMaxJsonDepth) :
    parseJsonBytes (Json.Value.object members).bytes = some (.object members) := by
  have hkeys : guestHasUniqueJsonKeys (write (.object members)) = true :=
    (hasUniqueJsonKeys_iff _ (parse_write _)).mpr h
  rw [parseJsonBytes, if_neg (take_bytes_object members), textOfBytes_bytes, Option.bind_some,
    if_pos hkeys, parse_write]

theorem length_envelope_pos {node : NodeRuntime} (envelope : GuestEnvelope node) :
    0 < envelope.json.bytes.length := by
  obtain ⟨rest, hfirst⟩ := bytes_object _
  rw [GuestEnvelope.json, hfirst]
  exact Nat.succ_pos _

theorem envelopeOfBytes_json {node : NodeRuntime} (envelope : GuestEnvelope node) :
    envelopeOfBytes node envelope.json.bytes = some envelope := by
  have htame := tame_envelope envelope
  have hread : parseJsonBytes envelope.json.bytes = some envelope.json :=
    parseJsonBytes_bytes ⟨htame.1, htame.2.trans (by decide)⟩
  rw [envelopeOfBytes, hread, Option.bind_some, guestEnvelope?_json]

/-! ### Written envelopes are not long -/

theorem length_write_textJson_le {text : String} {n : Nat} (h : text.length ≤ n) :
    (write (textJson text)).length ≤ 12 * n + 2 := by
  have hquoted := length_quoted_textOf_le text
  rw [textJson, write]
  omega

theorem length_write_naturalJson_le {n : Nat} (h : n < 10 ^ 5) :
    (write (naturalJson n)).length ≤ 5 :=
  length_write_natural_le (by decide) h

theorem length_digestText (digest : Bytes32) : (digestText digest).length = 71 := by
  rw [digestText, String.length_ofList, List.length_append, Hex.length_encode, digest.size]
  rfl

theorem length_of_isMachineCode {code : String} (h : isMachineCode code = true) :
    code.length ≤ 64 := by
  unfold isMachineCode at h
  split at h
  · cases h
  · rename_i head tail hcode
    simp only [Bool.and_eq_true, decide_eq_true_eq] at h
    rw [← String.length_toList, hcode, List.length_cons]
    exact Nat.succ_le_succ h.2

theorem inventory_length (check : GuestPostureCheck) (group : GuestCoverageGroup)
    (outcome : PostureOutcome) (status : ExecutionStatus) (completeness : Completeness)
    (severity : Severity) :
    check.text.length ≤ 30 ∧ group.text.length ≤ 30 ∧ outcome.text.length ≤ 30 ∧
      status.text.length ≤ 30 ∧ completeness.text.length ≤ 30 ∧ severity.text.length ≤ 30 :=
  ⟨by cases check <;> decide, by cases group <;> decide, by cases outcome <;> decide,
    by cases status <;> decide, by cases completeness <;> decide, by cases severity <;> decide⟩

theorem length_observationJson_le (item : GuestPostureObservation) :
    (write (observationJson item)).length ≤ 1200 := by
  obtain ⟨hcheck, -, houtcome, -⟩ :=
    inventory_length item.checkId .ctEnrichment item.outcome .success .complete .low
  have hnames : ∀ name ∈ observationKeys, name.length ≤ 8 := by decide
  calc (write (observationJson item)).length ≤ _ * (12 * 8 + 362 + 4) + 2 :=
        length_write_literal_le hnames (by
          simp [length_write_textJson_le hcheck, length_write_textJson_le houtcome])
    _ ≤ 1200 := by simp

theorem length_coverageJson_le (item : GuestCoverageProjection) :
    (write (coverageJson item)).length ≤ 1700 := by
  obtain ⟨-, hgroup, -, hstatus, hcompleteness, -⟩ :=
    inventory_length .dnsCaa item.detectorGroup .pass item.executionStatus item.completeness .low
  have hnames : ∀ name ∈ coverageKeys, name.length ≤ 16 := by decide
  calc (write (coverageJson item)).length ≤ _ * (12 * 16 + 362 + 4) + 2 :=
        length_write_literal_le hnames (by
          simp [length_write_textJson_le hgroup, length_write_textJson_le hstatus,
            length_write_textJson_le hcompleteness])
    _ ≤ 1700 := by simp

theorem length_findingJson_le {item : GuestFinding} (h : item.evidence.length ≤ 100) :
    (write (findingJson item)).length ≤ 4100 := by
  obtain ⟨-, -, -, -, -, hseverity⟩ :=
    inventory_length .dnsCaa .ctEnrichment .pass .success .complete item.severity
  have hconfidence : item.confidence < 10 ^ 5 := Nat.lt_of_le_of_lt item.confidence_le (by decide)
  have hfingerprint := length_write_textJson_le (length_digestText item.fingerprint).le
  have hseverityWritten := length_write_textJson_le hseverity
  have hconfidenceWritten := length_write_naturalJson_le hconfidence
  have hevidence : (write (.string item.evidence)).length ≤ 602 := by
    have hwritten := length_writeString_le item.evidence
    rw [write, quoted, List.length_cons, List.length_append, List.length_singleton]
    omega
  have hnames : ∀ name ∈ findingKeys, name.length ≤ 11 := by decide
  calc (write (findingJson item)).length ≤ _ * (12 * 11 + 854 + 4) + 2 :=
        length_write_literal_le hnames (by
          simp only [List.map_cons, List.map_nil, List.forall_mem_cons, List.not_mem_nil,
            false_implies, implies_true, and_true]
          omega)
    _ ≤ 4100 := by simp

theorem length_warningJson_le (code : MachineCode) : (write (warningJson code)).length ≤ 830 := by
  have hnames : ∀ name ∈ ["code"], name.length ≤ 4 := by decide
  calc (write (warningJson code)).length ≤ _ * (12 * 4 + 770 + 4) + 2 :=
        length_write_literal_le hnames (by
          simp [length_write_textJson_le (length_of_isMachineCode code.property)])
    _ ≤ 830 := by simp

theorem length_metadataJson_le {node : NodeRuntime} (metadata : ExecutionMetadata node) :
    (write (metadataJson metadata)).length ≤ 23000 := by
  have hhost : metadata.canonicalHost.length ≤ 253 := by
    rw [← String.length_toList]
    exact length_le_of_hasValidDnsShape
      (hasValidDnsShape_of_canonicalizeHostname metadata.host_canonical)
  have hduration : metadata.durationMs < 10 ^ 5 :=
    Nat.lt_of_le_of_lt metadata.duration_le (by decide)
  have hrequests : metadata.requestCount < 10 ^ 5 :=
    Nat.lt_of_le_of_lt metadata.request_le (by decide)
  have hversion := length_write_naturalJson_le (show 1 < 10 ^ 5 by decide)
  have hprofile := length_write_textJson_le (show "GUEST_SAFE".length ≤ 10 by decide)
  have hhostWritten := length_write_textJson_le hhost
  have hpolicy := length_write_textJson_le (show "outscan-v1".length ≤ 10 by decide)
  have hpolicyVersion := length_write_textJson_le (show "1.0.0".length ≤ 10 by decide)
  have hdurationWritten := length_write_naturalJson_le hduration
  have hrequestsWritten := length_write_naturalJson_le hrequests
  have hnames : ∀ name ∈ executionMetadataKeys, name.length ≤ 14 := by decide
  calc (write (metadataJson metadata)).length ≤ _ * (12 * 14 + 3038 + 4) + 2 :=
        length_write_literal_le hnames (by
          simp only [List.map_cons, List.map_nil, List.forall_mem_cons, List.not_mem_nil,
            false_implies, implies_true, and_true]
          omega)
    _ ≤ 23000 := by simp

theorem length_write_map_le {α : Type} (write' : α → Json.Value) {items : List α}
    {bound count : Nat} (h : ∀ item ∈ items, (write (write' item)).length ≤ bound)
    (hcount : items.length ≤ count) :
    (write (.array (items.map write'))).length ≤ count * (bound + 1) + 2 := by
  have hitems : ∀ value ∈ items.map write', (write value).length ≤ bound := by
    intro value hvalue
    obtain ⟨item, hitem, rfl⟩ := List.mem_map.mp hvalue
    exact h item hitem
  have hwritten := length_write_array_le hitems
  rw [List.length_map] at hwritten
  exact hwritten.trans (Nat.add_le_add_right (Nat.mul_le_mul_right _ hcount) 2)

theorem length_envelope_le {node : NodeRuntime} {envelope : GuestEnvelope node}
    (hfew : envelope.findings.val.length ≤ 17)
    (hshort : ∀ item ∈ envelope.findings.val, item.evidence.length ≤ 100) :
    envelope.json.bytes.length ≤ 2 * 1024 * 1024 := by
  have hobservations : envelope.observations.val.length ≤ 17 := by
    rw [← List.length_map (fun item : GuestPostureObservation => item.checkId)]
    exact length_le_of_nodup envelope.observations.property mem_guestPostureChecks
  have hcoverage : envelope.coverage.val.length ≤ 8 := by
    rw [← List.length_map (fun item : GuestCoverageProjection => item.detectorGroup)]
    exact length_le_of_nodup envelope.coverage.property.2 mem_guestCoverageGroups
  have hwarnings : envelope.warnings.val.length ≤ 32 := envelope.warnings.property.1
  have hwritten₁ := length_write_map_le observationJson
    (fun item _ => length_observationJson_le item) hobservations
  have hwritten₂ := length_write_map_le findingJson
    (fun item h => length_findingJson_le (hshort item h)) hfew
  have hwritten₃ := length_write_map_le coverageJson (fun item _ => length_coverageJson_le item) hcoverage
  have hwritten₄ := length_metadataJson_le envelope.metadata
  have hwritten₅ := length_write_map_le warningJson (fun code _ => length_warningJson_le code) hwarnings
  have hnames : ∀ name ∈ guestEnvelopeKeys, name.length ≤ 18 := by decide
  have htext : (write envelope.json).length ≤ _ * (12 * 18 + 70000 + 4) + 2 :=
    length_write_literal_le hnames (by
      simp only [List.map_cons, List.map_nil, List.forall_mem_cons, List.not_mem_nil,
        false_implies, implies_true, and_true]
      omega)
  simp only [List.length_cons, List.length_nil] at htext
  have hbytes := length_bytesOf_le (write envelope.json)
  unfold Value.bytes
  omega

end Outscan

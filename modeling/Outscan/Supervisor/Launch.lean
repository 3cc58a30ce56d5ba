import Mathlib.Data.Option.Basic
import Outscan.GuestScanner.Run
import Outscan.Library.Json.Bytes
import Outscan.Supervisor.Authorize

/-! What the supervisor hands to the scanner process, and what the process reads of it. -/
namespace Outscan

open Dynamic

def launchPlanKeys : List String := ["schema_version", "artifact_identity", "scanner_input"]

def launchPlan (envelope : ExecutionEnvelope ScannerExecutionRequest) : Datum :=
  .object [("schema_version", .number (.whole 1)),
    ("artifact_identity", envelope.artifactIdentity.datum),
    ("scanner_input", .object [("schema_version", .number (.whole 1)),
      ("canonical_target", .string envelope.canonicalTarget), ("policy", envelope.policy.datum)])]

/-! ### Writing the input -/

/-- `MAX_INPUT_BYTES`. -/
def maxScannerInputBytes : Nat := 16 * 1024

def scannerInputJson (canonicalTarget : String) (policy : ScannerExecutionRequest) : Json.Value :=
  .object (Json.literal [("schema_version", .number (.natural 1)),
    ("canonical_target", .string (Json.textOf canonicalTarget)), ("policy", policy.json)])

def scannerInputBytes (canonicalTarget : String) (policy : ScannerExecutionRequest) :
    List UInt8 :=
  Json.bytesOf (Json.write (scannerInputJson canonicalTarget policy) ++ [Json.unit '\n'])

def configuredFor (artifact : ScannerArtifactIdentity) (configuredArtifact : Datum) : Bool :=
  matchesApproval artifact ⟨"fixed-process", .approved, configuredArtifact⟩

def encodeApprovedScannerInput (node : NodeRuntime) (value configuredArtifact : Datum) :
    Option (List UInt8) := do
  guard (value.hasExactKeys launchPlanKeys = true)
  guard ((value.get "schema_version").natural? = some 1)
  let artifact ← parseArtifactIdentity (value.get "artifact_identity")
  let input := value.get "scanner_input"
  guard (configuredFor artifact configuredArtifact = true)
  guard (input.hasExactKeys scannerInputKeys = true)
  guard ((input.get "schema_version").natural? = some 1)
  let target ← (input.get "canonical_target").string?
  guard (canonicalizeHostname node target = .ok target)
  match authorizeScannerExecution (policyOf (input.get "policy")) with
  | .denied _ _ => none
  | .allowed request => do
    guard (artifact.profile.val = request.profile.text)
    guard (artifact.policyId.val = "outscan-v1")
    guard (artifact.policyVersion.val = "1.0.0")
    let bytes := scannerInputBytes target request
    guard (bytes.length ≤ maxScannerInputBytes)
    return bytes

/-! ### Reading it -/

/-- `MAX_INPUT_CHUNKS`. -/
def maxScannerInputChunks : Nat := 64

def withoutMark : Json.Text → Json.Text
  | [] => []
  | u :: rest => if u = 0xfeff then rest else u :: rest

/-- `readInput`, with the chunks in which the input arrives. -/
def readInput (chunks : List (List UInt8)) : Option Datum := do
  guard (chunks.flatten.length ≤ maxScannerInputBytes)
  guard (chunks.length ≤ maxScannerInputChunks)
  let text ← Json.textOfBytes chunks.flatten
  let value ← Json.parse (withoutMark text)
  return value.datum

def scannerFieldOf (value : Datum) : ScannerField :=
  (recordOf policyFieldOf value).elim (.scalar (scalarOf value)) .record

def scannerValueOf (value : Datum) : Value ScannerField :=
  (recordOf scannerFieldOf value).elim .other .record

/-! ### What is written is read -/

theorem policy_scannerFieldOf (value : Datum) :
    (scannerFieldOf value).policy = policyOf value := by
  unfold scannerFieldOf policyOf
  cases recordOf policyFieldOf value <;> rfl

theorem scannerInputKeys_nodup : scannerInputKeys.Nodup := by decide

theorem datum_scannerInputJson (canonicalTarget : String) (policy : ScannerExecutionRequest) :
    (scannerInputJson canonicalTarget policy).datum =
      .object [("schema_version", .number (.whole 1)),
        ("canonical_target", .string canonicalTarget), ("policy", policy.datum)] := by
  unfold scannerInputJson
  rw [Json.datum_literal]
  · simp only [List.map_cons, List.map_nil, Json.datum_textOf, policy.datum_json,
      Json.datum_natural (show 1 < 2 ^ 53 by decide)]
    rfl
  · exact scannerInputKeys_nodup

theorem withoutMark_write (canonicalTarget : String) (policy : ScannerExecutionRequest) :
    withoutMark (Json.write (scannerInputJson canonicalTarget policy) ++ [Json.unit '\n']) =
      Json.write (scannerInputJson canonicalTarget policy) ++ [Json.unit '\n'] := by
  rw [scannerInputJson, Json.write, List.cons_append, withoutMark, if_neg (by decide)]

theorem readInput_bytes {canonicalTarget : String} {policy : ScannerExecutionRequest}
    {chunks : List (List UInt8)}
    (hbytes : chunks.flatten = scannerInputBytes canonicalTarget policy)
    (hlength : (scannerInputBytes canonicalTarget policy).length ≤ maxScannerInputBytes)
    (hchunks : chunks.length ≤ maxScannerInputChunks) :
    readInput chunks = some (scannerInputJson canonicalTarget policy).datum := by
  have htext : Json.textOfBytes (scannerInputBytes canonicalTarget policy) =
      some (Json.write (scannerInputJson canonicalTarget policy) ++ [Json.unit '\n']) :=
    Json.textOfBytes_bytesOf (Utf16.wellFormed_append (Json.wellFormed_write _) (by decide))
  have hparse := Json.parse_write_append (scannerInputJson canonicalTarget policy)
    [Json.unit '\n'] (by simp [Json.isSpace])
  simp only [readInput, hbytes, hlength, hchunks, htext, withoutMark_write, hparse, guard, if_true,
    Option.bind_eq_bind, Option.pure_def, Option.bind_some]

theorem scannerInput_of {node : NodeRuntime} {record : Record ScannerField}
    {canonicalTarget : String} {policy : ScannerExecutionRequest}
    (hkeys : record.hasExactKeys scannerInputKeys = true)
    (hversion : (record.get (.scalar .other) "schema_version").isNumber 1 = true)
    (hpolicy : authorizeScannerExecution (record.get (.scalar .other) "policy").policy =
      .allowed policy)
    (htext : (record.get (.scalar .other) "canonical_target").text? = some canonicalTarget)
    (htarget : canonicalizeHostname node canonicalTarget = .ok canonicalTarget)
    (hprofile : policy.profile = .guestSafe)
    (hcapabilities : ∀ c ∈ requiredCapabilities, c ∈ policy.requestedCapabilities)
    (hsufficient : policy.budgets.Sufficient) :
    scannerInput node (.record record) =
      some ⟨canonicalTarget, policy, htarget, hprofile, hcapabilities, hsufficient⟩ := by
  unfold scannerInput
  simp only [hkeys, hpolicy, htext, Bool.not_true, Bool.false_eq_true, if_false]
  rw [dif_pos ⟨hversion, htarget, hprofile, hcapabilities, hsufficient⟩]

theorem scannerInput_json {node : NodeRuntime} {canonicalTarget : String}
    {policy : ScannerExecutionRequest}
    (htarget : canonicalizeHostname node canonicalTarget = .ok canonicalTarget)
    (hprofile : policy.profile = .guestSafe)
    (hcapabilities : ∀ c ∈ requiredCapabilities, c ∈ policy.requestedCapabilities)
    (hsufficient : policy.budgets.Sufficient) :
    scannerInput node (scannerValueOf (scannerInputJson canonicalTarget policy).datum) =
      some ⟨canonicalTarget, policy, htarget, hprofile, hcapabilities, hsufficient⟩ := by
  have hvalue : scannerValueOf (scannerInputJson canonicalTarget policy).datum =
      .record ⟨[("schema_version", .scalar (.number (some 1))),
        ("canonical_target", .scalar (.string canonicalTarget)),
        ("policy", scannerFieldOf policy.datum)], scannerInputKeys_nodup⟩ := by
    rw [datum_scannerInputJson, scannerValueOf, recordOf_object]
    · rfl
    · exact scannerInputKeys_nodup
  have hpolicy : authorizeScannerExecution (scannerFieldOf policy.datum).policy =
      .allowed policy := by
    rw [policy_scannerFieldOf, authorizeScannerExecution_datum]
  rw [hvalue]
  refine scannerInput_of ?_ ?_ ?_ ?_ htarget hprofile hcapabilities hsufficient
  · rfl
  · rfl
  · exact hpolicy
  · rfl

theorem encodeApprovedScannerInput_plan {node : NodeRuntime}
    {envelope : ExecutionEnvelope ScannerExecutionRequest} {configuredArtifact : Datum}
    (hconfigured : parseArtifactIdentity configuredArtifact = some envelope.artifactIdentity)
    (htarget : canonicalizeHostname node envelope.canonicalTarget = .ok envelope.canonicalTarget)
    (hprofile : envelope.artifactIdentity.profile.val = envelope.policy.profile.text)
    (hpolicy : envelope.artifactIdentity.policyId.val = "outscan-v1")
    (hversion : envelope.artifactIdentity.policyVersion.val = "1.0.0")
    (hlength : (scannerInputBytes envelope.canonicalTarget envelope.policy).length ≤
      maxScannerInputBytes) :
    encodeApprovedScannerInput node (launchPlan envelope) configuredArtifact =
      some (scannerInputBytes envelope.canonicalTarget envelope.policy) := by
  have hplan : (launchPlan envelope).hasExactKeys launchPlanKeys = true := rfl
  have hplanVersion : ((launchPlan envelope).get "schema_version").natural? = some 1 := rfl
  have hartifact : parseArtifactIdentity ((launchPlan envelope).get "artifact_identity") =
      some envelope.artifactIdentity := parseArtifactIdentity_datum _
  have hmatches : configuredFor envelope.artifactIdentity configuredArtifact = true :=
    matchesApproval_iff.mpr hconfigured
  have hinput : ((launchPlan envelope).get "scanner_input").hasExactKeys scannerInputKeys = true :=
    rfl
  have hinputVersion :
      (((launchPlan envelope).get "scanner_input").get "schema_version").natural? = some 1 := rfl
  have hinputTarget : (((launchPlan envelope).get "scanner_input").get "canonical_target").string? =
      some envelope.canonicalTarget := rfl
  have hallowed : authorizeScannerExecution
      (policyOf (((launchPlan envelope).get "scanner_input").get "policy")) =
        .allowed envelope.policy := authorizeScannerExecution_datum envelope.policy
  simp only [encodeApprovedScannerInput, hplan, hplanVersion, hartifact, hmatches, hinput,
    hinputVersion, hinputTarget, htarget, hallowed, hprofile, hpolicy, hversion, hlength, guard,
    if_true, Option.bind_eq_bind, Option.pure_def, Option.bind_some]

/-! ### The input is short -/

theorem length_scannerInputJson (canonicalTarget : String) (policy : ScannerExecutionRequest) :
    (Json.write (scannerInputJson canonicalTarget policy)).length =
      (Json.writeString (Json.textOf canonicalTarget)).length +
        (Json.write policy.json).length + 52 := by
  have hversion : (Json.writeString (Json.textOf "schema_version")).length = 14 := by
    decide +kernel
  have htarget : (Json.writeString (Json.textOf "canonical_target")).length = 16 := by
    decide +kernel
  have hpolicy : (Json.writeString (Json.textOf "policy")).length = 6 := by decide +kernel
  have hone : (Json.writeNumber (Json.Decimal.natural 1)).length = 1 := by decide +kernel
  unfold scannerInputJson Json.literal
  simp only [List.map_cons, List.map_nil, Json.write, Json.writeMembers, Json.quoted,
    List.length_append, List.length_cons, List.length_nil, List.isEmpty_cons, List.isEmpty_nil,
    Bool.false_eq_true, if_false, if_true, hversion, htarget, hpolicy, hone]
  omega

theorem length_scannerInputBytes_le {node : NodeRuntime} {input canonicalTarget : String}
    {policy : ScannerExecutionRequest}
    (htarget : canonicalizeHostname node input = .ok canonicalTarget)
    (hpolicy : (Json.write policy.json).length ≤ 1000) :
    (scannerInputBytes canonicalTarget policy).length ≤ maxScannerInputBytes := by
  have hhost := length_le_of_hasValidDnsShape (hasValidDnsShape_of_canonicalizeHostname htarget)
  have hunits : (Json.textOf canonicalTarget).length ≤ 2 * canonicalTarget.toList.length :=
    Utf16.length_encode_le _
  have hwritten := Json.length_writeString_le (Json.textOf canonicalTarget)
  have hbytes := Json.length_bytesOf_le
    (Json.write (scannerInputJson canonicalTarget policy) ++ [Json.unit '\n'])
  rw [List.length_append, length_scannerInputJson, List.length_singleton] at hbytes
  unfold scannerInputBytes
  unfold maxHostnameLength at hhost
  unfold maxScannerInputBytes
  omega

end Outscan

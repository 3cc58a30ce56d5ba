import Mathlib.Data.String.Basic
import Outscan.GuestScan.Snapshot

/-! The identity of a scanner artifact, and whether an approval covers it. -/
namespace Outscan

open Dynamic

def artifactKeys : List String :=
  ["template_workflow_digest", "transitive_dependency_digests", "engine_version",
    "scanner_image_digest", "config_version", "policy_id", "policy_version", "profile"]

def isVersionTail (c : Char) : Bool :=
  c.isAlphanum || c == '.' || c == '_' || c == '+' || c == '-'

/-- `VERSION_PATTERN`: `^[A-Za-z0-9][A-Za-z0-9._+-]{0,63}$`. -/
def validVersion (text : String) : Bool :=
  match text.toList with
  | [] => false
  | head :: tail => head.isAlphanum && tail.all isVersionTail && decide (tail.length ≤ 63)

abbrev Version := { text : String // validVersion text = true }

/-- The order in which `sort` puts the texts of digests. -/
def digestOrder (a b : Bytes32) : Bool := decide (digestText a ≤ digestText b)

structure DependencyDigests where
  digests : List Bytes32
  few : digests.length ≤ 256
  nodup : digests.Nodup
  sorted : digests.Pairwise fun a b => digestOrder a b = true
deriving DecidableEq

theorem digestOrder_trans (a b c : Bytes32) (hab : digestOrder a b = true)
    (hbc : digestOrder b c = true) : digestOrder a c = true :=
  decide_eq_true ((of_decide_eq_true hab).trans (of_decide_eq_true hbc))

theorem digestOrder_total (a b : Bytes32) : (digestOrder a b || digestOrder b a) = true := by
  simp only [digestOrder, Bool.or_eq_true, decide_eq_true_eq]
  exact le_total _ _

theorem digestOrder_antisymm {a b : Bytes32} (hab : digestOrder a b = true)
    (hba : digestOrder b a = true) : a = b :=
  digestText_injective (le_antisymm (of_decide_eq_true hab) (of_decide_eq_true hba))

def DependencyDigests.of? (digests : List Bytes32) : Option DependencyDigests :=
  if h : digests.length ≤ 256 ∧ digests.Nodup then
    some {
      digests := digests.mergeSort digestOrder
      few := by
        rw [List.length_mergeSort]
        exact h.1
      nodup := (List.mergeSort_perm digests digestOrder).nodup_iff.mpr h.2
      sorted := List.pairwise_mergeSort digestOrder_trans digestOrder_total digests }
  else none

structure ScannerArtifactIdentity where
  templateWorkflowDigest : Bytes32
  transitiveDependencyDigests : DependencyDigests
  engineVersion : Version
  scannerImageDigest : Bytes32
  configVersion : Version
  policyId : Version
  policyVersion : Version
  profile : Version
deriving DecidableEq

/-- `isVersion`. -/
def versionField (value : Datum) : Option Version :=
  value.string?.bind fun text => if h : validVersion text = true then some ⟨text, h⟩ else none

def dependencyField (value : Datum) : Option DependencyDigests :=
  (value.array?.bind fun items => items.mapM hash?).bind DependencyDigests.of?

def parseArtifactIdentity (value : Datum) : Option ScannerArtifactIdentity :=
  if !value.hasExactKeys artifactKeys then none
  else do
    let transitiveDependencyDigests ← dependencyField (value.get "transitive_dependency_digests")
    let templateWorkflowDigest ← hash? (value.get "template_workflow_digest")
    let scannerImageDigest ← hash? (value.get "scanner_image_digest")
    let engineVersion ← versionField (value.get "engine_version")
    let configVersion ← versionField (value.get "config_version")
    let policyId ← versionField (value.get "policy_id")
    let policyVersion ← versionField (value.get "policy_version")
    let profile ← versionField (value.get "profile")
    return { templateWorkflowDigest, transitiveDependencyDigests, engineVersion,
             scannerImageDigest, configVersion, policyId, policyVersion, profile }

def ScannerArtifactIdentity.datumWith (artifact : ScannerArtifactIdentity)
    (digests : List Bytes32) : Datum :=
  .object [("template_workflow_digest", .string (digestText artifact.templateWorkflowDigest)),
    ("transitive_dependency_digests", .array (digests.map fun digest => .string (digestText digest))),
    ("engine_version", .string artifact.engineVersion.val),
    ("scanner_image_digest", .string (digestText artifact.scannerImageDigest)),
    ("config_version", .string artifact.configVersion.val),
    ("policy_id", .string artifact.policyId.val),
    ("policy_version", .string artifact.policyVersion.val),
    ("profile", .string artifact.profile.val)]

def ScannerArtifactIdentity.datum (artifact : ScannerArtifactIdentity) : Datum :=
  artifact.datumWith artifact.transitiveDependencyDigests.digests

inductive ApprovalStatus where
  | approved | revoked
deriving DecidableEq, Repr

/-- `artifact_identity` is parsed anew wherever it is compared. -/
structure ScannerTemplateApproval where
  approvalId : String
  status : ApprovalStatus
  artifactIdentity : Datum

def matchesApproval (artifact : ScannerArtifactIdentity) (approval : ScannerTemplateApproval) :
    Bool :=
  match parseArtifactIdentity approval.artifactIdentity with
  | none => false
  | some approved =>
    decide (artifact.templateWorkflowDigest = approved.templateWorkflowDigest) &&
      decide (artifact.engineVersion = approved.engineVersion) &&
      decide (artifact.scannerImageDigest = approved.scannerImageDigest) &&
      decide (artifact.configVersion = approved.configVersion) &&
      decide (artifact.policyId = approved.policyId) &&
      decide (artifact.policyVersion = approved.policyVersion) &&
      decide (artifact.profile = approved.profile) &&
      decide (artifact.transitiveDependencyDigests.digests =
        approved.transitiveDependencyDigests.digests)

/-! ### Reading what stands for an identity -/

theorem DependencyDigests.of?_perm {dependencies : DependencyDigests} {digests : List Bytes32}
    (h : digests.Perm dependencies.digests) :
    DependencyDigests.of? digests = some dependencies := by
  have hsorted : digests.mergeSort digestOrder = dependencies.digests := by
    refine List.Perm.eq_of_pairwise (fun a b _ _ => digestOrder_antisymm) ?_ dependencies.sorted
      ((List.mergeSort_perm digests digestOrder).trans h)
    exact List.pairwise_mergeSort digestOrder_trans digestOrder_total digests
  have hvalid : digests.length ≤ 256 ∧ digests.Nodup :=
    ⟨h.length_eq ▸ dependencies.few, h.nodup_iff.mpr dependencies.nodup⟩
  rw [of?, dif_pos hvalid]
  cases dependencies
  cases hsorted
  rfl

@[simp] theorem versionField_val (version : Version) :
    versionField (.string version.val) = some version := by
  rw [versionField, Datum.string?, Option.bind_some, dif_pos version.property]

theorem mapM_hash (digests : List Bytes32) :
    (digests.map fun digest => Datum.string (digestText digest)).mapM hash? =
      some digests := by
  induction digests with
  | nil => rfl
  | cons digest rest ih =>
    rw [List.map_cons, List.mapM_cons, hash?_text, ih]
    rfl

theorem parseArtifactIdentity_datumWith (artifact : ScannerArtifactIdentity)
    {digests : List Bytes32} (h : digests.Perm artifact.transitiveDependencyDigests.digests) :
    parseArtifactIdentity (artifact.datumWith digests) = some artifact := by
  have hkeys : (artifact.datumWith digests).hasExactKeys artifactKeys = true := rfl
  have hdependencies : dependencyField
      ((artifact.datumWith digests).get "transitive_dependency_digests") =
        some artifact.transitiveDependencyDigests := by
    change (Option.bind (some (digests.map fun digest => Datum.string (digestText digest)))
      fun items => items.mapM hash?).bind DependencyDigests.of? = _
    rw [Option.bind_some, mapM_hash, Option.bind_some, DependencyDigests.of?_perm h]
  have htemplate : hash? ((artifact.datumWith digests).get "template_workflow_digest") =
      some artifact.templateWorkflowDigest := hash?_text _
  have himage : hash? ((artifact.datumWith digests).get "scanner_image_digest") =
      some artifact.scannerImageDigest := hash?_text _
  have hengine : versionField ((artifact.datumWith digests).get "engine_version") =
      some artifact.engineVersion := versionField_val _
  have hconfig : versionField ((artifact.datumWith digests).get "config_version") =
      some artifact.configVersion := versionField_val _
  have hpolicy : versionField ((artifact.datumWith digests).get "policy_id") =
      some artifact.policyId := versionField_val _
  have hpolicyVersion : versionField ((artifact.datumWith digests).get "policy_version") =
      some artifact.policyVersion := versionField_val _
  have hprofile : versionField ((artifact.datumWith digests).get "profile") =
      some artifact.profile := versionField_val _
  simp only [parseArtifactIdentity, hkeys, Bool.not_true, Bool.false_eq_true, if_false,
    hdependencies, htemplate, himage, hengine, hconfig, hpolicy, hpolicyVersion, hprofile]
  rfl

@[simp] theorem parseArtifactIdentity_datum (artifact : ScannerArtifactIdentity) :
    parseArtifactIdentity artifact.datum = some artifact :=
  parseArtifactIdentity_datumWith artifact (List.Perm.refl _)

theorem matchesApproval_iff {artifact : ScannerArtifactIdentity}
    {approval : ScannerTemplateApproval} :
    matchesApproval artifact approval = true ↔
      parseArtifactIdentity approval.artifactIdentity = some artifact := by
  unfold matchesApproval
  cases parseArtifactIdentity approval.artifactIdentity with
  | none => simp
  | some approved =>
    simp only [Bool.and_eq_true, decide_eq_true_eq, Option.some.injEq]
    constructor
    · intro h
      obtain ⟨⟨⟨⟨⟨⟨⟨h₁, h₂⟩, h₃⟩, h₄⟩, h₅⟩, h₆⟩, h₇⟩, h₈⟩ := h
      obtain ⟨_, ⟨_, _, _, _⟩, _, _, _, _, _, _⟩ := artifact
      obtain ⟨_, ⟨_, _, _, _⟩, _, _, _, _, _, _⟩ := approved
      cases h₁
      cases h₂
      cases h₃
      cases h₄
      cases h₅
      cases h₆
      cases h₇
      cases h₈
      rfl
    · rintro rfl
      simp

end Outscan

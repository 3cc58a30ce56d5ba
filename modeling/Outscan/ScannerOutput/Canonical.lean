import Mathlib.Data.Prod.Lex
import Outscan.Library.Unordered
import Outscan.ScannerOutput.Envelope

/-! Canonical scanner results: what is kept of an accepted output, in one order and
with the evidence redacted. -/
namespace Outscan

open Json Dynamic

def guestEvidenceRedaction : String := "[REDACTED:UNTRUSTED_EVIDENCE]"

def maxGuestOutputBytes : Nat := 2 * 1024 * 1024

/-- `localeCompare` of the locale at hand: `le` holds where it gives no positive
number. -/
structure LocaleOrder where
  le : String → String → Bool
  le_trans : ∀ a b c, le a b → le b c → le a c
  le_total : ∀ a b, le a b || le b a
  le_antisymm : ∀ a b, le a b → le b a → a = b

/-- A canonical scanner result. Its digest is the one of its payload. -/
structure CanonicalGuestScannerResult where
  payloadDigest : Bytes32
  payloadSize : Nat
  projection : SanitizedGuestProjection
  canonicalPayload : List UInt8
deriving DecidableEq

inductive GuestProjectionError where
  | invalidOutputLimit
  | outputTooLarge
  | invalidScannerOutput
deriving DecidableEq, Repr

/-! ### The projection -/

/-- The sorts of `parseObservations` and `parseCoverage`. -/
def LocaleOrder.sort {α : Type} (locale : LocaleOrder) (text : α → String) (items : List α) :
    List α :=
  items.mergeSort fun left right => locale.le (text left) (text right)

theorem LocaleOrder.sort_perm {α : Type} (locale : LocaleOrder) (text : α → String)
    (items : List α) : (locale.sort text items).Perm items := List.mergeSort_perm ..

def projectEnvelope {node : NodeRuntime} (locale : LocaleOrder) (envelope : GuestEnvelope node) :
    SanitizedGuestProjection where
  canonicalHost := envelope.metadata.canonicalHost
  posture := locale.sort (·.checkId.text) envelope.observations.val
  potentialRiskCount := (envelope.findings.val.map (·.fingerprint)).dedup.length
  coverage := locale.sort (·.detectorGroup.text) envelope.coverage.val
  warningCount := envelope.warnings.val.length
  durationMs := envelope.metadata.durationMs
  requestCount := envelope.metadata.requestCount
  posture_nodup := ((locale.sort_perm _ _).map _).nodup_iff.mpr envelope.observations.property
  risk_le := by
    have hfew := (List.dedup_sublist (envelope.findings.val.map (·.fingerprint))).length_le
    rw [List.length_map] at hfew
    exact hfew.trans envelope.findings.property
  coverage_nodup := ((locale.sort_perm _ _).map _).nodup_iff.mpr envelope.coverage.property.2
  warning_le := envelope.warnings.property.1
  duration_le := envelope.metadata.duration_le
  request_le := envelope.metadata.request_le

def outputLimit? (maximumBytes : Datum) : Option Nat :=
  maximumBytes.natural?.filter fun limit =>
    decide (1 ≤ limit) && decide (limit ≤ maxGuestOutputBytes)

theorem outputLimit?_whole {limit : Nat} (hpos : 1 ≤ limit) (hle : limit ≤ maxGuestOutputBytes) :
    outputLimit? (.number (.whole limit)) = some limit := by
  have hnatural : (Datum.number (.whole limit)).natural? = some limit := by
    rw [Datum.natural?, if_pos (Int.natCast_nonneg limit), Int.toNat_natCast]
  rw [outputLimit?, hnatural, Option.filter_some, decide_eq_true hpos, decide_eq_true hle]
  rfl

def projectGuestScannerOutput (node : NodeRuntime) (locale : LocaleOrder)
    (raw maximumBytes : Datum) : Except GuestProjectionError SanitizedGuestProjection :=
  match outputLimit? maximumBytes, raw with
  | none, _ => .error .invalidOutputLimit
  | some limit, .bytes bytes =>
    if limit < bytes.length then .error .outputTooLarge
    else
      match envelopeOfBytes node bytes with
      | none => .error .invalidScannerOutput
      | some envelope => .ok (projectEnvelope locale envelope)
  | some _, _ => .error .invalidScannerOutput

/-! ### The canonical form -/

def GuestFinding.redacted (finding : GuestFinding) : GuestFinding :=
  { finding with evidence := Json.textOf guestEvidenceRedaction, evidence_le := by decide +kernel }

/-- What `compareFindings` compares, one after the other. -/
def GuestFinding.rank (finding : GuestFinding) : String ×ₗ String ×ₗ Nat :=
  toLex (digestText finding.fingerprint, toLex (finding.severity.text, finding.confidence))

/-- `canonicalObject`, before it is written. All the texts that are compared are ASCII. -/
def canonicalEnvelope {node : NodeRuntime} (envelope : GuestEnvelope node) :
    GuestEnvelope node where
  observations := ⟨Unordered.sortBy (·.checkId.text) envelope.observations.val,
    ((Unordered.sortBy_perm _ _).map _).nodup_iff.mpr envelope.observations.property⟩
  findings := ⟨Unordered.sortBy GuestFinding.rank (envelope.findings.val.map (·.redacted)), by
    rw [(Unordered.sortBy_perm _ _).length_eq, List.length_map]
    exact envelope.findings.property⟩
  coverage := ⟨Unordered.sortBy (·.detectorGroup.text) envelope.coverage.val, by
    have hperm := Unordered.sortBy_perm (·.detectorGroup.text) envelope.coverage.val
    refine ⟨fun h => envelope.coverage.property.1 ?_,
      (hperm.map _).nodup_iff.mpr envelope.coverage.property.2⟩
    rw [h] at hperm
    exact hperm.nil_eq.symm⟩
  metadata := envelope.metadata
  warnings := ⟨Unordered.sortBy (·.val) envelope.warnings.val, by
    have hperm := Unordered.sortBy_perm (·.val) envelope.warnings.val
    exact ⟨hperm.length_eq.trans_le envelope.warnings.property.1,
      hperm.nodup_iff.mpr envelope.warnings.property.2⟩⟩

def canonicalObject {node : NodeRuntime} (envelope : GuestEnvelope node) : Json.Value :=
  (canonicalEnvelope envelope).json

def produceCanonicalGuestScannerResult (runtime : EnvelopeRuntime) (locale : LocaleOrder)
    (raw maximumBytes : Datum) : Except GuestProjectionError CanonicalGuestScannerResult :=
  match raw with
  | .bytes snapshot =>
    match projectGuestScannerOutput runtime.toNodeRuntime locale raw maximumBytes with
    | .error error => .error error
    | .ok projection =>
      match envelopeOfBytes runtime.toNodeRuntime snapshot with
      | none => .error .invalidScannerOutput
      | some parsed =>
        let canonicalPayload := (canonicalObject parsed).bytes
        if (outputLimit? maximumBytes).any fun limit => limit < canonicalPayload.length then
          .error .outputTooLarge
        else
          .ok {
            payloadDigest := runtime.sha256 canonicalPayload
            payloadSize := canonicalPayload.length
            projection, canonicalPayload }
  | _ => .error .invalidScannerOutput

def canonicalResult (runtime : EnvelopeRuntime) (locale : LocaleOrder)
    (envelope : GuestEnvelope runtime.toNodeRuntime) : CanonicalGuestScannerResult where
  payloadDigest := runtime.sha256 (canonicalObject envelope).bytes
  payloadSize := (canonicalObject envelope).bytes.length
  projection := projectEnvelope locale envelope
  canonicalPayload := (canonicalObject envelope).bytes

theorem projectGuestScannerOutput_ok {node : NodeRuntime} {locale : LocaleOrder}
    {raw maximumBytes : Datum} {projection : SanitizedGuestProjection} :
    projectGuestScannerOutput node locale raw maximumBytes = .ok projection ↔
      ∃ limit bytes envelope, outputLimit? maximumBytes = some limit ∧ raw = .bytes bytes ∧
        bytes.length ≤ limit ∧ envelopeOfBytes node bytes = some envelope ∧
        projection = projectEnvelope locale envelope := by
  constructor
  · intro h
    unfold projectGuestScannerOutput at h
    split at h
    · cases h
    · rename_i limit bytes hlimit
      split at h
      · cases h
      · rename_i hsize
        split at h
        · cases h
        · rename_i envelope henvelope
          cases h
          exact ⟨limit, bytes, envelope, hlimit, rfl, Nat.not_lt.mp hsize, henvelope, rfl⟩
    · cases h
  · rintro ⟨limit, bytes, envelope, hlimit, rfl, hsize, henvelope, rfl⟩
    simp only [projectGuestScannerOutput, hlimit, henvelope]
    rw [if_neg (Nat.not_lt.mpr hsize)]

theorem produceCanonicalGuestScannerResult_ok {runtime : EnvelopeRuntime} {locale : LocaleOrder}
    {raw maximumBytes : Datum} {result : CanonicalGuestScannerResult} :
    produceCanonicalGuestScannerResult runtime locale raw maximumBytes = .ok result ↔
      ∃ limit bytes envelope, outputLimit? maximumBytes = some limit ∧ raw = .bytes bytes ∧
        bytes.length ≤ limit ∧ envelopeOfBytes runtime.toNodeRuntime bytes = some envelope ∧
        (canonicalObject envelope).bytes.length ≤ limit ∧
        result = canonicalResult runtime locale envelope := by
  constructor
  · intro h
    unfold produceCanonicalGuestScannerResult at h
    split at h
    · rename_i snapshot
      split at h
      · cases h
      · rename_i projection hprojection
        obtain ⟨limit, bytes, envelope, hlimit, hraw, hsize, henvelope, rfl⟩ :=
          projectGuestScannerOutput_ok.mp hprojection
        cases hraw
        rw [henvelope, hlimit] at h
        dsimp only [Option.any_some] at h
        split at h
        · cases h
        · rename_i hfits
          cases h
          exact ⟨limit, snapshot, envelope, hlimit, rfl, hsize, henvelope, by simpa using hfits, rfl⟩
    · cases h
  · rintro ⟨limit, bytes, envelope, hlimit, rfl, hsize, henvelope, hfits, rfl⟩
    have hprojection := projectGuestScannerOutput_ok.mpr
      ⟨limit, bytes, envelope, hlimit, rfl, hsize, henvelope, (rfl : projectEnvelope locale _ = _)⟩
    simp only [produceCanonicalGuestScannerResult, hprojection, henvelope, hlimit, Option.any_some]
    rw [if_neg (by simpa using hfits)]
    rfl

/-! ### What the canonical form keeps -/

def GuestFinding.report (finding : GuestFinding) : Bytes32 × Severity × Nat :=
  (finding.fingerprint, finding.severity, finding.confidence)

/-- Two envelopes that report the same, each list in any order and with any evidence. -/
structure SameReport {node : NodeRuntime} (first second : GuestEnvelope node) : Prop where
  metadata : first.metadata = second.metadata
  observations : first.observations.val.Perm second.observations.val
  coverage : first.coverage.val.Perm second.coverage.val
  warnings : first.warnings.val.Perm second.warnings.val
  findings : (first.findings.val.map (·.report)).Perm (second.findings.val.map (·.report))

theorem check_text_injective : Function.Injective GuestPostureCheck.text := by
  intro first second h
  have hfirst := check_named first
  rw [h, check_named] at hfirst
  exact (Option.some.inj hfirst).symm

theorem group_text_injective : Function.Injective GuestCoverageGroup.text := by
  intro first second h
  have hfirst := group_named first
  rw [h, group_named] at hfirst
  exact (Option.some.inj hfirst).symm

theorem severity_text_injective : Function.Injective Severity.text := by
  intro first second h
  have hfirst := severity_named first
  rw [h, severity_named] at hfirst
  exact (Option.some.inj hfirst).symm

theorem redacted_eq_iff {first second : GuestFinding} :
    first.redacted = second.redacted ↔ first.report = second.report := by
  simp [GuestFinding.redacted, GuestFinding.report]

@[simp] theorem report_redacted (finding : GuestFinding) :
    finding.redacted.report = finding.report := rfl

theorem report_of_rank {first second : GuestFinding} (h : first.rank = second.rank) :
    first.report = second.report := by
  have hpair := Prod.mk.inj (toLex.injective h)
  have hrest := Prod.mk.inj (toLex.injective hpair.2)
  rw [GuestFinding.report, GuestFinding.report, digestText_injective hpair.1,
    severity_text_injective hrest.1, hrest.2]

theorem observation_of_check {items : Observations} :
    ∀ a ∈ items.val, ∀ b ∈ items.val, a.checkId.text = b.checkId.text → a = b :=
  fun _ ha _ hb h => List.inj_on_of_nodup_map items.property ha hb (check_text_injective h)

theorem coverage_of_group {items : Coverage} :
    ∀ a ∈ items.val, ∀ b ∈ items.val, a.detectorGroup.text = b.detectorGroup.text → a = b :=
  fun _ ha _ hb h => List.inj_on_of_nodup_map items.property.2 ha hb (group_text_injective h)

theorem canonical_findings_eq_iff {node : NodeRuntime} {first second : GuestEnvelope node} :
    (canonicalEnvelope first).findings = (canonicalEnvelope second).findings ↔
      (first.findings.val.map (·.report)).Perm (second.findings.val.map (·.report)) := by
  have hkey : ∀ a ∈ first.findings.val.map (·.redacted), ∀ b ∈ first.findings.val.map (·.redacted),
      a.rank = b.rank → a = b := by
    intro a ha b hb h
    obtain ⟨a, -, rfl⟩ := List.mem_map.mp ha
    obtain ⟨b, -, rfl⟩ := List.mem_map.mp hb
    exact redacted_eq_iff.mpr (report_of_rank h)
  rw [Subtype.ext_iff]
  exact (Unordered.sortBy_eq_iff GuestFinding.rank hkey).trans
    ⟨Unordered.perm_map_of_perm_map fun _ _ => redacted_eq_iff.mp,
      Unordered.perm_map_of_perm_map fun _ _ => redacted_eq_iff.mpr⟩

/-- The canonical form keeps what is reported, and nothing else. -/
theorem canonicalEnvelope_eq_iff {node : NodeRuntime} {first second : GuestEnvelope node} :
    canonicalEnvelope first = canonicalEnvelope second ↔ SameReport first second := by
  have hobservations : (canonicalEnvelope first).observations =
      (canonicalEnvelope second).observations ↔
        first.observations.val.Perm second.observations.val :=
    Subtype.ext_iff.trans (Unordered.sortBy_eq_iff _ observation_of_check)
  have hcoverage : (canonicalEnvelope first).coverage = (canonicalEnvelope second).coverage ↔
      first.coverage.val.Perm second.coverage.val :=
    Subtype.ext_iff.trans (Unordered.sortBy_eq_iff _ coverage_of_group)
  have hwarnings : (canonicalEnvelope first).warnings = (canonicalEnvelope second).warnings ↔
      first.warnings.val.Perm second.warnings.val :=
    Subtype.ext_iff.trans (Unordered.sortBy_eq_iff _ fun _ _ _ _ h => Subtype.ext h)
  constructor
  · intro h
    obtain ⟨h₁, h₂, h₃, h₄, h₅⟩ := GuestEnvelope.mk.inj h
    exact ⟨h₄, hobservations.mp h₁, hcoverage.mp h₃, hwarnings.mp h₅,
      canonical_findings_eq_iff.mp h₂⟩
  · intro h
    apply (GuestEnvelope.mk.injEq ..).mpr
    exact ⟨hobservations.mpr h.observations, canonical_findings_eq_iff.mpr h.findings,
      hcoverage.mpr h.coverage, h.metadata, hwarnings.mpr h.warnings⟩

theorem sameReport_canonicalEnvelope {node : NodeRuntime} (envelope : GuestEnvelope node) :
    SameReport (canonicalEnvelope envelope) envelope where
  metadata := rfl
  observations := Unordered.sortBy_perm ..
  coverage := Unordered.sortBy_perm ..
  warnings := Unordered.sortBy_perm ..
  findings := by
    have hperm := (Unordered.sortBy_perm GuestFinding.rank
      (envelope.findings.val.map (·.redacted))).map (·.report)
    rw [List.map_map] at hperm
    exact hperm

@[simp] theorem canonicalEnvelope_canonicalEnvelope {node : NodeRuntime}
    (envelope : GuestEnvelope node) :
    canonicalEnvelope (canonicalEnvelope envelope) = canonicalEnvelope envelope :=
  canonicalEnvelope_eq_iff.mpr (sameReport_canonicalEnvelope envelope)

theorem LocaleOrder.sort_eq {α : Type} (locale : LocaleOrder) {text : α → String}
    {items items' : List α} (htext : ∀ a ∈ items, ∀ b ∈ items, text a = text b → a = b)
    (h : items.Perm items') : locale.sort text items = locale.sort text items' := by
  apply Unordered.mergeSort_eq_of_perm _ _ _ h
  · exact fun _ _ _ => locale.le_trans _ _ _
  · exact fun _ _ => locale.le_total _ _
  · exact fun a b ha hb hab hba => htext a ha b hb (locale.le_antisymm _ _ hab hba)

theorem projectEnvelope_eq {node : NodeRuntime} {locale : LocaleOrder}
    {first second : GuestEnvelope node} (h : SameReport first second) :
    projectEnvelope locale first = projectEnvelope locale second := by
  have hfingerprints : (first.findings.val.map (·.fingerprint)).Perm
      (second.findings.val.map (·.fingerprint)) := by
    have hperm := h.findings.map Prod.fst
    rw [List.map_map, List.map_map] at hperm
    exact hperm
  apply (SanitizedGuestProjection.mk.injEq ..).mpr
  exact ⟨by rw [h.metadata], locale.sort_eq observation_of_check h.observations,
    hfingerprints.dedup.length_eq, locale.sort_eq coverage_of_group h.coverage,
    h.warnings.length_eq, by rw [h.metadata], by rw [h.metadata]⟩

/-! ### The normal form -/

theorem canonicalResult_eq {runtime : EnvelopeRuntime} {locale : LocaleOrder}
    {first second : GuestEnvelope runtime.toNodeRuntime} (h : SameReport first second) :
    canonicalResult runtime locale first = canonicalResult runtime locale second := by
  have hobject : canonicalObject first = canonicalObject second :=
    congrArg GuestEnvelope.json (canonicalEnvelope_eq_iff.mpr h)
  rw [canonicalResult, canonicalResult, hobject, projectEnvelope_eq h]

theorem canonicalPayload_eq_iff {runtime : EnvelopeRuntime} {locale : LocaleOrder}
    {first second : GuestEnvelope runtime.toNodeRuntime} :
    (canonicalResult runtime locale first).canonicalPayload =
        (canonicalResult runtime locale second).canonicalPayload ↔ SameReport first second := by
  constructor
  · intro h
    have hobject : (canonicalEnvelope first).json = (canonicalEnvelope second).json :=
      Value.bytes_injective h
    have hread := guestEnvelope?_json (canonicalEnvelope first)
    rw [hobject, guestEnvelope?_json] at hread
    exact canonicalEnvelope_eq_iff.mp (Option.some.inj hread).symm
  · intro h
    rw [canonicalResult_eq h]

theorem produce_canonicalPayload {runtime : EnvelopeRuntime} {locale : LocaleOrder}
    {raw maximumBytes : Datum} {result : CanonicalGuestScannerResult}
    (h : produceCanonicalGuestScannerResult runtime locale raw maximumBytes = .ok result)
    {otherBytes : Datum} {limit : Nat} (hlimit : outputLimit? otherBytes = some limit)
    (hfits : result.payloadSize ≤ limit) :
    produceCanonicalGuestScannerResult runtime locale (.bytes result.canonicalPayload)
      otherBytes = .ok result := by
  obtain ⟨_, _, envelope, -, rfl, -, -, -, rfl⟩ := produceCanonicalGuestScannerResult_ok.mp h
  have hagain : canonicalObject (canonicalEnvelope envelope) = canonicalObject envelope :=
    congrArg GuestEnvelope.json (canonicalEnvelope_canonicalEnvelope envelope)
  apply produceCanonicalGuestScannerResult_ok.mpr
  refine ⟨limit, _, canonicalEnvelope envelope, hlimit, rfl, hfits, envelopeOfBytes_json _, ?_, ?_⟩
  · rw [hagain]
    exact hfits
  · exact (canonicalResult_eq (sameReport_canonicalEnvelope envelope)).symm

theorem payloadSize_le {runtime : EnvelopeRuntime} {locale : LocaleOrder}
    {raw maximumBytes : Datum} {result : CanonicalGuestScannerResult}
    (h : produceCanonicalGuestScannerResult runtime locale raw maximumBytes = .ok result) :
    ∃ limit, outputLimit? maximumBytes = some limit ∧ result.payloadSize ≤ limit ∧
      result.payloadSize = result.canonicalPayload.length ∧
      result.payloadDigest = runtime.sha256 result.canonicalPayload := by
  obtain ⟨limit, _, envelope, hlimit, -, -, -, hfits, rfl⟩ :=
    produceCanonicalGuestScannerResult_ok.mp h
  exact ⟨limit, hlimit, hfits, rfl, rfl⟩

/-- Canonical scanner output is a normal form. What an accepted output is turned into is
accepted under the same limit and turned into itself; and two accepted outputs are turned
into one payload exactly when their envelopes have the same metadata and, up to order, the
same observations, coverage, warnings and findings without their evidence. -/
theorem canonical_normal_form (runtime : EnvelopeRuntime) (locale : LocaleOrder) :
    (∀ raw maximumBytes result,
      produceCanonicalGuestScannerResult runtime locale raw maximumBytes = .ok result →
        produceCanonicalGuestScannerResult runtime locale (.bytes result.canonicalPayload)
          maximumBytes = .ok result) ∧
    ∀ first second firstLimit secondLimit firstResult secondResult,
      produceCanonicalGuestScannerResult runtime locale (.bytes first) firstLimit =
          .ok firstResult →
      produceCanonicalGuestScannerResult runtime locale (.bytes second) secondLimit =
          .ok secondResult →
      ∃ firstEnvelope secondEnvelope,
        envelopeOfBytes runtime.toNodeRuntime first = some firstEnvelope ∧
        envelopeOfBytes runtime.toNodeRuntime second = some secondEnvelope ∧
        (firstResult.canonicalPayload = secondResult.canonicalPayload ↔
          SameReport firstEnvelope secondEnvelope) ∧
        (SameReport firstEnvelope secondEnvelope → firstResult = secondResult) := by
  constructor
  · intro raw maximumBytes result h
    obtain ⟨limit, hlimit, hfits, -⟩ := payloadSize_le h
    exact produce_canonicalPayload h hlimit hfits
  · intro first second firstLimit secondLimit firstResult secondResult hfirst hsecond
    obtain ⟨_, _, firstEnvelope, -, hfirstRaw, -, hfirstEnvelope, -, rfl⟩ :=
      produceCanonicalGuestScannerResult_ok.mp hfirst
    obtain ⟨_, _, secondEnvelope, -, hsecondRaw, -, hsecondEnvelope, -, rfl⟩ :=
      produceCanonicalGuestScannerResult_ok.mp hsecond
    cases hfirstRaw
    cases hsecondRaw
    exact ⟨firstEnvelope, secondEnvelope, hfirstEnvelope, hsecondEnvelope,
      canonicalPayload_eq_iff, canonicalResult_eq⟩

end Outscan

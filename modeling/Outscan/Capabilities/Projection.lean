import Outscan.Library.Datum
import Outscan.Library.Unordered
import Outscan.Target.Hostname

/-! The registry of product capabilities and its public projection. Every check that
fails is `CAPABILITY_REGISTRY_INVALID`, written `none`. -/
namespace Outscan

open Dynamic

def accessClasses : List String := ["PUBLIC_SAFE", "VERIFIED", "CONTROLLED", "SYSTEM", "INTERNAL"]

def releaseStates : List String :=
  ["PLANNED", "DEVELOPMENT", "STAGING", "VALIDATED", "ACTIVE", "DEPRECATED", "RETIRED"]

def maturityLevels : List String := ["EXPERIMENTAL", "BETA", "STABLE"]

structure ProductCapabilityDefinition where
  slug : String
  name : String
  category : String
  description : String
  accessClass : String
  maturity : String
  publicCopyKey : String
  requiredEvidenceClass : String
  tags : List String
  sortOrder : Nat
deriving DecidableEq, Repr

structure CapabilityPublicationState where
  capabilitySlug : String
  releaseState : String
  publicVisible : Bool
  claimApproved : Bool
  evidenceValid : Bool
deriving DecidableEq, Repr

structure PublicCapability where
  slug : String
  name : String
  description : String
  access : String
  maturity : String
  status : String
  sortOrder : Nat
deriving DecidableEq, Repr

def definitionKeys : List String :=
  ["slug", "name", "category", "description", "accessClass", "maturity", "publicCopyKey",
    "requiredEvidenceClass", "tags", "sortOrder"]

def publicationKeys : List String :=
  ["capabilitySlug", "releaseState", "publicVisible", "claimApproved", "evidenceValid"]

def isDelimited (separators : List Char) (text : String) : Bool :=
  (text.toList.splitOnP separators.contains).all fun word =>
    !word.isEmpty && word.all fun c => c.isLower || c.isDigit

/-- `SLUG_PATTERN`. -/
def isSlug : String → Bool := isDelimited ['-']

/-- `KEY_PATTERN`. -/
def isCopyKey : String → Bool := isDelimited ['.', '_', '-']

def boundedText (value : Datum) (maximum : Nat) : Option String := do
  let text ← value.string?
  guard (utf16Length text.toList ≠ 0 ∧ utf16Length text.toList ≤ maximum ∧
    jsTrim text.toList = text.toList)
  return text

def enumValue (value : Datum) (allowed : List String) : Option String := do
  let text ← value.string?
  guard (text ∈ allowed)
  return text

def parseTags (value : Datum) : Option (List String) := do
  let items ← value.array?
  guard (items.length ≤ 12)
  let tags ← items.mapM (boundedText · 48)
  guard (tags.all isSlug)
  guard tags.Nodup
  return tags

def parseDefinition (value : Datum) : Option ProductCapabilityDefinition := do
  guard (value.hasExactKeys definitionKeys)
  let slug ← boundedText (value.get "slug") 64
  let category ← boundedText (value.get "category") 64
  let publicCopyKey ← boundedText (value.get "publicCopyKey") 128
  let requiredEvidenceClass ← boundedText (value.get "requiredEvidenceClass") 64
  let sortOrder ← (value.get "sortOrder").natural?
  guard (isSlug slug && isSlug category && isCopyKey publicCopyKey &&
    isCopyKey requiredEvidenceClass)
  guard (sortOrder ≤ 10000)
  let name ← boundedText (value.get "name") 96
  let description ← boundedText (value.get "description") 320
  let accessClass ← enumValue (value.get "accessClass") accessClasses
  let maturity ← enumValue (value.get "maturity") maturityLevels
  let tags ← parseTags (value.get "tags")
  return { slug, name, category, description, accessClass, maturity, publicCopyKey,
           requiredEvidenceClass, tags, sortOrder }

def parsePublication (value : Datum) : Option CapabilityPublicationState := do
  guard (value.hasExactKeys publicationKeys)
  let publicVisible ← (value.get "publicVisible").bool?
  let claimApproved ← (value.get "claimApproved").bool?
  let evidenceValid ← (value.get "evidenceValid").bool?
  let capabilitySlug ← boundedText (value.get "capabilitySlug") 64
  guard (isSlug capabilitySlug)
  let releaseState ← enumValue (value.get "releaseState") releaseStates
  return { capabilitySlug, releaseState, publicVisible, claimApproved, evidenceValid }

def validateCapabilityDefinitions (input : Datum) : Option (List ProductCapabilityDefinition) := do
  let items ← input.array?
  guard (items.length ≠ 0 ∧ items.length ≤ 100)
  let definitions ← items.mapM parseDefinition
  guard (definitions.map (·.slug)).Nodup
  guard (definitions.map (·.sortOrder)).Nodup
  return definitions

def validateCapabilityPublications (input : Datum)
    (definitions : List ProductCapabilityDefinition) :
    Option (List CapabilityPublicationState) := do
  let items ← input.array?
  guard (items.length = definitions.length)
  let states ← items.mapM parsePublication
  let slugs := states.map (·.capabilitySlug)
  guard slugs.Nodup
  guard (slugs.all fun slug => (definitions.map (·.slug)).contains slug)
  guard (definitions.all fun definition => slugs.contains definition.slug)
  return states

/-- `publicationBySlug.get`. -/
def publicationBySlug (publications : List CapabilityPublicationState) (slug : String) :
    Option CapabilityPublicationState :=
  publications.reverse.find? (·.capabilitySlug == slug)

/-- A missing publication throws. -/
def isPublic (definition : ProductCapabilityDefinition)
    (publication : Option CapabilityPublicationState) : Option Bool :=
  publication.map fun publication =>
    definition.accessClass ≠ "INTERNAL" && publication.releaseState == "ACTIVE" &&
      publication.publicVisible && publication.claimApproved && publication.evidenceValid

/-- `filter` with a test that may throw. -/
def filterChecked {α : Type} (test : α → Option Bool) : List α → Option (List α)
  | [] => some []
  | item :: rest => do
    let kept ← test item
    let others ← filterChecked test rest
    return if kept then item :: others else others

def ProductCapabilityDefinition.project (definition : ProductCapabilityDefinition) :
    PublicCapability where
  slug := definition.slug
  name := definition.name
  description := definition.description
  access := definition.accessClass
  maturity := definition.maturity
  status := "ACTIVE"
  sortOrder := definition.sortOrder

def createPublicCapabilityProjection (definitionsInput publicationsInput : Datum) :
    Option (List PublicCapability) := do
  let definitions ← validateCapabilityDefinitions definitionsInput
  let publications ← validateCapabilityPublications publicationsInput definitions
  let output ← filterChecked
    (fun definition => isPublic definition (publicationBySlug publications definition.slug))
    definitions
  return (output.mergeSort fun left right => left.sortOrder ≤ right.sortOrder).map
    ProductCapabilityDefinition.project

/-! ### Accepted lists -/

structure Registry (defs pubs : List Datum) (definitions : List ProductCapabilityDefinition)
    (publications : List CapabilityPublicationState) : Prop where
  count : defs.length ≠ 0 ∧ defs.length ≤ 100
  parsed : defs.mapM parseDefinition = some definitions
  parsed' : pubs.mapM parsePublication = some publications
  length : pubs.length = definitions.length
  slugs : (definitions.map (·.slug)).Nodup
  orders : (definitions.map (·.sortOrder)).Nodup
  named : (publications.map (·.capabilitySlug)).Nodup
  known : ∀ publication ∈ publications, publication.capabilitySlug ∈ definitions.map (·.slug)
  covered : ∀ definition ∈ definitions, definition.slug ∈ publications.map (·.capabilitySlug)

theorem validateCapabilityDefinitions_array {defs : List Datum}
    {definitions : List ProductCapabilityDefinition} :
    validateCapabilityDefinitions (.array defs) = some definitions ↔
      (defs.length ≠ 0 ∧ defs.length ≤ 100) ∧ defs.mapM parseDefinition = some definitions ∧
        (definitions.map (·.slug)).Nodup ∧ (definitions.map (·.sortOrder)).Nodup := by
  simp only [validateCapabilityDefinitions, Datum.array?, Option.bind_eq_bind, Option.bind_some,
    Option.bind_eq_some_iff, Option.guard_eq_some', Option.pure_def, Option.some.injEq,
    exists_const]
  constructor
  · rintro ⟨hcount, found, hfound, hslugs, horders, rfl⟩
    exact ⟨hcount, hfound, hslugs, horders⟩
  · rintro ⟨hcount, hfound, hslugs, horders⟩
    exact ⟨hcount, definitions, hfound, hslugs, horders, rfl⟩

theorem validateCapabilityPublications_array {pubs : List Datum}
    {definitions : List ProductCapabilityDefinition}
    {publications : List CapabilityPublicationState} :
    validateCapabilityPublications (.array pubs) definitions = some publications ↔
      pubs.length = definitions.length ∧ pubs.mapM parsePublication = some publications ∧
        (publications.map (·.capabilitySlug)).Nodup ∧
        (∀ publication ∈ publications,
          publication.capabilitySlug ∈ definitions.map (·.slug)) ∧
        ∀ definition ∈ definitions, definition.slug ∈ publications.map (·.capabilitySlug) := by
  simp only [validateCapabilityPublications, Datum.array?, Option.bind_eq_bind, Option.bind_some,
    Option.bind_eq_some_iff, Option.guard_eq_some', Option.pure_def, Option.some.injEq,
    exists_const, List.all_eq_true, List.contains_iff_mem, List.forall_mem_map]
  constructor
  · rintro ⟨hlength, found, hfound, hnamed, hknown, hcovered, rfl⟩
    exact ⟨hlength, hfound, hnamed, hknown, hcovered⟩
  · rintro ⟨hlength, hfound, hnamed, hknown, hcovered⟩
    exact ⟨hlength, publications, hfound, hnamed, hknown, hcovered, rfl⟩

def Published (publications : List CapabilityPublicationState)
    (definition : ProductCapabilityDefinition) : Prop :=
  definition.accessClass ≠ "INTERNAL" ∧ ∃ publication ∈ publications,
    publication.capabilitySlug = definition.slug ∧ publication.releaseState = "ACTIVE" ∧
      publication.publicVisible = true ∧ publication.claimApproved = true ∧
      publication.evidenceValid = true

instance (publications : List CapabilityPublicationState)
    (definition : ProductCapabilityDefinition) : Decidable (Published publications definition) :=
  inferInstanceAs (Decidable (_ ∧ _))

theorem publicationBySlug_of_mem {publications : List CapabilityPublicationState}
    (hnamed : (publications.map (·.capabilitySlug)).Nodup)
    {publication : CapabilityPublicationState} (hmem : publication ∈ publications) :
    publicationBySlug publications publication.capabilitySlug = some publication := by
  unfold publicationBySlug
  cases hfound : publications.reverse.find? (·.capabilitySlug == publication.capabilitySlug) with
  | none =>
    have hnot := List.find?_eq_none.mp hfound publication (List.mem_reverse.mpr hmem)
    simp at hnot
  | some found =>
    have hslug : found.capabilitySlug = publication.capabilitySlug := by
      simpa using List.find?_some hfound
    have hin := List.mem_reverse.mp (List.mem_of_find?_eq_some hfound)
    rw [List.inj_on_of_nodup_map hnamed hin hmem hslug]

theorem isPublic_publicationBySlug {publications : List CapabilityPublicationState}
    (hnamed : (publications.map (·.capabilitySlug)).Nodup)
    {definition : ProductCapabilityDefinition}
    (hcovered : definition.slug ∈ publications.map (·.capabilitySlug)) :
    isPublic definition (publicationBySlug publications definition.slug) =
      some (decide (Published publications definition)) := by
  obtain ⟨publication, hmem, hslug⟩ := List.mem_map.mp hcovered
  rw [← hslug, publicationBySlug_of_mem hnamed hmem, isPublic, Option.map_some]
  congr 1
  rw [Bool.eq_iff_iff, decide_eq_true_eq]
  simp only [Bool.and_eq_true, decide_eq_true_eq, beq_iff_eq, ne_eq]
  unfold Published
  constructor
  · rintro ⟨⟨⟨⟨hinternal, hstate⟩, hvisible⟩, happroved⟩, hevidence⟩
    exact ⟨hinternal, publication, hmem, hslug, hstate, hvisible, happroved, hevidence⟩
  · rintro ⟨hinternal, other, hother, hsame, hstate, hvisible, happroved, hevidence⟩
    have heq := List.inj_on_of_nodup_map hnamed hother hmem (hsame.trans hslug.symm)
    subst heq
    exact ⟨⟨⟨⟨hinternal, hstate⟩, hvisible⟩, happroved⟩, hevidence⟩

theorem filterChecked_eq {α : Type} {test : α → Option Bool} {keep : α → Bool} {items : List α}
    (h : ∀ item ∈ items, test item = some (keep item)) :
    filterChecked test items = some (items.filter keep) := by
  induction items with
  | nil => rfl
  | cons item rest ih =>
    obtain ⟨hitem, hrest⟩ := List.forall_mem_cons.mp h
    rw [filterChecked, hitem, ih hrest]
    cases hkeep : keep item <;> simp [hkeep]

def sortOrderLe (left right : ProductCapabilityDefinition) : Bool :=
  decide (left.sortOrder ≤ right.sortOrder)

theorem createPublicCapabilityProjection_array {defs pubs : List Datum}
    {output : List PublicCapability} :
    createPublicCapabilityProjection (.array defs) (.array pubs) = some output ↔
      ∃ definitions publications, Registry defs pubs definitions publications ∧
        output = ((definitions.filter fun definition =>
          decide (Published publications definition)).mergeSort sortOrderLe).map
            ProductCapabilityDefinition.project := by
  simp only [createPublicCapabilityProjection, Option.bind_eq_bind, Option.bind_eq_some_iff,
    validateCapabilityDefinitions_array, validateCapabilityPublications_array, Option.pure_def,
    Option.some.injEq]
  constructor
  · rintro ⟨definitions, ⟨hcount, hdefs, hslugs, horders⟩, publications,
      ⟨hlength, hpubs, hnamed, hknown, hcovered⟩, kept, hkept, rfl⟩
    refine ⟨definitions, publications,
      ⟨hcount, hdefs, hpubs, hlength, hslugs, horders, hnamed, hknown, hcovered⟩, ?_⟩
    rw [filterChecked_eq fun definition hdefinition =>
      isPublic_publicationBySlug hnamed (hcovered definition hdefinition)] at hkept
    rw [← Option.some.inj hkept]
    rfl
  · rintro ⟨definitions, publications, h, rfl⟩
    refine ⟨definitions, ⟨h.count, h.parsed, h.slugs, h.orders⟩, publications,
      ⟨h.length, h.parsed', h.named, h.known, h.covered⟩, _,
      filterChecked_eq fun definition hdefinition =>
        isPublic_publicationBySlug h.named (h.covered definition hdefinition), rfl⟩

theorem sortOrderLe_trans (a b c : ProductCapabilityDefinition) (hab : sortOrderLe a b = true)
    (hbc : sortOrderLe b c = true) : sortOrderLe a c = true := by
  simp only [sortOrderLe, decide_eq_true_eq] at *
  omega

theorem sortOrderLe_total (a b : ProductCapabilityDefinition) :
    (sortOrderLe a b || sortOrderLe b a) = true := by
  simp only [sortOrderLe, Bool.or_eq_true, decide_eq_true_eq]
  omega

theorem Registry.perm {defs defs' pubs pubs' : List Datum}
    {definitions : List ProductCapabilityDefinition}
    {publications : List CapabilityPublicationState} (h : Registry defs pubs definitions publications)
    (hdefs : defs.Perm defs') (hpubs : pubs.Perm pubs') :
    ∃ definitions' publications', Registry defs' pubs' definitions' publications' ∧
      definitions.Perm definitions' ∧ publications.Perm publications' := by
  obtain ⟨definitions', hread, hperm⟩ := Unordered.mapM_perm hdefs h.parsed
  obtain ⟨publications', hread', hperm'⟩ := Unordered.mapM_perm hpubs h.parsed'
  refine ⟨definitions', publications', ?_, hperm, hperm'⟩
  constructor
  · rw [← hdefs.length_eq]
    exact h.count
  · exact hread
  · exact hread'
  · rw [← hpubs.length_eq, h.length, hperm.length_eq]
  · exact (hperm.map _).nodup_iff.mp h.slugs
  · exact (hperm.map _).nodup_iff.mp h.orders
  · exact (hperm'.map _).nodup_iff.mp h.named
  · intro publication hpublication
    exact (hperm.map _).mem_iff.mp (h.known publication (hperm'.mem_iff.mpr hpublication))
  · intro definition hdefinition
    exact (hperm'.map _).mem_iff.mp (h.covered definition (hperm.mem_iff.mpr hdefinition))

theorem projection_perm_some {defs defs' pubs pubs' : List Datum} (hdefs : defs.Perm defs')
    (hpubs : pubs.Perm pubs') {output : List PublicCapability}
    (h : createPublicCapabilityProjection (.array defs) (.array pubs) = some output) :
    createPublicCapabilityProjection (.array defs') (.array pubs') = some output := by
  obtain ⟨definitions, publications, hregistry, rfl⟩ := createPublicCapabilityProjection_array.mp h
  obtain ⟨definitions', publications', hregistry', hperm, hperm'⟩ := hregistry.perm hdefs hpubs
  refine createPublicCapabilityProjection_array.mpr ⟨definitions', publications', hregistry', ?_⟩
  congr 1
  have hsame : ∀ definition, Published publications definition ↔
      Published publications' definition := by
    intro definition
    simp only [Published, hperm'.mem_iff]
  simp only [hsame]
  apply Unordered.mergeSort_eq_of_perm sortOrderLe_trans sortOrderLe_total _ (hperm.filter _)
  intro a b ha hb hab hba
  apply List.inj_on_of_nodup_map hregistry.orders (List.mem_of_mem_filter ha)
    (List.mem_of_mem_filter hb)
  simp only [sortOrderLe, decide_eq_true_eq] at hab hba
  exact Nat.le_antisymm hab hba

/-! ### Refused lists -/

theorem boundedText_eq_some {value : Datum} {maximum : Nat} {text : String}
    (h : boundedText value maximum = some text) : value = .string text := by
  simp only [boundedText, Option.bind_eq_bind, Option.bind_eq_some_iff, Option.guard_eq_some',
    Option.pure_def, Option.some.injEq, exists_const] at h
  obtain ⟨found, hfound, -, rfl⟩ := h
  exact Datum.string?_eq_some.mp hfound

theorem parseDefinition_fields {value : Datum} {definition : ProductCapabilityDefinition}
    (h : parseDefinition value = some definition) :
    value.get "slug" = .string definition.slug ∧
      (value.get "sortOrder").natural? = some definition.sortOrder := by
  simp only [parseDefinition, Option.bind_eq_bind, Option.bind_eq_some_iff, Option.guard_eq_some',
    Option.pure_def, Option.some.injEq, exists_const] at h
  obtain ⟨-, slug, hslug, category, -, publicCopyKey, -, evidence, -, sortOrder, horder, -, -,
    name, -, description, -, accessClass, -, maturity, -, tags, -, rfl⟩ := h
  exact ⟨boundedText_eq_some hslug, horder⟩

theorem parsePublication_slug {value : Datum} {publication : CapabilityPublicationState}
    (h : parsePublication value = some publication) :
    value.get "capabilitySlug" = .string publication.capabilitySlug := by
  simp only [parsePublication, Option.bind_eq_bind, Option.bind_eq_some_iff, Option.guard_eq_some',
    Option.pure_def, Option.some.injEq, exists_const] at h
  obtain ⟨-, visible, -, approved, -, evidence, -, slug, hslug, -, state, -, rfl⟩ := h
  exact boundedText_eq_some hslug

theorem Registry.raw {defs pubs : List Datum} {definitions : List ProductCapabilityDefinition}
    {publications : List CapabilityPublicationState}
    (h : Registry defs pubs definitions publications) :
    (defs.map (·.get "slug")).Nodup ∧ (defs.map fun value => (value.get "sortOrder").natural?).Nodup ∧
      (pubs.map (·.get "capabilitySlug")).Nodup ∧
      (∀ value ∈ pubs, value.get "capabilitySlug" ∈ defs.map (·.get "slug")) ∧
      ∀ value ∈ defs, value.get "slug" ∈ pubs.map (·.get "capabilitySlug") := by
  have hslugs : defs.map (·.get "slug") = (definitions.map (·.slug)).map Datum.string := by
    rw [List.map_map]
    exact Unordered.map_eq_of_forall₂ (Unordered.mapM_eq_some.mp h.parsed)
      fun _ _ hread => (parseDefinition_fields hread).1
  have horders : (defs.map fun value => (value.get "sortOrder").natural?) =
      (definitions.map (·.sortOrder)).map some := by
    rw [List.map_map]
    exact Unordered.map_eq_of_forall₂ (Unordered.mapM_eq_some.mp h.parsed)
      fun _ _ hread => (parseDefinition_fields hread).2
  have hnamed : pubs.map (·.get "capabilitySlug") =
      (publications.map (·.capabilitySlug)).map Datum.string := by
    rw [List.map_map]
    exact Unordered.map_eq_of_forall₂ (Unordered.mapM_eq_some.mp h.parsed')
      fun _ _ hread => parsePublication_slug hread
  rw [hslugs, horders, hnamed]
  have hinjective : Function.Injective Datum.string := fun _ _ => Datum.string.inj
  refine ⟨(List.nodup_map_iff hinjective).mpr h.slugs,
    (List.nodup_map_iff (Option.some_injective _)).mpr h.orders,
    (List.nodup_map_iff hinjective).mpr h.named, fun value hvalue => ?_, fun value hvalue => ?_⟩
  · obtain ⟨publication, hmem, hread⟩ :=
      Unordered.mem_of_forall₂_left (Unordered.mapM_eq_some.mp h.parsed') hvalue
    rw [parsePublication_slug hread]
    exact List.mem_map_of_mem (h.known publication hmem)
  · obtain ⟨definition, hmem, hread⟩ :=
      Unordered.mem_of_forall₂_left (Unordered.mapM_eq_some.mp h.parsed) hvalue
    rw [(parseDefinition_fields hread).1]
    exact List.mem_map_of_mem (h.covered definition hmem)

/-- The projection lists what may be shown, each once and in order, whatever the order
of the lists; lists whose names or places are not unique, or that do not name the same
capabilities, are refused. -/
theorem publicCapabilityProjection (defs pubs : List Datum) :
    (∀ output, createPublicCapabilityProjection (.array defs) (.array pubs) = some output →
      ∃ definitions publications, defs.mapM parseDefinition = some definitions ∧
        pubs.mapM parsePublication = some publications ∧
        (∀ capability, capability ∈ output ↔ ∃ definition ∈ definitions,
          definition.project = capability ∧ definition.accessClass ≠ "INTERNAL" ∧
            ∃ publication ∈ publications, publication.capabilitySlug = definition.slug ∧
              publication.releaseState = "ACTIVE" ∧ publication.publicVisible = true ∧
              publication.claimApproved = true ∧ publication.evidenceValid = true) ∧
        output.Pairwise fun left right => left.sortOrder < right.sortOrder) ∧
    (∀ defs' pubs', defs.Perm defs' → pubs.Perm pubs' →
      createPublicCapabilityProjection (.array defs') (.array pubs') =
        createPublicCapabilityProjection (.array defs) (.array pubs)) ∧
    (¬ ((defs.map (·.get "slug")).Nodup ∧
        (defs.map fun value => (value.get "sortOrder").natural?).Nodup ∧
        (pubs.map (·.get "capabilitySlug")).Nodup ∧
        (∀ value ∈ pubs, value.get "capabilitySlug" ∈ defs.map (·.get "slug")) ∧
        ∀ value ∈ defs, value.get "slug" ∈ pubs.map (·.get "capabilitySlug")) →
      createPublicCapabilityProjection (.array defs) (.array pubs) = none) := by
  refine ⟨fun output h => ?_, fun defs' pubs' hdefs hpubs => ?_, fun hbad => ?_⟩
  · obtain ⟨definitions, publications, hregistry, rfl⟩ :=
      createPublicCapabilityProjection_array.mp h
    refine ⟨definitions, publications, hregistry.parsed, hregistry.parsed', fun capability => ?_, ?_⟩
    · rw [List.mem_map]
      constructor
      · rintro ⟨definition, hmem, rfl⟩
        have hkept := List.mem_filter.mp (List.mem_mergeSort.mp hmem)
        exact ⟨definition, hkept.1, rfl, of_decide_eq_true hkept.2⟩
      · rintro ⟨definition, hmem, rfl, hpublished⟩
        exact ⟨definition, List.mem_mergeSort.mpr
          (List.mem_filter.mpr ⟨hmem, decide_eq_true hpublished⟩), rfl⟩
    · rw [List.pairwise_map]
      generalize hkept : (definitions.filter fun definition =>
        decide (Published publications definition)) = kept
      have horders : (kept.map (·.sortOrder)).Nodup :=
        hregistry.orders.sublist (hkept ▸ List.filter_sublist.map _)
      have hsorted := List.pairwise_mergeSort sortOrderLe_trans sortOrderLe_total kept
      have hdistinct : (kept.mergeSort sortOrderLe).Pairwise
          fun left right => left.sortOrder ≠ right.sortOrder :=
        List.pairwise_map.mp (((List.mergeSort_perm kept sortOrderLe).map _).nodup_iff.mpr horders)
      apply (hsorted.and hdistinct).imp
      rintro left right ⟨hle, hne⟩
      exact Nat.lt_of_le_of_ne (of_decide_eq_true hle) hne
  · cases hresult : createPublicCapabilityProjection (.array defs) (.array pubs) with
    | some output => exact projection_perm_some hdefs hpubs hresult
    | none =>
      cases hother : createPublicCapabilityProjection (.array defs') (.array pubs') with
      | none => rfl
      | some output =>
        rw [projection_perm_some hdefs.symm hpubs.symm hother] at hresult
        cases hresult
  · cases hresult : createPublicCapabilityProjection (.array defs) (.array pubs) with
    | none => rfl
    | some output =>
      obtain ⟨definitions, publications, hregistry, -⟩ :=
        createPublicCapabilityProjection_array.mp hresult
      exact absurd hregistry.raw hbad

def sampleCapability (slug : String) (sortOrder : Nat) : ProductCapabilityDefinition :=
  { slug, name := "Domain Security", category := "domain", description := "DNS and CAA."
    accessClass := "PUBLIC_SAFE", maturity := "BETA", publicCopyKey := "capability.domain"
    requiredEvidenceClass := "domain-evidence", tags := ["dns"], sortOrder }

def sampleDefinition (slug : String) (sortOrder : Nat) : Datum :=
  .object [
    ("slug", .string slug), ("name", .string "Domain Security"), ("category", .string "domain"),
    ("description", .string "DNS and CAA."), ("accessClass", .string "PUBLIC_SAFE"),
    ("maturity", .string "BETA"), ("publicCopyKey", .string "capability.domain"),
    ("requiredEvidenceClass", .string "domain-evidence"), ("tags", .array [.string "dns"]),
    ("sortOrder", .number (.whole sortOrder))]

def samplePublication (slug releaseState : String) : Datum :=
  .object [
    ("capabilitySlug", .string slug), ("releaseState", .string releaseState),
    ("publicVisible", .bool true), ("claimApproved", .bool true), ("evidenceValid", .bool true)]

/-- Two of three capabilities are shown, in their order; two in one place are refused. -/
theorem publicCapabilityProjection_sample :
    createPublicCapabilityProjection
      (.array [sampleDefinition "tls-https" 20, sampleDefinition "domain-security" 10,
        sampleDefinition "mail-security" 15])
      (.array [samplePublication "tls-https" "ACTIVE", samplePublication "mail-security" "STAGING",
        samplePublication "domain-security" "ACTIVE"]) =
        some [(sampleCapability "domain-security" 10).project,
          (sampleCapability "tls-https" 20).project] ∧
    createPublicCapabilityProjection
      (.array [sampleDefinition "tls-https" 10, sampleDefinition "domain-security" 10])
      (.array [samplePublication "tls-https" "ACTIVE", samplePublication "domain-security" "ACTIVE"]) =
        none := by
  constructor
  · have hsorted : createPublicCapabilityProjection
        (.array [sampleDefinition "domain-security" 10, sampleDefinition "tls-https" 20,
          sampleDefinition "mail-security" 15])
        (.array [samplePublication "tls-https" "ACTIVE", samplePublication "mail-security" "STAGING",
          samplePublication "domain-security" "ACTIVE"]) =
        some (([sampleCapability "domain-security" 10, sampleCapability "tls-https" 20].mergeSort
          sortOrderLe).map ProductCapabilityDefinition.project) := rfl
    rw [List.mergeSort_of_pairwise (by decide)] at hsorted
    rw [← (publicCapabilityProjection _ _).2.1 _ _ (List.Perm.swap _ _ _) (List.Perm.refl _)]
    exact hsorted
  · apply (publicCapabilityProjection _ _).2.2
    rintro ⟨-, horders, -⟩
    exact absurd horders (by decide)

end Outscan

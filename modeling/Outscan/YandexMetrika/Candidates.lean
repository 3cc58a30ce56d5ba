import Outscan.Library.Grouping
import Outscan.Target.CanonicalHost
import Outscan.YandexMetrika.ParseCounters

/-! Hosts that the sites of counters name, as candidates for assets. -/
namespace Outscan

open Json

/-! ### One site -/

structure ParsedUrl where
  protocol : String
  username : String
  password : String
  hostname : String

/-- What `tldts` says of a host. -/
structure ParsedDomain where
  domain : Option String
  isIcann : Option Bool
  isIp : Option Bool
  isSpecialUse : Option Bool

/-- What is taken from Node and from `tldts`, and `localeCompare(_, "en") <= 0`, of which
only its order on printable ASCII is used. -/
structure MetrikaRuntime where
  node : NodeRuntime
  parseUrl : Text → Option ParsedUrl
  parseDomain : String → ParsedDomain
  localeLe : String → String → Bool
  locale_trans : ∀ a b c, localeLe a b → localeLe b c → localeLe a c
  locale_total : ∀ a b, localeLe a b || localeLe b a
  locale_antisymm : ∀ a b : String, (∀ c ∈ a.toList, Printable c) → (∀ c ∈ b.toList, Printable c) →
    localeLe a b → localeLe b a → a = b

inductive MetrikaSiteRejectionCode where
  | emptySite | siteTooLong | invalidUrl | unsupportedScheme | credentialsNotAllowed
  | invalidHostname | nonPublicSuffix
deriving DecidableEq, Repr

def maxSourceLength : Nat := 2048

/-- `^https?://` under the flags `iu`, which fold U+017F to `s`. -/
def isHttpUrl (source : List Char) : Bool :=
  (source.take 4).map Char.toLower == ['h', 't', 't', 'p'] &&
    match source.drop 4 with
    | c :: rest =>
      (c :: rest).take 3 == [':', '/', '/'] ||
        (c.toLower == 's' || c.toNat == 0x17f) && rest.take 3 == [':', '/', '/']
    | [] => false

def normalizeMetrikaSite (runtime : MetrikaRuntime) (input : Text) :
    Except MetrikaSiteRejectionCode String :=
  let source := trimText input
  let chars := source.map unitChar
  let hasScheme := hasUrlScheme chars
  if input.length > maxSourceLength then .error .siteTooLong
  else if source.isEmpty then .error .emptySite
  else if source.length > maxSourceLength then .error .siteTooLong
  else if source.contains (unit '\\') then .error .invalidUrl
  else if hasScheme && !isHttpUrl chars then .error .unsupportedScheme
  else
    match runtime.parseUrl (if hasScheme then source else units "https://" ++ source) with
    | none => .error .invalidUrl
    | some parsed =>
      if parsed.protocol ≠ "http:" ∧ parsed.protocol ≠ "https:" then .error .unsupportedScheme
      else if parsed.username ≠ "" ∨ parsed.password ≠ "" then .error .credentialsNotAllowed
      else
        match canonicalizeHostname runtime.node parsed.hostname with
        | .error _ => .error .invalidHostname
        | .ok canonicalHost =>
          let suffix := runtime.parseDomain canonicalHost
          if suffix.domain = none ∨ suffix.isIcann ≠ some true ∨ suffix.isIp = some true ∨
              suffix.isSpecialUse = some true then .error .nonPublicSuffix
          else .ok canonicalHost

theorem normalizeMetrikaSite_ok {runtime : MetrikaRuntime} {input : Text} {host : String}
    (h : normalizeMetrikaSite runtime input = .ok host) :
    hasValidDnsShape host.toList = true := by
  unfold normalizeMetrikaSite at h
  simp only [guard_eq_ok] at h
  obtain ⟨-, -, -, -, -, h⟩ := h
  split at h
  · cases h
  simp only [guard_eq_ok] at h
  obtain ⟨-, -, h⟩ := h
  split at h
  · cases h
  next canonicalHost hcanonical =>
  simp only [guard_eq_ok] at h
  obtain ⟨-, h⟩ := h
  cases h
  exact hasValidDnsShape_of_canonicalizeHostname hcanonical

/-! ### The sites of all counters -/

inductive ExternalSourceRole where
  | primarySite | mirror
deriving DecidableEq, Repr

def ExternalSourceRole.text : ExternalSourceRole → String
  | .primarySite => "PRIMARY_SITE"
  | .mirror => "MIRROR"

/-- An observation of the provider `YANDEX_METRIKA`. -/
structure ExternalAssetSourceObservation where
  externalId : String
  sourceRole : ExternalSourceRole
  canonicalHostname : String
  sourceName : Text
  sourcePermission : YandexMetrikaPermission
deriving DecidableEq, Repr

structure AssetCandidateDraft where
  canonicalHostname : String
  sources : List ExternalAssetSourceObservation
deriving DecidableEq, Repr

structure RejectedMetrikaSite where
  counterId : Nat
  sourceRole : ExternalSourceRole
  code : MetrikaSiteRejectionCode
deriving DecidableEq, Repr

structure MetrikaCandidateSnapshot where
  candidates : List AssetCandidateDraft
  rejectedSites : List RejectedMetrikaSite
deriving DecidableEq, Repr

def observation (counter : YandexMetrikaCounter) (sourceRole : ExternalSourceRole)
    (canonicalHostname : String) : ExternalAssetSourceObservation :=
  { externalId := String.ofList (Nat.toDigits 10 counter.id)
    sourceRole, canonicalHostname
    sourceName := counter.name
    sourcePermission := counter.permission }

def counterSites (counter : YandexMetrikaCounter) : List (ExternalSourceRole × Text) :=
  let primary :=
    match counter.primarySite with
    | some site => if site.isEmpty then [] else [(.primarySite, site)]
    | none => []
  primary ++ counter.mirrors.map fun site => (.mirror, site)

/-- The key of a source in the map of its host: in the source these three between `U+0000`,
which none of them holds. -/
def sourceKey (source : ExternalAssetSourceObservation) : String × ExternalSourceRole × String :=
  (source.externalId, source.sourceRole, source.canonicalHostname)

def sourceSortKey (source : ExternalAssetSourceObservation) : String :=
  source.externalId ++ ":" ++ source.sourceRole.text

abbrev SourcesByHostname :=
  List (String × List ((String × ExternalSourceRole × String) × ExternalAssetSourceObservation))

def placeSource (sources : SourcesByHostname) (source : ExternalAssetSourceObservation) :
    SourcesByHostname :=
  Grouping.place (·.canonicalHostname) sourceKey sources source

section Candidates

variable (runtime : MetrikaRuntime)

def readSite (counter : YandexMetrikaCounter)
    (read : SourcesByHostname × List RejectedMetrikaSite) (site : ExternalSourceRole × Text) :
    SourcesByHostname × List RejectedMetrikaSite :=
  match normalizeMetrikaSite runtime site.2 with
  | .error code => (read.1, read.2 ++ [{ counterId := counter.id, sourceRole := site.1, code }])
  | .ok canonicalHostname =>
    (placeSource read.1 (observation counter site.1 canonicalHostname), read.2)

def createMetrikaAssetCandidates (counters : List YandexMetrikaCounter) :
    MetrikaCandidateSnapshot :=
  let read := counters.foldl (fun read counter =>
    (counterSites counter).foldl (readSite runtime counter) read) ([], [])
  { candidates :=
      (read.1.mergeSort fun left right => runtime.localeLe left.1 right.1).map fun entry =>
        { canonicalHostname := entry.1
          sources := (entry.2.map Prod.snd).mergeSort fun left right =>
            runtime.localeLe (sourceSortKey left) (sourceSortKey right) }
    rejectedSites := read.2 }

end Candidates

/-! ### What is placed -/

section Placed

variable (runtime : MetrikaRuntime)

def counterSources (counter : YandexMetrikaCounter) : List ExternalAssetSourceObservation :=
  (counterSites counter).filterMap fun site =>
    (normalizeMetrikaSite runtime site.2).toOption.map (observation counter site.1)

def rejectedSite? (counter : YandexMetrikaCounter) (site : ExternalSourceRole × Text) :
    Option RejectedMetrikaSite :=
  match normalizeMetrikaSite runtime site.2 with
  | .error code => some { counterId := counter.id, sourceRole := site.1, code }
  | .ok _ => none

def allSources (counters : List YandexMetrikaCounter) : List ExternalAssetSourceObservation :=
  counters.flatMap (counterSources runtime)

variable {runtime}

theorem foldl_readSite (counter : YandexMetrikaCounter) (sites : List (ExternalSourceRole × Text))
    (read : SourcesByHostname × List RejectedMetrikaSite) :
    sites.foldl (readSite runtime counter) read =
      ((sites.filterMap fun site => (normalizeMetrikaSite runtime site.2).toOption.map
        (observation counter site.1)).foldl placeSource read.1,
      read.2 ++ sites.filterMap (rejectedSite? runtime counter)) := by
  induction sites generalizing read with
  | nil => simp
  | cons site rest ih =>
    rw [List.foldl_cons, ih, readSite, List.filterMap_cons, List.filterMap_cons, rejectedSite?]
    cases normalizeMetrikaSite runtime site.2 with
    | error code => simp [Except.toOption]
    | ok host => simp [Except.toOption]

theorem foldl_counters (counters : List YandexMetrikaCounter)
    (read : SourcesByHostname × List RejectedMetrikaSite) :
    counters.foldl (fun read counter =>
        (counterSites counter).foldl (readSite runtime counter) read) read =
      ((allSources runtime counters).foldl placeSource read.1,
      read.2 ++ counters.flatMap fun counter =>
        (counterSites counter).filterMap (rejectedSite? runtime counter)) := by
  induction counters generalizing read with
  | nil => simp [allSources]
  | cons counter rest ih =>
    rw [List.foldl_cons, ih, foldl_readSite]
    simp [allSources, counterSources, List.foldl_append]

theorem mem_allSources {counters : List YandexMetrikaCounter}
    {source : ExternalAssetSourceObservation} :
    source ∈ allSources runtime counters ↔
      ∃ counter ∈ counters, ∃ site ∈ counterSites counter, ∃ host,
        normalizeMetrikaSite runtime site.2 = .ok host ∧ source = observation counter site.1 host := by
  simp only [allSources, counterSources, List.mem_flatMap, List.mem_filterMap,
    Option.map_eq_some_iff]
  constructor
  · rintro ⟨counter, hcounter, site, hsite, host, hhost, rfl⟩
    refine ⟨counter, hcounter, site, hsite, host, ?_, rfl⟩
    cases hnormal : normalizeMetrikaSite runtime site.2 with
    | error code => simp [hnormal, Except.toOption] at hhost
    | ok found =>
      rw [hnormal] at hhost
      rw [Option.some.inj hhost]
  · rintro ⟨counter, hcounter, site, hsite, host, hhost, rfl⟩
    exact ⟨counter, hcounter, site, hsite, host, by rw [hhost]; rfl, rfl⟩

theorem externalId_injective {first second : YandexMetrikaCounter}
    (h : String.ofList (Nat.toDigits 10 first.id) = String.ofList (Nat.toDigits 10 second.id)) :
    first.id = second.id := by
  have hdigits := congrArg (Numeral.value 10) (String.ofList_injective h)
  rwa [Numeral.value_toDigits (by omega) (by omega),
    Numeral.value_toDigits (by omega) (by omega)] at hdigits

theorem sourceKey_injective {counters : List YandexMetrikaCounter}
    (hdistinct : (counters.map (·.id)).Nodup) {a b : ExternalAssetSourceObservation}
    (ha : a ∈ allSources runtime counters) (hb : b ∈ allSources runtime counters)
    (h : sourceKey a = sourceKey b) : a = b := by
  obtain ⟨first, hfirst, _, -, _, -, rfl⟩ := mem_allSources.mp ha
  obtain ⟨second, hsecond, _, -, _, -, rfl⟩ := mem_allSources.mp hb
  simp only [sourceKey, observation, Prod.mk.injEq] at h
  have hcounter : first = second :=
    List.inj_on_of_nodup_map hdistinct hfirst hsecond (externalId_injective h.1)
  rw [hcounter, h.2.1, h.2.2]

/-! ### The order of the candidates -/

theorem not_colon_of_toDigits (n : Nat) : ':' ∉ Nat.toDigits 10 n := by
  intro h
  exact absurd (Numeral.isDigit_of_mem_toDigits (by omega) (by omega) n ':' h) (by decide)

theorem sourceSortKey_toList (source : ExternalAssetSourceObservation) :
    (sourceSortKey source).toList =
      source.externalId.toList ++ ':' :: source.sourceRole.text.toList := by
  simp [sourceSortKey]

theorem externalId_toList {counters : List YandexMetrikaCounter}
    {source : ExternalAssetSourceObservation} (h : source ∈ allSources runtime counters) :
    ∃ n, source.externalId.toList = Nat.toDigits 10 n := by
  obtain ⟨counter, -, _, -, _, -, rfl⟩ := mem_allSources.mp h
  exact ⟨counter.id, String.toList_ofList⟩

theorem printable_sourceSortKey {counters : List YandexMetrikaCounter}
    {source : ExternalAssetSourceObservation} (h : source ∈ allSources runtime counters) :
    ∀ c ∈ (sourceSortKey source).toList, Printable c := by
  obtain ⟨n, hdigits⟩ := externalId_toList h
  intro c hc
  rw [sourceSortKey_toList, hdigits, List.mem_append, List.mem_cons] at hc
  rcases hc with hdigit | rfl | hrole
  · obtain ⟨hlow, hhigh⟩ := Numeral.toNat_of_isDigit_ten
      (Numeral.isDigit_of_mem_toDigits (by omega) (by omega) n c hdigit)
    exact ⟨by omega, by omega⟩
  · decide
  · have hall : ∀ role : ExternalSourceRole,
        role.text.toList.all (fun c => decide (Printable c)) = true := by
      intro role
      cases role <;> decide
    exact of_decide_eq_true (List.all_eq_true.mp (hall _) c hrole)

theorem printable_canonicalHostname {counters : List YandexMetrikaCounter}
    {source : ExternalAssetSourceObservation} (h : source ∈ allSources runtime counters) :
    ∀ c ∈ source.canonicalHostname.toList, Printable c := by
  obtain ⟨_, -, _, -, host, hhost, rfl⟩ := mem_allSources.mp h
  exact fun c hc => printable_of_isHostChar (isHostChar_of_mem (normalizeMetrikaSite_ok hhost) hc)

theorem sourceSortKey_injective {counters : List YandexMetrikaCounter}
    (hdistinct : (counters.map (·.id)).Nodup) {a b : ExternalAssetSourceObservation}
    (ha : a ∈ allSources runtime counters) (hb : b ∈ allSources runtime counters)
    (hhost : a.canonicalHostname = b.canonicalHostname) (h : sourceSortKey a = sourceSortKey b) :
    a = b := by
  obtain ⟨n, hn⟩ := externalId_toList ha
  obtain ⟨m, hm⟩ := externalId_toList hb
  have hroleText : ∀ role : ExternalSourceRole, ':' ∉ role.text.toList := by
    intro role
    cases role <;> decide
  have hlists := congrArg String.toList h
  rw [sourceSortKey_toList, sourceSortKey_toList, hn, hm,
    List.append_cons_inj_of_notMem (not_colon_of_toDigits n) (hroleText _)] at hlists
  have hid : a.externalId = b.externalId := by
    apply String.toList_injective
    rw [hn, hm, hlists.1]
  have hrole : a.sourceRole = b.sourceRole := by
    have htext := hlists.2.2
    revert htext
    cases a.sourceRole <;> cases b.sourceRole <;> decide
  apply sourceKey_injective hdistinct ha hb
  rw [sourceKey, sourceKey, hid, hrole, hhost]

/-- The candidates are computed from the sources alone, in whatever order they came. -/
theorem createMetrikaAssetCandidates_eq {counters : List YandexMetrikaCounter}
    (hdistinct : (counters.map (·.id)).Nodup) :
    createMetrikaAssetCandidates runtime counters =
      { candidates :=
          (((allSources runtime counters).map (·.canonicalHostname)).dedup.mergeSort
              runtime.localeLe).map fun host =>
            { canonicalHostname := host
              sources := (((allSources runtime counters).filter fun source =>
                source.canonicalHostname = host).dedup).mergeSort fun left right =>
                  runtime.localeLe (sourceSortKey left) (sourceSortKey right) }
        rejectedSites := counters.flatMap fun counter =>
          (counterSites counter).filterMap (rejectedSite? runtime counter) } := by
  have hgrouped : Grouping.Grouped (·.canonicalHostname) sourceKey (allSources runtime counters)
      ((allSources runtime counters).foldl placeSource []) :=
    Grouping.grouped_foldl _ Grouping.Grouped.nil
  have hkeys : ∀ a ∈ allSources runtime counters, ∀ b ∈ allSources runtime counters,
      a.canonicalHostname = b.canonicalHostname → sourceKey a = sourceKey b → a = b :=
    fun a ha b hb _ hkey => sourceKey_injective hdistinct ha hb hkey
  rw [createMetrikaAssetCandidates, foldl_counters]
  simp only [List.nil_append]
  rw [hgrouped.arranged hkeys runtime.locale_trans runtime.locale_total ?keyAnti ?trans ?total ?anti
    fun host sources => { canonicalHostname := host, sources : AssetCandidateDraft }]
  case keyAnti =>
    intro first hfirst second hsecond hab hba
    obtain ⟨a, ha, rfl⟩ := List.mem_map.mp hfirst
    obtain ⟨b, hb, rfl⟩ := List.mem_map.mp hsecond
    exact runtime.locale_antisymm _ _ (printable_canonicalHostname ha)
      (printable_canonicalHostname hb) hab hba
  case trans => exact fun _ _ _ => runtime.locale_trans _ _ _
  case total => exact fun _ _ => runtime.locale_total _ _
  case anti =>
    intro a ha b hb hhost hab hba
    exact sourceSortKey_injective hdistinct ha hb hhost
      (runtime.locale_antisymm _ _ (printable_sourceSortKey ha) (printable_sourceSortKey hb) hab hba)

end Placed

end Outscan

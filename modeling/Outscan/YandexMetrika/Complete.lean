import Mathlib.Data.String.Basic
import Outscan.YandexMetrika.Candidates
import Outscan.YandexMetrika.Import

/-! An import is complete and without duplicates, and so are the candidates made of it. -/
namespace Outscan

open Dialogue

section Candidates

variable {runtime : MetrikaRuntime} {counters : List YandexMetrikaCounter}

theorem allSources_perm {counters' : List YandexMetrikaCounter} (h : counters'.Perm counters) :
    (allSources runtime counters').Perm (allSources runtime counters) :=
  h.flatMap_right _

theorem candidates_perm (hdistinct : (counters.map (·.id)).Nodup)
    {counters' : List YandexMetrikaCounter} (h : counters'.Perm counters) :
    (createMetrikaAssetCandidates runtime counters').candidates =
      (createMetrikaAssetCandidates runtime counters).candidates := by
  have hdistinct' : (counters'.map (·.id)).Nodup := (h.map _).nodup_iff.mpr hdistinct
  have hsources : (allSources runtime counters').Perm (allSources runtime counters) :=
    allSources_perm h
  rw [createMetrikaAssetCandidates_eq hdistinct, createMetrikaAssetCandidates_eq hdistinct']
  have hhosts : ((allSources runtime counters').map (·.canonicalHostname)).dedup.mergeSort
        runtime.localeLe =
      ((allSources runtime counters).map (·.canonicalHostname)).dedup.mergeSort
        runtime.localeLe := by
    apply Unordered.mergeSort_eq_of_perm runtime.locale_trans runtime.locale_total _
      (hsources.map _).dedup
    intro first second hfirst hsecond
    obtain ⟨a, ha, rfl⟩ := List.mem_map.mp (List.mem_dedup.mp hfirst)
    obtain ⟨b, hb, rfl⟩ := List.mem_map.mp (List.mem_dedup.mp hsecond)
    exact runtime.locale_antisymm _ _ (printable_canonicalHostname ha)
      (printable_canonicalHostname hb)
  dsimp only
  rw [hhosts]
  apply List.map_congr_left
  intro host _
  congr 1
  apply Unordered.mergeSort_eq_of_perm
  case htrans => exact fun _ _ _ => runtime.locale_trans _ _ _
  case htotal => exact fun _ _ => runtime.locale_total _ _
  case h => exact (hsources.filter _).dedup
  case hanti =>
    intro a b ha hb hab hba
    obtain ⟨ha, haHost⟩ := List.mem_filter.mp (List.mem_dedup.mp ha)
    obtain ⟨hb, hbHost⟩ := List.mem_filter.mp (List.mem_dedup.mp hb)
    apply sourceSortKey_injective hdistinct' ha hb
    · rw [of_decide_eq_true haHost, of_decide_eq_true hbHost]
    · exact runtime.locale_antisymm _ _ (printable_sourceSortKey ha) (printable_sourceSortKey hb)
        hab hba

theorem mem_candidates (hdistinct : (counters.map (·.id)).Nodup) {candidate : AssetCandidateDraft}
    (h : candidate ∈ (createMetrikaAssetCandidates runtime counters).candidates)
    {source : ExternalAssetSourceObservation} :
    source ∈ candidate.sources ↔ source ∈ allSources runtime counters ∧
      source.canonicalHostname = candidate.canonicalHostname := by
  rw [createMetrikaAssetCandidates_eq hdistinct] at h
  obtain ⟨host, -, rfl⟩ := List.mem_map.mp h
  simp

theorem candidate_of_source (hdistinct : (counters.map (·.id)).Nodup)
    {source : ExternalAssetSourceObservation} (h : source ∈ allSources runtime counters) :
    ∃ candidate ∈ (createMetrikaAssetCandidates runtime counters).candidates,
      candidate.canonicalHostname = source.canonicalHostname ∧ source ∈ candidate.sources := by
  have hhost : source.canonicalHostname ∈
      (((allSources runtime counters).map (·.canonicalHostname)).dedup.mergeSort
        runtime.localeLe) := by
    rw [List.mem_mergeSort, List.mem_dedup]
    exact List.mem_map_of_mem h
  rw [createMetrikaAssetCandidates_eq hdistinct]
  refine ⟨_, List.mem_map_of_mem hhost, rfl, ?_⟩
  simp [h]

theorem candidates_distinct (hdistinct : (counters.map (·.id)).Nodup) :
    ((createMetrikaAssetCandidates runtime counters).candidates.map
      (·.canonicalHostname)).Nodup := by
  rw [createMetrikaAssetCandidates_eq hdistinct]
  simp only [List.map_map, Function.comp_def, List.map_id']
  exact (List.mergeSort_perm _ _).nodup_iff.mpr (List.nodup_dedup _)

theorem sources_distinct (hdistinct : (counters.map (·.id)).Nodup) :
    (((createMetrikaAssetCandidates runtime counters).candidates.flatMap
      (·.sources)).map sourceKey).Nodup := by
  apply List.Nodup.map_on
  · intro a ha b hb hkey
    obtain ⟨first, hfirst, ha⟩ := List.mem_flatMap.mp ha
    obtain ⟨second, hsecond, hb⟩ := List.mem_flatMap.mp hb
    exact sourceKey_injective hdistinct ((mem_candidates hdistinct hfirst).mp ha).1
      ((mem_candidates hdistinct hsecond).mp hb).1 hkey
  · rw [List.nodup_flatMap]
    constructor
    · intro candidate hcandidate
      rw [createMetrikaAssetCandidates_eq hdistinct] at hcandidate
      obtain ⟨host, -, rfl⟩ := List.mem_map.mp hcandidate
      exact (List.mergeSort_perm _ _).nodup_iff.mpr (List.nodup_dedup _)
    · apply List.Pairwise.imp_of_mem _ (List.pairwise_map.mp (candidates_distinct hdistinct))
      intro first second hfirst hsecond hne source ha hb
      exact hne (((mem_candidates hdistinct hfirst).mp ha).2.symm.trans
        ((mem_candidates hdistinct hsecond).mp hb).2)

end Candidates

/-! ### The import -/

def validEntries (served : Json.Value × YandexMetrikaCounterPage) : List YandexMetrikaCounter :=
  ((pageEntries served.1).getD []).filterMap parseCounter

theorem served_parsed {exchanges : List MetrikaExchange}
    {served : Json.Value × YandexMetrikaCounterPage} (h : served ∈ servedPages exchanges) :
    served.2.counters = validEntries served ∧
      served.2.receivedCount = ((pageEntries served.1).getD []).length ∧
      pageRows served.1 = some (served.2.rows : Int) := by
  obtain ⟨exchange, -, hexchange⟩ := List.mem_filterMap.mp h
  obtain ⟨_, hparsed⟩ := servedPage?_parsed hexchange
  obtain ⟨entries, hentries, hrows, hcounters, hreceived, -, -⟩ :=
    parseYandexMetrikaCounterPage_eq_some hparsed
  rw [validEntries, hentries]
  exact ⟨hcounters, hreceived, hrows⟩

theorem sum_counted {pages : List YandexMetrikaCounterPage}
    (h : ∀ page ∈ pages, page.counters.length + page.rejectedCount = page.receivedCount) :
    (pages.flatMap (·.counters)).length + (pages.map (·.rejectedCount)).sum =
      (pages.map (·.receivedCount)).sum := by
  induction pages with
  | nil => rfl
  | cons page rest ih =>
    obtain ⟨hpage, hrest⟩ := List.forall_mem_cons.mp h
    have hsum := ih hrest
    simp only [List.flatMap_cons, List.length_append, List.map_cons, List.sum_cons]
    omega

/-- What an import that succeeds has imported. -/
theorem import_complete {dependencies : ClientDependencies} {exchanges : List MetrikaExchange}
    {result : Except YandexMetrikaError YandexMetrikaCounterSnapshot}
    (h : ImportRun dependencies maxPages .start [] exchanges result)
    {snapshot : YandexMetrikaCounterSnapshot} (hresult : result = .ok snapshot) :
    (snapshot.counters.map (·.id)).Nodup ∧
      snapshot.counters.length + snapshot.rejectedCount = snapshot.rows ∧
      snapshot.counters = (servedPages exchanges).flatMap validEntries ∧
      snapshot.pagesFetched = (servedPages exchanges).length ∧
      ∀ served ∈ servedPages exchanges, pageRows served.1 = some (snapshot.rows : Int) := by
  obtain ⟨last, rfl, hafter, hrows⟩ := h.complete snapshot hresult
  rw [List.nil_append] at hafter
  have hcounters : last.counters = (servedPages exchanges).flatMap validEntries := by
    rw [hafter.counters, List.flatMap_map]
    exact List.flatMap_congr fun served hserved => (served_parsed hserved).1
  have hcounted : ∀ page ∈ (servedPages exchanges).map Prod.snd,
      page.counters.length + page.rejectedCount = page.receivedCount := by
    intro page hpage
    obtain ⟨served, hserved, rfl⟩ := List.mem_map.mp hpage
    exact counted_of_served hserved
  have hsum := sum_counted hcounted
  have hsnapshot : last.snapshot.rows = last.receivedCount := by
    rw [ImportState.snapshot, hrows, Option.getD_some]
  refine ⟨hafter.distinct, ?_, hcounters, ?_, ?_⟩
  · rw [hsnapshot, hafter.received, ← hsum, ← hafter.counters, ← hafter.rejected]
    rfl
  · exact hafter.fetched.trans (List.length_map _)
  · intro served hserved
    have hexpected := hafter.rows served.2 (List.mem_map_of_mem hserved)
    rw [hrows] at hexpected
    rw [(served_parsed hserved).2.2, hsnapshot, Option.some.inj hexpected]

/-- Against any upstream: no more than a hundred pages, each asked for just past what was
received; if it ends well, all rows, each once; and from them the same candidates in any
order of the counters, each source once and under its own host. -/
theorem counter_import (runtime : MetrikaRuntime) (options : YandexMetrikaClientOptions)
    (answer : List MetrikaExchange → (call : MetrikaCall) → call.Answer) :
    let run := converse answer [] (fetchAllYandexMetrikaCounters options)
    AskedInOrder 0 run.1 ∧
    (servedPages run.1).length ≤ 100 ∧ fetchCount run.1 ≤ 100 * 5 ∧
    (∀ served ∈ servedPages run.1,
      served.2.receivedCount = ((pageEntries served.1).getD []).length) ∧
    ∀ snapshot, run.2 = .ok snapshot →
      (snapshot.counters.map (·.id)).Nodup ∧
      snapshot.counters.length + snapshot.rejectedCount = snapshot.rows ∧
      snapshot.counters = (servedPages run.1).flatMap validEntries ∧
      snapshot.pagesFetched = (servedPages run.1).length ∧
      (∀ served ∈ servedPages run.1, pageRows served.1 = some (snapshot.rows : Int)) ∧
      ∀ counters : List YandexMetrikaCounter, counters.Perm snapshot.counters →
        let result := createMetrikaAssetCandidates runtime counters
        result.candidates =
          (createMetrikaAssetCandidates runtime snapshot.counters).candidates ∧
        (result.candidates.map (·.canonicalHostname)).Nodup ∧
        ((result.candidates.flatMap (·.sources)).map sourceKey).Nodup ∧
        (∀ candidate ∈ result.candidates, ∀ source ∈ candidate.sources,
          source.canonicalHostname = candidate.canonicalHostname ∧
          ∃ counter ∈ counters, ∃ site ∈ counterSites counter,
            normalizeMetrikaSite runtime site.2 = .ok source.canonicalHostname ∧
            source = observation counter site.1 source.canonicalHostname) ∧
        (∀ counter ∈ counters, ∀ site ∈ counterSites counter, ∀ host,
          normalizeMetrikaSite runtime site.2 = .ok host →
          ∃ candidate ∈ result.candidates, candidate.canonicalHostname = host ∧
            observation counter site.1 host ∈ candidate.sources) ∧
        result.rejectedSites = counters.flatMap fun counter =>
          (counterSites counter).filterMap (rejectedSite? runtime counter) := by
  intro run
  have hplays : Plays (fetchAllYandexMetrikaCounters options) run.1 (some run.2) :=
    plays_converse answer [] _
  have hrun : ∃ dependencies : ClientDependencies, dependencies.maxAttempts ≤ 5 ∧
      ImportRun dependencies maxPages .start [] run.1 run.2 := by
    unfold fetchAllYandexMetrikaCounters at hplays
    split at hplays
    · obtain ⟨hexchanges, hresult⟩ := plays_pure.mp hplays
      rw [hexchanges, hresult]
      exact ⟨⟨10000, 3⟩, by decide, importRun_failed _⟩
    · next dependencies hoptions =>
      exact ⟨dependencies, maxAttempts_le hoptions, importRun_of_plays after_start hplays⟩
  obtain ⟨dependencies, hattempts, hrun⟩ := hrun
  refine ⟨hrun.asked, hrun.served, hrun.count.trans (Nat.mul_le_mul_left _ hattempts),
    fun served hserved => (served_parsed hserved).2.1, ?_⟩
  intro snapshot hsnapshot
  obtain ⟨hdistinct, hcount, hcounters, hfetched, hrows⟩ := import_complete hrun hsnapshot
  refine ⟨hdistinct, hcount, hcounters, hfetched, hrows, ?_⟩
  intro counters hperm result
  have hdistinct' : (counters.map (·.id)).Nodup := (hperm.map _).nodup_iff.mpr hdistinct
  refine ⟨candidates_perm hdistinct hperm, candidates_distinct hdistinct',
    sources_distinct hdistinct', ?_, ?_, ?_⟩
  · intro candidate hcandidate source hsource
    obtain ⟨hmem, hhost⟩ := (mem_candidates hdistinct' hcandidate).mp hsource
    refine ⟨hhost, ?_⟩
    obtain ⟨counter, hcounter, site, hsite, host, hnormal, rfl⟩ := mem_allSources.mp hmem
    exact ⟨counter, hcounter, site, hsite, hnormal, rfl⟩
  · intro counter hcounter site hsite host hnormal
    exact candidate_of_source hdistinct'
      (mem_allSources.mpr ⟨counter, hcounter, site, hsite, host, hnormal, rfl⟩)
  · exact congrArg (·.rejectedSites) (createMetrikaAssetCandidates_eq hdistinct')

def samplePageText : String :=
  "\x7b\"counters\":[\x7b\"id\":7,\"name\":\"Shop\",\"owner_login\":\"owner\",\"permission\":\"view\"," ++
    "\"status\":\"Active\",\"source\":\"\",\"site2\":\x7b\"site\":\"shop-7.ru\"\x7d," ++
    "\"mirrors2\":[\x7b\"site\":\"ftp://shop-7.ru\"\x7d]\x7d,\x7b\"id\":-1\x7d],\"rows\":2\x7d"

def sampleUpstream (_ : List MetrikaExchange) : (call : MetrikaCall) → call.Answer
  | .aborted => false
  | .fetch .. => some
    { status := 200, retryAfter := none, contentLength := none
      body := some
        { chunks := [Json.bytesOf (Json.units samplePageText)], fails := false, cancelFails := false } }
  | .random => some 0
  | .sleep _ => true

theorem sampleLocale_trans (a b c : String) (hab : decide (a ≤ b) = true)
    (hbc : decide (b ≤ c) = true) : decide (a ≤ c) = true :=
  decide_eq_true (le_trans (of_decide_eq_true hab) (of_decide_eq_true hbc))

theorem sampleLocale_total (a b : String) : (decide (a ≤ b) || decide (b ≤ a)) = true := by
  simpa using le_total a b

def sampleMetrikaRuntime : MetrikaRuntime where
  node := sampleNodeRuntime
  parseUrl source :=
    if source = Json.units "https://shop-7.ru" then some ⟨"https:", "", "", "shop-7.ru"⟩ else none
  parseDomain host :=
    if host = "shop-7.ru" then ⟨some "shop-7.ru", some true, some false, some false⟩
    else ⟨none, none, none, none⟩
  localeLe left right := decide (left ≤ right)
  locale_trans := sampleLocale_trans
  locale_total := sampleLocale_total
  locale_antisymm _ _ _ _ hab hba := le_antisymm (of_decide_eq_true hab) (of_decide_eq_true hba)

def sampleCounter : YandexMetrikaCounter :=
  { id := 7, name := Json.units "Shop", ownerLogin := Json.units "owner", permission := .view
    status := Json.units "Active", source := [], primarySite := some (Json.units "shop-7.ru")
    mirrors := [Json.units "ftp://shop-7.ru"] }

def sampleOptions : YandexMetrikaClientOptions :=
  { accessToken := "AAAAAAAAAAAAAAAAAAAAAAAA", requestTimeoutMs := none, maxAttempts := none }

theorem counter_import_sample :
    (createMetrikaAssetCandidates sampleMetrikaRuntime [sampleCounter]).rejectedSites =
      [{ counterId := 7, sourceRole := .mirror, code := .unsupportedScheme }] ∧
    ∃ candidate ∈ (createMetrikaAssetCandidates sampleMetrikaRuntime [sampleCounter]).candidates,
      candidate.canonicalHostname = "shop-7.ru" := by
  have hok : (converse sampleUpstream [] (fetchAllYandexMetrikaCounters sampleOptions)).2 =
      .ok { counters := [sampleCounter], rows := 2, rejectedCount := 1, pagesFetched := 1 } := by
    decide +kernel
  have himport := (counter_import sampleMetrikaRuntime sampleOptions sampleUpstream).2.2.2.2 _ hok
  obtain ⟨-, -, -, -, hnamed, hrejected⟩ := himport.2.2.2.2.2 [sampleCounter] (.refl _)
  constructor
  · rw [hrejected]
    decide +kernel
  · obtain ⟨candidate, hcandidate, hhost, -⟩ := hnamed sampleCounter (List.mem_singleton_self _)
      (.primarySite, Json.units "shop-7.ru") (by decide +kernel) "shop-7.ru" (by decide +kernel)
    exact ⟨candidate, hcandidate, hhost⟩

end Outscan

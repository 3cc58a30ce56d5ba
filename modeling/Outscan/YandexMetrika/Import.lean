import Outscan.YandexMetrika.Attempts

/-! The import of all counters, page after page. -/
namespace Outscan

open Dialogue

structure YandexMetrikaCounterSnapshot where
  counters : List YandexMetrikaCounter
  rows : Nat
  rejectedCount : Nat
  pagesFetched : Nat
deriving DecidableEq, Repr

/-- The variables of the loop. The identifiers seen are those of the counters. -/
structure ImportState where
  counters : List YandexMetrikaCounter
  expectedRows : Option Nat
  rejectedCount : Nat
  receivedCount : Nat
  pagesFetched : Nat

def ImportState.start : ImportState := ⟨[], none, 0, 0, 0⟩

def ImportState.snapshot (state : ImportState) : YandexMetrikaCounterSnapshot :=
  { counters := state.counters
    rows := state.expectedRows.getD 0
    rejectedCount := state.rejectedCount
    pagesFetched := state.pagesFetched }

def pushCounters (counters : List YandexMetrikaCounter) :
    List YandexMetrikaCounter → Option (List YandexMetrikaCounter)
  | [] => some counters
  | counter :: rest =>
    if counter.id ∈ counters.map (·.id) then none else pushCounters (counters ++ [counter]) rest

inductive PageOutcome where
  | inconsistent
  | stop (state : ImportState)
  | next (state : ImportState)

def acceptPage (state : ImportState) (page : YandexMetrikaCounterPage) : PageOutcome :=
  let expectedRows := state.expectedRows.getD page.rows
  let counted :=
    { state with expectedRows := some expectedRows, pagesFetched := state.pagesFetched + 1 }
  if page.rows ≠ expectedRows ∨ page.receivedCount = 0 then
    if expectedRows = 0 ∧ page.receivedCount = 0 then .stop counted else .inconsistent
  else if state.receivedCount + page.receivedCount > expectedRows then .inconsistent
  else
    match pushCounters state.counters page.counters with
    | none => .inconsistent
    | some counters =>
      .next
        { counted with
          counters
          receivedCount := state.receivedCount + page.receivedCount
          rejectedCount := state.rejectedCount + page.rejectedCount }

def importPages (dependencies : ClientDependencies) (pagesLeft : Nat) (state : ImportState) :
    MetrikaDialogue (Except YandexMetrikaError YandexMetrikaCounterSnapshot) :=
  if state.expectedRows.all (decide <| state.receivedCount < ·) then
    match pagesLeft with
    | 0 => pure (.error .paginationInconsistent)
    | pagesLeft + 1 => do
      match ← fetchPage dependencies (state.receivedCount + 1) with
      | .error error => pure (.error error)
      | .ok page =>
        match acceptPage state page with
        | .inconsistent => pure (.error .paginationInconsistent)
        | .stop state => pure (.ok state.snapshot)
        | .next state => importPages dependencies pagesLeft state
  else pure (.ok state.snapshot)

def fetchAllYandexMetrikaCounters (options : YandexMetrikaClientOptions) :
    MetrikaDialogue (Except YandexMetrikaError YandexMetrikaCounterSnapshot) :=
  match snapshotOptions options with
  | none => pure (.error .invalidConfiguration)
  | some dependencies => importPages dependencies maxPages .start

/-! ### What the loop keeps -/

structure ImportState.After (pages : List YandexMetrikaCounterPage) (state : ImportState) : Prop where
  counters : state.counters = pages.flatMap (·.counters)
  distinct : (state.counters.map (·.id)).Nodup
  received : state.receivedCount = (pages.map (·.receivedCount)).sum
  rejected : state.rejectedCount = (pages.map (·.rejectedCount)).sum
  fetched : state.pagesFetched = pages.length
  rows : ∀ page ∈ pages, state.expectedRows = some page.rows
  within : ∀ rows ∈ state.expectedRows, state.receivedCount ≤ rows

theorem after_start : ImportState.start.After [] :=
  ⟨rfl, List.nodup_nil, rfl, rfl, rfl, by simp, by simp [ImportState.start]⟩

theorem pushCounters_eq_some {counters added result : List YandexMetrikaCounter}
    (h : pushCounters counters added = some result) (hdistinct : (counters.map (·.id)).Nodup) :
    result = counters ++ added ∧ (result.map (·.id)).Nodup := by
  induction added generalizing counters with
  | nil =>
    cases h
    exact ⟨(List.append_nil _).symm, hdistinct⟩
  | cons counter rest ih =>
    rw [pushCounters] at h
    split at h
    · cases h
    · next hnew =>
      have hall : ((counters ++ [counter]).map (·.id)).Nodup := by
        simpa using List.Nodup.concat hnew hdistinct
      have hrest := ih h hall
      rwa [List.append_assoc] at hrest

section

variable {state next : ImportState} {pages : List YandexMetrikaCounterPage}
  {page : YandexMetrikaCounterPage}

theorem ImportState.After.rows_append (h : state.After pages) :
    ∀ earlier ∈ pages, some (state.expectedRows.getD page.rows) = some earlier.rows := by
  intro earlier hearlier
  rw [h.rows earlier hearlier, Option.getD_some]

theorem after_next (h : state.After pages) (hnext : acceptPage state page = .next next) :
    next.After (pages ++ [page]) ∧
      next.receivedCount = state.receivedCount + page.receivedCount := by
  unfold acceptPage at hnext
  dsimp only at hnext
  split at hnext
  · split at hnext <;> cases hnext
  next hpage =>
  split at hnext
  · cases hnext
  next hwithin =>
  split at hnext
  · cases hnext
  next counters hpush =>
  cases hnext
  obtain ⟨hcounters, hdistinct⟩ := pushCounters_eq_some hpush h.distinct
  have hrows : page.rows = state.expectedRows.getD page.rows :=
    not_not.mp (not_or.mp hpage).1
  refine ⟨⟨?_, hdistinct, ?_, ?_, ?_, ?_, ?_⟩, rfl⟩
  · simp [hcounters, h.counters]
  · simp [h.received]
  · simp [h.rejected]
  · simp [h.fetched]
  · intro earlier hearlier
    rcases List.mem_append.mp hearlier with hold | hnew
    · exact h.rows_append earlier hold
    · rw [List.mem_singleton.mp hnew, ← hrows]
  · intro rows hsome
    cases hsome
    exact Nat.le_of_not_lt hwithin

theorem after_stop (h : state.After pages)
    (hopen : state.expectedRows.all (decide <| state.receivedCount < ·) = true)
    (hpage : page.counters.length + page.rejectedCount = page.receivedCount)
    (hstop : acceptPage state page = .stop next) :
    next.After (pages ++ [page]) ∧ next.expectedRows = some next.receivedCount := by
  unfold acceptPage at hstop
  dsimp only at hstop
  split at hstop
  case isFalse =>
    split at hstop
    · cases hstop
    · split at hstop <;> cases hstop
  split at hstop
  case isFalse => cases hstop
  next hzero =>
  cases hstop
  have hnone : state.expectedRows = none := by
    cases hrows : state.expectedRows with
    | none => rfl
    | some rows => simp_all
  have hpages : pages = [] := by
    cases pages with
    | nil => rfl
    | cons first rest =>
      have hfirst := h.rows first List.mem_cons_self
      rw [hnone] at hfirst
      cases hfirst
  subst hpages
  have hcounters : page.counters = [] := List.length_eq_zero_iff.mp (by omega)
  have hrejected : page.rejectedCount = 0 := by omega
  have hreceived : state.receivedCount = 0 := h.received
  rw [hnone, Option.getD_none] at hzero
  refine ⟨⟨?_, h.distinct, ?_, ?_, ?_, ?_, ?_⟩, ?_⟩
  · simp [h.counters, hcounters]
  · simp [hreceived, hzero.2]
  · simp [h.rejected, hrejected]
  · simp [h.fetched]
  · simp [hnone]
  · simp [hreceived]
  · simp [hnone, hzero.1, hreceived]

end

/-! ### Runs -/

structure ImportRun (dependencies : ClientDependencies) (pagesLeft : Nat) (state : ImportState)
    (pages : List YandexMetrikaCounterPage) (exchanges : List MetrikaExchange)
    (result : Except YandexMetrikaError YandexMetrikaCounterSnapshot) : Prop where
  asked : AskedInOrder state.receivedCount exchanges
  count : fetchCount exchanges ≤ pagesLeft * dependencies.maxAttempts
  served : (servedPages exchanges).length ≤ pagesLeft
  complete : ∀ snapshot, result = .ok snapshot → ∃ last : ImportState,
    snapshot = last.snapshot ∧ last.After (pages ++ (servedPages exchanges).map Prod.snd) ∧
      last.expectedRows = some last.receivedCount

theorem fetchCount_append (first second : List MetrikaExchange) :
    fetchCount (first ++ second) = fetchCount first + fetchCount second := by
  simp [fetchCount]

theorem servedPages_append (first second : List MetrikaExchange) :
    servedPages (first ++ second) = servedPages first ++ servedPages second :=
  List.filterMap_append

section

variable {dependencies : ClientDependencies} {pagesLeft : Nat} {state : ImportState}
  {pages : List YandexMetrikaCounterPage}

theorem importRun_failed (error : YandexMetrikaError) :
    ImportRun dependencies pagesLeft state pages [] (.error error) :=
  ⟨trivial, Nat.zero_le _, Nat.zero_le _, fun _ h => by cases h⟩

theorem importRun_closed (h : state.After pages)
    (hclosed : ¬ state.expectedRows.all (decide <| state.receivedCount < ·) = true) :
    ImportRun dependencies pagesLeft state pages [] (.ok state.snapshot) := by
  refine ⟨trivial, Nat.zero_le _, Nat.zero_le _, fun snapshot hsnapshot => ?_⟩
  cases hsnapshot
  refine ⟨state, rfl, by simpa [servedPages] using h, ?_⟩
  cases hrows : state.expectedRows with
  | none => simp [hrows] at hclosed
  | some rows =>
    have hle : state.receivedCount ≤ rows := h.within rows hrows
    have hge : ¬ state.receivedCount < rows := by simpa [hrows] using hclosed
    rw [Nat.le_antisymm hle (Nat.le_of_not_lt hge)]

theorem counted_of_served {exchanges : List MetrikaExchange}
    {served : Json.Value × YandexMetrikaCounterPage} (h : served ∈ servedPages exchanges) :
    served.2.counters.length + served.2.rejectedCount = served.2.receivedCount := by
  obtain ⟨exchange, -, hexchange⟩ := List.mem_filterMap.mp h
  obtain ⟨_, hparsed⟩ := servedPage?_parsed hexchange
  obtain ⟨_, -, -, -, hreceived, hcount, -⟩ := parseYandexMetrikaCounterPage_eq_some hparsed
  exact hcount.trans hreceived.symm

theorem importRun_last {first : List MetrikaExchange}
    {fetched : Except YandexMetrikaError YandexMetrikaCounterPage}
    (hattempts : AttemptRun state.receivedCount dependencies.maxAttempts first fetched)
    {result : Except YandexMetrikaError YandexMetrikaCounterSnapshot}
    (hcomplete : ∀ snapshot, result = .ok snapshot → ∃ last : ImportState,
      snapshot = last.snapshot ∧ last.After (pages ++ fetched.toOption.toList) ∧
        last.expectedRows = some last.receivedCount) :
    ImportRun dependencies (pagesLeft + 1) state pages (first ++ []) result := by
  have hserved := congrArg List.length hattempts.served
  rw [List.length_map] at hserved
  rw [List.append_nil]
  refine ⟨hattempts.asked, ?_, ?_, ?_⟩
  · exact hattempts.count.trans (Nat.le_mul_of_pos_left _ (Nat.succ_pos _))
  · rw [hserved]
    cases fetched <;> simp [Except.toOption]
  · rwa [hattempts.served]

theorem importRun_next {first rest : List MetrikaExchange} {page : YandexMetrikaCounterPage}
    {next : ImportState}
    (hattempts : AttemptRun state.receivedCount dependencies.maxAttempts first (.ok page))
    (hreceived : next.receivedCount = state.receivedCount + page.receivedCount)
    {result : Except YandexMetrikaError YandexMetrikaCounterSnapshot}
    (hrest : ImportRun dependencies pagesLeft next (pages ++ [page]) rest result) :
    ImportRun dependencies (pagesLeft + 1) state pages (first ++ rest) result := by
  have hserved : (servedPages first).map Prod.snd = [page] := hattempts.served
  have hsum : ((servedPages first).map fun served => served.2.receivedCount).sum =
      page.receivedCount := by
    have hmap : ((servedPages first).map fun served => served.2.receivedCount) =
        ((servedPages first).map Prod.snd).map (·.receivedCount) := by
      rw [List.map_map]
      rfl
    rw [hmap, hserved]
    simp
  refine ⟨askedInOrder_append.mpr ⟨hattempts.asked, ?_⟩, ?_, ?_, ?_⟩
  · rw [hsum, ← hreceived]
    exact hrest.asked
  · rw [fetchCount_append, Nat.succ_mul, Nat.add_comm]
    exact Nat.add_le_add hrest.count hattempts.count
  · have hlength := congrArg List.length hserved
    rw [List.length_map, List.length_singleton] at hlength
    rw [servedPages_append, List.length_append, hlength, Nat.add_comm]
    exact Nat.succ_le_succ hrest.served
  · rw [servedPages_append, List.map_append, hserved, ← List.append_assoc]
    exact hrest.complete

end

/-- By induction on the pages that may still be fetched. -/
theorem importRun_of_plays {dependencies : ClientDependencies} {pagesLeft : Nat}
    {state : ImportState} {pages : List YandexMetrikaCounterPage}
    {exchanges : List MetrikaExchange}
    {result : Except YandexMetrikaError YandexMetrikaCounterSnapshot} (hstate : state.After pages)
    (h : Plays (importPages dependencies pagesLeft state) exchanges (some result)) :
    ImportRun dependencies pagesLeft state pages exchanges result := by
  induction pagesLeft generalizing state pages exchanges with
  | zero =>
    rw [importPages] at h
    split at h
    · obtain ⟨rfl, rfl⟩ := plays_pure.mp h
      exact importRun_failed _
    · next hclosed =>
      obtain ⟨rfl, rfl⟩ := plays_pure.mp h
      exact importRun_closed hstate hclosed
  | succ pagesLeft ih =>
    rw [importPages] at h
    split at h
    case isFalse hclosed =>
      obtain ⟨rfl, rfl⟩ := plays_pure.mp h
      exact importRun_closed hstate hclosed
    next hopen =>
    obtain ⟨first, rest, fetched, rfl, hfirst, hrest⟩ := plays_bind.mp h
    have hattempts := attemptRun_of_plays hfirst
    cases fetched with
    | error error =>
      obtain ⟨rfl, rfl⟩ := plays_pure.mp hrest
      exact importRun_last hattempts fun _ h => by cases h
    | ok page =>
      dsimp only at hrest
      cases haccept : acceptPage state page with
      | inconsistent =>
        rw [haccept] at hrest
        obtain ⟨rfl, rfl⟩ := plays_pure.mp hrest
        exact importRun_last hattempts fun _ h => by cases h
      | stop last =>
        rw [haccept] at hrest
        obtain ⟨rfl, rfl⟩ := plays_pure.mp hrest
        apply importRun_last hattempts
        intro snapshot hsnapshot
        cases hsnapshot
        have hpage : page.counters.length + page.rejectedCount = page.receivedCount := by
          have hmem : page ∈ (servedPages first).map Prod.snd := by
            rw [hattempts.served]
            exact List.mem_singleton_self _
          obtain ⟨served, hserved, rfl⟩ := List.mem_map.mp hmem
          exact counted_of_served hserved
        have hlast := after_stop hstate hopen hpage haccept
        exact ⟨last, rfl, hlast.1, hlast.2⟩
      | next next =>
        rw [haccept] at hrest
        have hnext := after_next hstate haccept
        exact importRun_next hattempts hnext.2 (ih hnext.1 hrest)

end Outscan

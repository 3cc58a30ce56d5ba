import Outscan.YandexMetrika.Client

/-! What is asked for a page, and what is served, in any run of its attempts. -/
namespace Outscan

open Dialogue

def fetchOffset? : MetrikaExchange → Option Nat
  | ⟨.fetch offset _, _⟩ => some offset
  | _ => none

def servedPage? : MetrikaExchange → Option (Json.Value × YandexMetrikaCounterPage)
  | ⟨.fetch _ perPage, (answer : Option MetrikaResponse)⟩ => do
    let response ← answer
    guard (response.status = 200)
    let payload ← (readPagePayload response).toOption
    let page ← parseYandexMetrikaCounterPage payload perPage
    some (payload, page)
  | _ => none

def servedPages (exchanges : List MetrikaExchange) :
    List (Json.Value × YandexMetrikaCounterPage) :=
  exchanges.filterMap servedPage?

def fetchCount (exchanges : List MetrikaExchange) : Nat :=
  (exchanges.filterMap fetchOffset?).length

def entryCount (exchange : MetrikaExchange) : Nat :=
  ((servedPage? exchange).map fun served => served.2.receivedCount).getD 0

def AskedInOrder (received : Nat) : List MetrikaExchange → Prop
  | [] => True
  | exchange :: rest =>
    (∀ offset ∈ fetchOffset? exchange, offset = received + 1) ∧
      AskedInOrder (received + entryCount exchange) rest

theorem askedInOrder_append {received : Nat} {first second : List MetrikaExchange} :
    AskedInOrder received (first ++ second) ↔ AskedInOrder received first ∧
      AskedInOrder (received + ((servedPages first).map fun served => served.2.receivedCount).sum)
        second := by
  induction first generalizing received with
  | nil => simp [AskedInOrder, servedPages]
  | cons exchange rest ih =>
    rw [List.cons_append, AskedInOrder, AskedInOrder, ih, and_assoc, Nat.add_assoc]
    unfold servedPages entryCount
    cases hserved : servedPage? exchange <;> simp [hserved]

theorem servedPage?_parsed {exchange : MetrikaExchange}
    {served : Json.Value × YandexMetrikaCounterPage} (h : servedPage? exchange = some served) :
    ∃ perPage, parseYandexMetrikaCounterPage served.1 perPage = some served.2 := by
  obtain ⟨call, answer⟩ := exchange
  cases call with
  | fetch offset perPage =>
    have hserved := Option.bind_eq_some_iff.mp h
    obtain ⟨response, -, hresponse⟩ := hserved
    simp only [Option.bind_eq_bind, Option.bind_eq_some_iff] at hresponse
    obtain ⟨_, -, payload, -, page, hpage, hsome⟩ := hresponse
    cases hsome
    exact ⟨perPage, hpage⟩
  | aborted | random | sleep _ => cases h

/-- A run of at most `left` attempts at a page. -/
structure AttemptRun (received left : Nat) (exchanges : List MetrikaExchange)
    (result : Except YandexMetrikaError YandexMetrikaCounterPage) : Prop where
  asked : AskedInOrder received exchanges
  count : fetchCount exchanges ≤ left
  served : (servedPages exchanges).map Prod.snd = result.toOption.toList

section

variable {received left : Nat} {rest : List MetrikaExchange}
  {result : Except YandexMetrikaError YandexMetrikaCounterPage}

theorem AttemptRun.refused (error : YandexMetrikaError) : AttemptRun received left [] (.error error) :=
  ⟨trivial, Nat.zero_le _, rfl⟩

theorem AttemptRun.quiet {exchange : MetrikaExchange} (hoffset : fetchOffset? exchange = none)
    (hserved : servedPage? exchange = none) (h : AttemptRun received left rest result) :
    AttemptRun received left (exchange :: rest) result := by
  refine ⟨⟨by simp [hoffset], ?_⟩, ?_, ?_⟩
  · simpa [entryCount, hserved] using h.asked
  · simpa [fetchCount, hoffset] using h.count
  · simpa [servedPages, hserved] using h.served

theorem AttemptRun.failed {answer : Option MetrikaResponse}
    (hserved : servedPage? ⟨.fetch (received + 1) perPage, answer⟩ = none)
    (h : AttemptRun received left rest result) :
    AttemptRun received (left + 1) (⟨.fetch (received + 1) perPage, answer⟩ :: rest) result := by
  refine ⟨⟨by simp [fetchOffset?], ?_⟩, ?_, ?_⟩
  · simpa [entryCount, hserved] using h.asked
  · simpa [fetchCount, fetchOffset?] using h.count
  · simpa [servedPages, hserved] using h.served

theorem attemptRun_response {response : MetrikaResponse} (h : response.status = 200) :
    AttemptRun received (left + 1) [⟨.fetch (received + 1) perPage, some response⟩]
      (readPageResponse response perPage) := by
  refine ⟨⟨by simp [fetchOffset?], trivial⟩, by simp [fetchCount, fetchOffset?], ?_⟩
  unfold servedPages readPageResponse
  cases hpayload : readPagePayload response with
  | error error => simp [servedPage?, h, hpayload, Except.toOption]
  | ok payload =>
    cases hpage : parseYandexMetrikaCounterPage payload perPage <;>
    simp [servedPage?, h, hpayload, hpage, Except.toOption]

theorem servedPage?_of_status {offset : Nat} {response : MetrikaResponse}
    (h : response.status ≠ 200) : servedPage? ⟨.fetch offset perPage, some response⟩ = none := by
  simp [servedPage?, h]

end

/-! ### The calls -/

section

variable {β : Type} {exchanges : List MetrikaExchange} {result : β}

theorem plays_readAborted {next : Bool → MetrikaDialogue β} :
    Plays (readAborted >>= next) exchanges (some result) ↔
      ∃ aborted rest, exchanges = ⟨.aborted, aborted⟩ :: rest ∧
        Plays (next aborted) rest (some result) :=
  plays_question_bind

theorem plays_fetchUpstream {offset perPage : Nat}
    {next : Option MetrikaResponse → MetrikaDialogue β} :
    Plays (fetchUpstream offset perPage >>= next) exchanges (some result) ↔
      ∃ response rest, exchanges = ⟨.fetch offset perPage, response⟩ :: rest ∧
        Plays (next response) rest (some result) :=
  plays_question_bind

theorem plays_readRandom {next : Option Nat → MetrikaDialogue β} :
    Plays (readRandom >>= next) exchanges (some result) ↔
      ∃ jitter rest, exchanges = ⟨.random, jitter⟩ :: rest ∧
        Plays (next jitter) rest (some result) :=
  plays_question_bind

theorem plays_sleep {milliseconds : Nat} {next : Bool → MetrikaDialogue β} :
    Plays (sleep milliseconds >>= next) exchanges (some result) ↔
      ∃ slept rest, exchanges = ⟨.sleep milliseconds, slept⟩ :: rest ∧
        Plays (next slept) rest (some result) :=
  plays_question_bind

end

/-! ### The attempts -/

theorem AttemptRun.quiet_append {received left : Nat} {quiet rest : List MetrikaExchange}
    {result : Except YandexMetrikaError YandexMetrikaCounterPage}
    (hquiet : ∀ exchange ∈ quiet, fetchOffset? exchange = none ∧ servedPage? exchange = none)
    (h : AttemptRun received left rest result) :
    AttemptRun received left (quiet ++ rest) result := by
  induction quiet with
  | nil => exact h
  | cons exchange others ih =>
    obtain ⟨hfirst, hothers⟩ := List.forall_mem_cons.mp hquiet
    exact (ih hothers).quiet hfirst.1 hfirst.2

theorem quiet_retryDelay {response : Option MetrikaResponse} {attempt : Nat}
    {exchanges : List MetrikaExchange} {result : Except YandexMetrikaError Nat}
    (h : Plays (retryDelay response attempt) exchanges (some result)) :
    ∀ exchange ∈ exchanges, fetchOffset? exchange = none ∧ servedPage? exchange = none := by
  unfold retryDelay at h
  dsimp only at h
  split at h
  · rw [plays_pure] at h
    simp [h.1]
  · rw [plays_readRandom] at h
    obtain ⟨answer, rest, rfl, hrest⟩ := h
    have hnil : rest = [] := by
      split at hrest
      · exact (plays_pure.mp hrest).1
      · exact (plays_pure.mp hrest).1
    rw [hnil, List.forall_mem_singleton]
    exact ⟨rfl, rfl⟩

/-- By induction on the attempts that are left. -/
theorem attemptRun_of_plays {maxAttempts received left : Nat} {exchanges : List MetrikaExchange}
    {result : Except YandexMetrikaError YandexMetrikaCounterPage}
    (h : Plays (fetchAttempts maxAttempts (received + 1) left) exchanges (some result)) :
    AttemptRun received left exchanges result := by
  induction left generalizing exchanges result with
  | zero =>
    obtain ⟨rfl, rfl⟩ := plays_pure.mp h
    exact .refused _
  | succ left ih =>
    -- `next` is what the client does with the delay it has computed
    have hretry : ∀ {response : Option MetrikaResponse} {rest : List MetrikaExchange}
        {result : Except YandexMetrikaError YandexMetrikaCounterPage}
        (next : Except YandexMetrikaError Nat → _), (∀ error, next (.error error) = pure (.error error)) →
        (∀ milliseconds, next (.ok milliseconds) = sleep milliseconds >>= fun slept =>
          if slept = true then fetchAttempts maxAttempts (received + 1) left
          else pure (.error .sleepFailed)) →
        Plays (retryDelay response (maxAttempts - left) >>= next) rest (some result) →
        AttemptRun received left rest result := by
      intro response rest result next herror hok h
      obtain ⟨delay, after, value, rfl, hdelay, hafter⟩ := plays_bind.mp h
      apply AttemptRun.quiet_append (quiet_retryDelay hdelay)
      cases value with
      | error error =>
        rw [herror] at hafter
        obtain ⟨rfl, rfl⟩ := plays_pure.mp hafter
        exact .refused _
      | ok milliseconds =>
        rw [hok, plays_sleep] at hafter
        obtain ⟨slept, after, rfl, hafter⟩ := hafter
        apply AttemptRun.quiet rfl rfl
        split at hafter
        · exact ih hafter
        · obtain ⟨rfl, rfl⟩ := plays_pure.mp hafter
          exact .refused _
    rw [fetchAttempts, plays_readAborted] at h
    obtain ⟨aborted, rest, rfl, h⟩ := h
    apply AttemptRun.quiet rfl rfl
    split at h
    · obtain ⟨rfl, rfl⟩ := plays_pure.mp h
      exact .refused _
    rw [plays_fetchUpstream] at h
    obtain ⟨answer, rest, rfl, h⟩ := h
    cases answer with
    | none =>
      apply AttemptRun.failed rfl
      dsimp only at h
      rw [plays_readAborted] at h
      obtain ⟨aborted, rest, rfl, h⟩ := h
      apply AttemptRun.quiet rfl rfl
      split at h
      · obtain ⟨rfl, rfl⟩ := plays_pure.mp h
        exact .refused _
      split at h
      · obtain ⟨rfl, rfl⟩ := plays_pure.mp h
        exact .refused _
      · exact hretry _ (fun _ => rfl) (fun _ => rfl) h
    | some response =>
      dsimp only at h
      by_cases hstatus : response.status = 200
      · rw [if_pos hstatus] at h
        obtain ⟨rfl, rfl⟩ := plays_pure.mp h
        exact attemptRun_response hstatus
      rw [if_neg hstatus] at h
      apply AttemptRun.failed (servedPage?_of_status hstatus)
      split at h
      · obtain ⟨rfl, rfl⟩ := plays_pure.mp h
        exact .refused _
      split at h
      · obtain ⟨rfl, rfl⟩ := plays_pure.mp h
        exact .refused _
      split at h
      · obtain ⟨rfl, rfl⟩ := plays_pure.mp h
        exact .refused _
      split at h
      · obtain ⟨rfl, rfl⟩ := plays_pure.mp h
        exact .refused _
      · exact hretry _ (fun _ => rfl) (fun _ => rfl) h

end Outscan

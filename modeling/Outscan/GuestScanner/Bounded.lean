import Outscan.GuestScanner.Run
import Outscan.Target.FlowSafety

/-! What the one budget of requests does to a run of the guest scanner: every call
is counted, and none is made beyond the limit. -/
namespace Outscan

open Dialogue

def ScanQuestion.isCall : ScanQuestion → Bool
  | .now => false
  | .resolve4 _ | .resolve6 _ | .transport _ => true

def calls (exchanges : List ScanExchange) : Nat := exchanges.countP fun exchange => exchange.1.isCall

def scanBodyBytes : ScanExchange → Nat
  | ⟨.transport _, .ok (.ok response)⟩ => response.body.length
  | _ => 0

def scanBytes (exchanges : List ScanExchange) : Nat := (exchanges.map scanBodyBytes).sum

theorem calls_append (first rest : List ScanExchange) :
    calls (first ++ rest) = calls first + calls rest := List.countP_append ..

theorem scanBytes_append (first rest : List ScanExchange) :
    scanBytes (first ++ rest) = scanBytes first + scanBytes rest := by
  simp [scanBytes]

/-! ### One question -/

theorem plays_reserved {maxRequests count next : Nat} {question : ScanQuestion}
    {refused given : ScanAnswer question} {inner : List ScanExchange} :
    Plays (reserved maxRequests question refused count) inner (some (given, next)) ↔
      (maxRequests ≤ count ∧ inner = [] ∧ given = refused ∧ next = count) ∨
        (count < maxRequests ∧ inner = [⟨question, given⟩] ∧ next = count + 1) := by
  rw [reserved]
  by_cases hfull : count ≥ maxRequests
  · rw [if_pos hfull, pure_eq, plays_done]
    simp only [Option.some.injEq, Prod.mk.injEq, reduceCtorEq, false_or]
    constructor
    · rintro ⟨hinner, hgiven, hnext⟩
      exact .inl ⟨hfull, hinner, hgiven, hnext⟩
    · rintro (⟨-, hinner, hgiven, hnext⟩ | ⟨hlt, -⟩)
      · exact ⟨hinner, hgiven, hnext⟩
      · omega
  · rw [if_neg hfull, question_bind, plays_ask]
    simp only [pure_eq, plays_done, reduceCtorEq, and_false, false_or, Option.some.injEq,
      Prod.mk.injEq]
    constructor
    · rintro ⟨answer, rest, rfl, rfl, rfl, rfl⟩
      exact .inr ⟨Nat.lt_of_not_ge hfull, rfl, rfl⟩
    · rintro (⟨hle, -⟩ | ⟨-, rfl, rfl⟩)
      · exact absurd hle hfull
      · exact ⟨given, [], rfl, rfl, rfl, rfl⟩

inductive Answered (maxRequests count : Nat) :
    (q : FlowQuestion) → FlowAnswer q → List ScanExchange → Nat → Prop where
  | now (reading : ClockReading) : Answered maxRequests count .now reading [⟨.now, reading⟩] count
  | resolved {hostname : String} (ipv4Result ipv6Result : FamilyQuery)
      (hroom : count + 1 < maxRequests) :
      Answered maxRequests count (.resolve hostname) (ipv4Result, ipv6Result)
        [⟨.resolve4 hostname, ipv4Result⟩, ⟨.resolve6 hostname, ipv6Result⟩] (count + 2)
  | halfResolved {hostname : String} (ipv4Result : FamilyQuery) (hroom : count + 1 = maxRequests) :
      Answered maxRequests count (.resolve hostname) (ipv4Result, .rejected none)
        [⟨.resolve4 hostname, ipv4Result⟩] (count + 1)
  | unresolved {hostname : String} (hfull : maxRequests ≤ count) :
      Answered maxRequests count (.resolve hostname) (.rejected none, .rejected none) [] count
  | sent {dispatch : Dispatch} (answer : Except Unit PinnedTransportResult)
      (hroom : count < maxRequests) :
      Answered maxRequests count (.transport dispatch) answer [⟨.transport dispatch, answer⟩]
        (count + 1)
  | unsent {dispatch : Dispatch} (hfull : maxRequests ≤ count) :
      Answered maxRequests count (.transport dispatch) (.ok (.error .transportError)) [] count

theorem plays_boundedAnswer {maxRequests count next : Nat} {q : FlowQuestion} {given : FlowAnswer q}
    {inner : List ScanExchange} :
    Plays (boundedAnswer maxRequests q count) inner (some (given, next)) ↔
      Answered maxRequests count q given inner next := by
  cases q with
  | now =>
    rw [boundedAnswer, question_bind, plays_ask]
    constructor
    · rintro (⟨-, hnone⟩ | ⟨answer, rest, rfl, hrest⟩)
      · cases hnone
      · cases hrest
        exact .now given
    · intro h
      cases h
      exact .inr ⟨given, [], rfl, .done _⟩
  | resolve hostname =>
    rw [boundedAnswer, boundedResolver, plays_bind]
    constructor
    · rintro ⟨first, second, ⟨ipv4Result, counted⟩, rfl, hfirst, hrest⟩
      obtain ⟨third, fourth, ⟨ipv6Result, counted'⟩, rfl, hsecond, hdone⟩ := plays_bind.mp hrest
      cases hdone
      rcases plays_reserved.mp hfirst with ⟨hfull, rfl, rfl, rfl⟩ | ⟨hroom, rfl, rfl⟩
      · rcases plays_reserved.mp hsecond with ⟨-, rfl, rfl, rfl⟩ | ⟨hroom, -⟩
        · exact .unresolved hfull
        · omega
      · rcases plays_reserved.mp hsecond with ⟨hfull, rfl, rfl, rfl⟩ | ⟨hroom', rfl, rfl⟩
        · exact .halfResolved ipv4Result (by omega)
        · exact .resolved ipv4Result ipv6Result hroom'
    · intro h
      cases h with
      | resolved ipv4Result ipv6Result hroom =>
        refine ⟨[⟨.resolve4 hostname, ipv4Result⟩], [⟨.resolve6 hostname, ipv6Result⟩],
          (ipv4Result, count + 1), rfl, plays_reserved.mpr (.inr ⟨by omega, rfl, rfl⟩), ?_⟩
        exact plays_bind.mpr ⟨_, [], (ipv6Result, count + 2), rfl,
          plays_reserved.mpr (.inr ⟨hroom, rfl, rfl⟩), .done _⟩
      | halfResolved ipv4Result hroom =>
        refine ⟨[⟨.resolve4 hostname, ipv4Result⟩], [], (ipv4Result, count + 1), rfl,
          plays_reserved.mpr (.inr ⟨by omega, rfl, rfl⟩), ?_⟩
        exact plays_bind.mpr ⟨_, [], (.rejected none, count + 1), rfl,
          plays_reserved.mpr (.inl ⟨by omega, rfl, rfl, rfl⟩), .done _⟩
      | unresolved hfull =>
        refine ⟨[], [], (.rejected none, count), rfl,
          plays_reserved.mpr (.inl ⟨hfull, rfl, rfl, rfl⟩), ?_⟩
        exact plays_bind.mpr ⟨_, [], (.rejected none, count), rfl,
          plays_reserved.mpr (.inl ⟨hfull, rfl, rfl, rfl⟩), .done _⟩
  | transport dispatch =>
    rw [boundedAnswer, boundedTransport, plays_reserved]
    constructor
    · rintro (⟨hfull, rfl, rfl, rfl⟩ | ⟨hroom, rfl, rfl⟩)
      · exact .unsent hfull
      · exact .sent given hroom
    · intro h
      cases h with
      | sent answer hroom => exact .inr ⟨hroom, rfl, rfl⟩
      | unsent hfull => exact .inl ⟨hfull, rfl, rfl, rfl⟩

theorem Answered.count_eq {maxRequests count next : Nat} {q : FlowQuestion} {given : FlowAnswer q}
    {inner : List ScanExchange} (h : Answered maxRequests count q given inner next) :
    next = count + calls inner ∧ (count ≤ maxRequests → next ≤ maxRequests) ∧
      scanBytes inner = bodyBytes ⟨q, given⟩ := by
  cases h with
  | now | unresolved | unsent => exact ⟨rfl, id, rfl⟩
  | resolved | halfResolved => exact ⟨rfl, fun _ => by omega, rfl⟩
  | sent answer hroom =>
    refine ⟨rfl, fun _ => hroom, ?_⟩
    rw [scanBytes, List.map_singleton, List.sum_singleton]
    match answer with
    | .error _ | .ok (.error _) | .ok (.ok _) => rfl

/-! ### A whole flow -/

theorem interpreted_count {maxRequests count last : Nat} {outer : List FlowExchange}
    {inner : List ScanExchange}
    (h : Interpreted (boundedAnswer maxRequests) count outer inner last) :
    last = count + calls inner ∧ (count ≤ maxRequests → last ≤ maxRequests) ∧
      scanBytes inner = totalBodyBytes outer := by
  induction h with
  | nil count => exact ⟨rfl, id, rfl⟩
  | cons hgiven _ ih =>
    obtain ⟨hnext, hle, hbytes⟩ := (plays_boundedAnswer.mp hgiven).count_eq
    obtain ⟨hlast, hle', hbytes'⟩ := ih
    refine ⟨?_, fun hcount => hle' (hle hcount), ?_⟩
    · rw [calls_append, hlast, hnext, Nat.add_assoc]
    · rw [scanBytes_append, hbytes, hbytes', totalBodyBytes_cons]

/-- A flow inside the scanner is a flow whose questions were answered within the
budget. -/
theorem plays_bounded {α : Type} {maxRequests count last : Nat} {flow : Flow α}
    {exchanges : List ScanExchange} {value : α} :
    Plays (bounded maxRequests flow count) exchanges (some (value, last)) ↔
      ∃ outer, Plays flow outer (some value) ∧
        Interpreted (boundedAnswer maxRequests) count outer exchanges last :=
  plays_interpret _

/-! ### What a flow that returned well has used -/

theorem queryState_of_classifyQueries {host : String} {ipv4Result ipv6Result : FamilyQuery}
    {cidrs : UnknownList} {now : Nat} {target : ResolvedTarget}
    (h : classifyQueries host ipv4Result ipv6Result cidrs now = .ok target) :
    queryState ipv4Result ≠ .failed ∧ queryState ipv6Result ≠ .failed := by
  rw [classifyQueries] at h
  split at h
  · cases h
  · rename_i hfailed
    simp only [List.contains_iff_mem, List.mem_cons, List.not_mem_nil, or_false, not_or] at hfailed
    exact ⟨fun heq => hfailed.1 heq.symm, fun heq => hfailed.2 heq.symm⟩

theorem Answered.of_resolved {maxRequests count next : Nat} {host : String}
    {answers : FamilyQuery × FamilyQuery} {inner : List ScanExchange} {cidrs : UnknownList}
    {now : Nat} {target : ResolvedTarget}
    (h : Answered maxRequests count (.resolve host) answers inner next)
    (htarget : classifyQueries host answers.1 answers.2 cidrs now = .ok target) :
    next = count + 2 := by
  obtain ⟨hfirst, hsecond⟩ := queryState_of_classifyQueries htarget
  cases h with
  | resolved => rfl
  | halfResolved => exact absurd rfl hsecond
  | unresolved => exact absurd rfl hfirst

theorem Answered.of_response {maxRequests count next : Nat} {dispatch : Dispatch}
    {response : PinnedTransportResponse} {inner : List ScanExchange}
    (h : Answered maxRequests count (.transport dispatch) (.ok (.ok response)) inner next) :
    next = count + 1 := by
  cases h
  rfl

theorem flowLoop_first {runtime : FlowRuntime} {input : SafeHttpFlowInput} {cidrs : UnknownList}
    {s : FlowState} {exchanges : List FlowExchange} {result : SafeHttpFlowResult}
    (hretries : input.maxRetries = 0) (hok : result.isOk = true)
    (h : Plays (flowLoop runtime input cidrs s) exchanges (some result)) :
    ∃ first second answers d response rest now target,
      exchanges = prelude input.canonicalHost first second answers ++
        ⟨.transport d, .ok (.ok response)⟩ :: rest ∧
      classifyQueries input.canonicalHost answers.1 answers.2 cidrs now = .ok target := by
  have hnot : ∀ {bound stretch}, ¬ EndsQuietly bound stretch (some result) := by
    rintro bound stretch ⟨-, -, -, hnone | ⟨code, hfailed⟩⟩
    · cases hnone
    · cases hfailed
      cases hok
  cases flowLoop_cases h with
  | stopped hquiet => exact absurd hquiet hnot
  | retried hlt => omega
  | sent hsends hafter =>
    obtain ⟨first, now, answers, second, requestTime, target, rfl, -, htarget, -⟩ := hsends
    cases hafter with
    | stopped hquiet => exact absurd hquiet hnot
    | retried hlt => omega
    | finished => exact ⟨first, second, answers, _, _, _, now, target, rfl, htarget⟩
    | redirected => exact ⟨first, second, answers, _, _, _, now, target, rfl, htarget⟩

/-- A flow without retries that returned well has used three requests of the budget,
and what it received is within its own limit. -/
theorem bounded_flow {runtime : FlowRuntime} {inputValue : Dynamic.Value FlowField}
    {input : SafeHttpFlowInput} {cidrs : UnknownList} {maxRequests count last : Nat}
    {exchanges : List ScanExchange} {result : SafeHttpFlowResult}
    (hinput : parseInput runtime.toNodeRuntime inputValue = some input)
    (hretries : input.maxRetries = 0) (hok : result.isOk = true)
    (h : Plays (bounded maxRequests (executeSafeHttpFlow runtime inputValue cidrs) count) exchanges
      (some (result, last))) :
    count + 3 ≤ last ∧ scanBytes exchanges ≤ input.maxTotalResponseBytes := by
  obtain ⟨outer, hplays, hinterpreted⟩ := plays_bounded.mp h
  obtain ⟨-, -, hbytes⟩ := interpreted_count hinterpreted
  constructor
  · rw [executeSafeHttpFlow, hinput] at hplays
    obtain ⟨first, second, answers, d, response, rest, now, target, rfl, htarget⟩ :=
      flowLoop_first hretries hok hplays
    cases hinterpreted with | cons hfirst hinterpreted =>
    cases hinterpreted with | cons hresolve hinterpreted =>
    cases hinterpreted with | cons hsecond hinterpreted =>
    cases hinterpreted with | cons hsent hinterpreted =>
    have hafterFirst := (plays_boundedAnswer.mp hfirst).count_eq.1
    have hafterResolve := (plays_boundedAnswer.mp hresolve).of_resolved htarget
    have hafterSecond := (plays_boundedAnswer.mp hsecond).count_eq.1
    have hafterSent := (plays_boundedAnswer.mp hsent).of_response
    have hlast := (interpreted_count hinterpreted).1
    omega
  · cases result with
    | failed code => cases hok
    | ok response requestCount redirectCount stop =>
      obtain ⟨hruns, -⟩ := executeSafeHttpFlow_safe runtime inputValue cidrs input hinput
      obtain ⟨-, -, -, hended⟩ := hruns outer _ hplays
      rw [hbytes]
      exact (hended response requestCount redirectCount stop rfl).2

end Outscan

import Outscan.Target.SafeHttpFlow

/-! What holds of every run of the flow, whatever its clock, its resolver and its
transport answer. -/
namespace Outscan

open Dialogue

def dispatch? : FlowExchange → Option Dispatch
  | ⟨.transport dispatch, _⟩ => some dispatch
  | _ => none

def dispatches (exchanges : List FlowExchange) : List Dispatch := exchanges.filterMap dispatch?

def bodyBytes : FlowExchange → Nat
  | ⟨.transport _, .ok (.ok response)⟩ => response.body.length
  | _ => 0

def totalBodyBytes (exchanges : List FlowExchange) : Nat := (exchanges.map bodyBytes).sum

def prelude (host : String) (first second : ClockReading) (answers : FamilyQuery × FamilyQuery) :
    List FlowExchange :=
  [⟨.now, first⟩, ⟨.resolve host, answers⟩, ⟨.now, second⟩]

/-! ### One iteration -/

section

variable (runtime : FlowRuntime) (input : SafeHttpFlowInput) (cidrs : UnknownList)

/-- The request `d` is what the iteration makes of the answers in front of it. -/
def Sends (s : FlowState) (before : List FlowExchange) (d : Dispatch) : Prop :=
  ∃ first resolutionTime answers second requestTime target,
    before = prelude input.canonicalHost first second answers ∧
      nowValue first = some resolutionTime ∧
      classifyQueries input.canonicalHost answers.1 answers.2 cidrs resolutionTime = .ok target ∧
      nowValue second = some requestTime ∧ requestTime + 100 ≤ input.deadlineUnixMs ∧
      d = pinnedDispatch input cidrs s target requestTime

def EndsQuietly (bound : Nat) (exchanges : List FlowExchange)
    (result : Option SafeHttpFlowResult) : Prop :=
  dispatches exchanges = [] ∧ exchanges.length ≤ bound ∧ totalBodyBytes exchanges = 0 ∧
    (result = none ∨ ∃ code, result = some (.failed code))

inductive AfterDispatch (s : FlowState) :
    Except Unit PinnedTransportResult → List FlowExchange → Option SafeHttpFlowResult → Prop where
  | stopped {answer rest result} (h : EndsQuietly 1 rest result) : AfterDispatch s answer rest result
  | retried {code rest result} (hretries : s.retries < input.maxRetries)
      (h : Plays (flowLoop runtime input cidrs s.sent.retry) rest result) :
      AfterDispatch s (.ok (.error code)) rest result
  | finished {response reading stop}
      (htotal : s.totalResponseBytes + response.body.length ≤ input.maxTotalResponseBytes) :
      AfterDispatch s (.ok (.ok response)) [⟨.now, reading⟩]
        (some (.ok response (s.requestCount + 1) s.redirectCount stop))
  | redirected {response reading request rest result}
      (htotal : s.totalResponseBytes + response.body.length ≤ input.maxTotalResponseBytes)
      (hdecision : redirectDecision runtime response s.current input.canonicalHost =
        .follow request)
      (hredirects : s.redirectCount < input.maxRedirects)
      (h : Plays (flowLoop runtime input cidrs
        (s.sent.redirected (s.totalResponseBytes + response.body.length) request)) rest result) :
      AfterDispatch s (.ok (.ok response)) (⟨.now, reading⟩ :: rest) result

inductive FromHead (s : FlowState) : List FlowExchange → Option SafeHttpFlowResult → Prop where
  | stopped {exchanges result} (h : EndsQuietly 3 exchanges result) : FromHead s exchanges result
  | retried {reading answers rest result} (hretries : s.retries < input.maxRetries)
      (h : Plays (flowLoop runtime input cidrs s.retry) rest result) :
      FromHead s (⟨.now, reading⟩ :: ⟨.resolve input.canonicalHost, answers⟩ :: rest) result
  | sent {before d answer rest result} (hsends : Sends input cidrs s before d)
      (hafter : AfterDispatch runtime input cidrs s answer rest result) :
      FromHead s (before ++ ⟨.transport d, answer⟩ :: rest) result

variable {runtime input cidrs}

theorem plays_readClock {α : Type} {f : Option Nat → Flow α} {exchanges : List FlowExchange}
    {result : Option α} (h : Plays (readClock >>= f) exchanges result) :
    (exchanges = [] ∧ result = none) ∨
      ∃ reading rest, exchanges = ⟨.now, reading⟩ :: rest ∧
        Plays (f (nowValue reading)) rest result := by
  rcases plays_ask.mp h with hleft | ⟨reading, rest, rfl, hrest⟩
  · exact .inl hleft
  · exact .inr ⟨reading, rest, rfl, hrest⟩

theorem plays_transport {α : Type} {dispatch : Dispatch}
    {f : Except Unit PinnedTransportResult → Flow α} {exchanges : List FlowExchange}
    {result : Option α} (h : Plays (transport dispatch >>= f) exchanges result) :
    (exchanges = [] ∧ result = none) ∨
      ∃ answer rest, exchanges = ⟨.transport dispatch, answer⟩ :: rest ∧
        Plays (f answer) rest result :=
  plays_ask.mp h

theorem plays_resolve {α : Type} {node : NodeRuntime} {host : String} {resolutionTime : Nat}
    {f : ResolveTargetResult → Flow α} {exchanges : List FlowExchange} {result : Option α}
    (h : Plays (resolveAndClassifyHostname node host resolver cidrs resolutionTime >>= f)
      exchanges result) :
    (exchanges = [] ∧ result = none) ∨
      (∃ code, retryable (.resolve code) = false ∧ Plays (f (.failed code none)) exchanges result) ∨
      ∃ answers rest, exchanges = ⟨.resolve host, answers⟩ :: rest ∧
        Plays (f (classifyQueries host answers.1 answers.2 cidrs resolutionTime)) rest result := by
  rw [resolveAndClassifyHostname] at h
  split at h
  · exact .inr (.inl ⟨.invalidCanonicalHost, rfl, h⟩)
  · split at h
    · exact .inr (.inl ⟨.invalidResolutionTime, rfl, h⟩)
    · rcases plays_ask.mp h with hleft | ⟨answers, rest, rfl, hrest⟩
      · exact .inl hleft
      · exact .inr (.inr ⟨answers, rest, rfl, hrest⟩)

theorem endsQuietly_left {bound : Nat} {exchanges : List FlowExchange}
    (hquiet : dispatches exchanges = []) (hlength : exchanges.length ≤ bound)
    (hbytes : totalBodyBytes exchanges = 0) : EndsQuietly bound exchanges none :=
  ⟨hquiet, hlength, hbytes, .inl rfl⟩

theorem endsQuietly_failed (exchanges : List FlowExchange) {code : SafeHttpFlowFailure}
    {bound : Nat} {tail : List FlowExchange} {result : Option SafeHttpFlowResult}
    (hquiet : dispatches exchanges = []) (hlength : exchanges.length ≤ bound)
    (hbytes : totalBodyBytes exchanges = 0)
    (h : Plays (.done (.failed code) : Flow SafeHttpFlowResult) tail result) :
    EndsQuietly bound (exchanges ++ tail) result := by
  obtain ⟨rfl, hresult⟩ := plays_done.mp h
  rw [List.append_nil]
  rcases hresult with rfl | rfl
  · exact ⟨hquiet, hlength, hbytes, .inl rfl⟩
  · exact ⟨hquiet, hlength, hbytes, .inr ⟨code, rfl⟩⟩

theorem afterDispatch_cases {s : FlowState} {answer : Except Unit PinnedTransportResult}
    {rest : List FlowExchange} {result : Option SafeHttpFlowResult}
    (h : Plays (match answer with
      | .error _ => (return .failed .orchestrationFailed : Flow SafeHttpFlowResult)
      | .ok (.error code) =>
        match _h : afterFailure input s.sent (.transport code) with
        | .inl result => return result
        | .inr next => flowLoop runtime input cidrs next
      | .ok (.ok response) => do
        match ← readClock with
        | none => return .failed .orchestrationFailed
        | some completedAt =>
          match _h : afterResponse runtime input s.sent response completedAt with
          | .inl result => return result
          | .inr next => flowLoop runtime input cidrs next) rest result) :
    AfterDispatch runtime input cidrs s answer rest result := by
  match answer with
  | .error _ => exact .stopped (endsQuietly_failed [] rfl (by simp) rfl h)
  | .ok (.error code) =>
    dsimp only at h
    split at h
    · rename_i hinl
      rw [afterFailure_eq_inl hinl] at h
      exact .stopped (endsQuietly_failed [] rfl (by simp) rfl h)
    · rename_i hinr
      obtain ⟨hretries, rfl⟩ := afterFailure_eq_inr hinr
      exact .retried hretries h
  | .ok (.ok response) =>
    replace h := plays_readClock h
    rcases h with ⟨rfl, rfl⟩ | ⟨reading, rest, rfl, h⟩
    · exact .stopped (endsQuietly_left rfl (by simp) rfl)
    cases hreading : nowValue reading with
    | none =>
      rw [hreading] at h
      exact .stopped (endsQuietly_failed [⟨.now, reading⟩] rfl (by simp) rfl h)
    | some completedAt =>
      rw [hreading] at h
      dsimp only at h
      split at h
      · rename_i hinl
        rcases afterResponse_eq_inl hinl with ⟨code, rfl⟩ | ⟨htotal, stop, rfl⟩
        · exact .stopped (endsQuietly_failed [⟨.now, reading⟩] rfl (by simp) rfl h)
        · obtain ⟨rfl, rfl | rfl⟩ := plays_done.mp h
          · exact .stopped (endsQuietly_left rfl (by simp) rfl)
          · exact .finished htotal
      · rename_i hinr
        obtain ⟨htotal, hredirects, request, hdecision, rfl⟩ := afterResponse_eq_inr hinr
        exact .redirected htotal hdecision hredirects h

theorem flowLoop_cases {s : FlowState} {exchanges : List FlowExchange}
    {result : Option SafeHttpFlowResult}
    (h : Plays (flowLoop runtime input cidrs s) exchanges result) :
    FromHead runtime input cidrs s exchanges result := by
  rw [flowLoop] at h
  replace h := plays_readClock h
  rcases h with ⟨rfl, rfl⟩ | ⟨first, rest, rfl, h⟩
  · exact .stopped (endsQuietly_left rfl (by simp) rfl)
  cases hfirst : nowValue first with
  | none =>
    rw [hfirst] at h
    exact .stopped (endsQuietly_failed [⟨.now, first⟩] rfl (by simp) rfl h)
  | some resolutionTime =>
    rw [hfirst] at h
    dsimp only at h
    split at h
    · exact .stopped (endsQuietly_failed [⟨.now, first⟩] rfl (by simp) rfl h)
    replace h := plays_resolve h
    rcases h with ⟨rfl, rfl⟩ | ⟨code, hcode, h⟩ | ⟨answers, rest, rfl, h⟩
    · exact .stopped (endsQuietly_left rfl (by simp) rfl)
    · dsimp only at h
      split at h
      · rename_i hinl
        rw [afterFailure_eq_inl hinl] at h
        exact .stopped (endsQuietly_failed [⟨.now, first⟩] rfl (by simp) rfl h)
      · rename_i hinr
        rw [afterFailure, hcode] at hinr
        cases hinr
    cases hquery : classifyQueries input.canonicalHost answers.1 answers.2 cidrs resolutionTime with
    | failed code decision =>
      rw [hquery] at h
      dsimp only at h
      split at h
      · rename_i hinl
        rw [afterFailure_eq_inl hinl] at h
        exact .stopped (endsQuietly_failed
          [⟨.now, first⟩, ⟨.resolve input.canonicalHost, answers⟩] rfl (by simp) rfl h)
      · rename_i hinr
        obtain ⟨hretries, rfl⟩ := afterFailure_eq_inr hinr
        exact .retried hretries h
    | ok target =>
      rw [hquery] at h
      dsimp only at h
      replace h := plays_readClock h
      rcases h with ⟨rfl, rfl⟩ | ⟨second, rest, rfl, h⟩
      · exact .stopped (endsQuietly_left rfl (by simp) rfl)
      cases hsecond : nowValue second with
      | none =>
        rw [hsecond] at h
        exact .stopped (endsQuietly_failed
          (prelude input.canonicalHost first second answers) rfl (by simp [prelude]) rfl h)
      | some requestTime =>
        rw [hsecond] at h
        dsimp only at h
        split at h
        · exact .stopped (endsQuietly_failed
            (prelude input.canonicalHost first second answers) rfl (by simp [prelude])
            rfl h)
        rename_i htime
        replace h := plays_transport h
        rcases h with ⟨rfl, rfl⟩ | ⟨answer, rest, rfl, h⟩
        · exact .stopped (endsQuietly_left rfl (by simp) rfl)
        have hsends : Sends input cidrs s (prelude input.canonicalHost first second answers)
            (pinnedDispatch input cidrs s target requestTime) :=
          ⟨first, resolutionTime, answers, second, requestTime, target, rfl, hfirst, hquery, hsecond,
            by omega, rfl⟩
        exact .sent hsends (afterDispatch_cases h)

end

/-! ### The whole run -/

theorem redirectDecision_follow {runtime : FlowRuntime} {response : PinnedTransportResponse}
    {current request : CurrentRequest} {host : String}
    (h : redirectDecision runtime response current host = .follow request) :
    request.method = current.method ∧ isValidOriginFormPath request.path = true ∧
      (current.protocol = .https → request.protocol = .https) := by
  rw [redirectDecision] at h
  split at h
  · cases h
  · split at h
    · cases h
    · cases h
    · dsimp only at h
      split at h
      · cases h
      · split at h
        · cases h
        · rename_i destination _
          split at h
          · cases h
          · split at h
            · cases h
            · split at h
              · cases h
              · split at h
                · cases h
                · split at h
                  · cases h
                  · rename_i hdowngrade
                    split at h
                    · cases h
                    · rename_i hpath
                      cases h
                      refine ⟨rfl, by simpa using hpath, fun hhttps => ?_⟩
                      have hplain : destination.protocol ≠ "http:" := by
                        simpa [hhttps] using hdowngrade
                      exact if_neg hplain

section

variable (input : SafeHttpFlowInput) (cidrs : UnknownList)

/-- A request of a run from `s`, after the exchanges `before`. -/
def RequestOk (s : FlowState) (before : List FlowExchange) (d : Dispatch) : Prop :=
  ∃ here earlier stretch, before = earlier ++ stretch ∧ Sends input cidrs here stretch d ∧
    here.current.method = s.current.method ∧ isValidOriginFormPath here.current.path = true ∧
    (s.current.protocol = .https → here.current.protocol = .https) ∧
    ∀ other ∈ dispatches before, other.request.protocol = .https → here.current.protocol = .https

/-- Every request of the exchanges is one a run from `s` may send. -/
def RequestsOk (s : FlowState) (exchanges : List FlowExchange) : Prop :=
  ∀ before d answer after, exchanges = before ++ ⟨.transport d, answer⟩ :: after →
    RequestOk input cidrs s before d

structure RunFacts (s : FlowState) (exchanges : List FlowExchange)
    (result : Option SafeHttpFlowResult) : Prop where
  requests : RequestsOk input cidrs s exchanges
  count : (dispatches exchanges).length ≤ s.budget input + 1
  length : exchanges.length ≤ 5 * (s.budget input + 1)
  ended : ∀ response requestCount redirectCount stop,
    result = some (.ok response requestCount redirectCount stop) →
      redirectCount ≤ input.maxRedirects ∧
        s.totalResponseBytes + totalBodyBytes exchanges ≤ input.maxTotalResponseBytes ∧
        requestCount = s.requestCount + (dispatches exchanges).length

variable {input cidrs}

theorem dispatches_append (first rest : List FlowExchange) :
    dispatches (first ++ rest) = dispatches first ++ dispatches rest := List.filterMap_append ..

theorem totalBodyBytes_append (first rest : List FlowExchange) :
    totalBodyBytes (first ++ rest) = totalBodyBytes first + totalBodyBytes rest := by
  simp [totalBodyBytes]

theorem requestsOk_of_none {s : FlowState} {exchanges : List FlowExchange}
    (h : dispatches exchanges = []) : RequestsOk input cidrs s exchanges := by
  rintro before d answer after rfl
  rw [dispatches_append] at h
  simp [dispatches, dispatch?] at h

theorem requestsOk_append {s next : FlowState} {first rest : List FlowExchange}
    (hfirst : RequestsOk input cidrs s first) (hrest : RequestsOk input cidrs next rest)
    (hmethod : next.current.method = s.current.method)
    (hprotocol : s.current.protocol = .https → next.current.protocol = .https)
    (hsent : ∀ d ∈ dispatches first, d.request.protocol = s.current.protocol) :
    RequestsOk input cidrs s (first ++ rest) := by
  intro before d answer after hsplit
  rcases List.append_eq_append_iff.mp hsplit with ⟨middle, rfl, hmiddle⟩ | ⟨middle, hmiddle, hafter⟩
  · obtain ⟨here, earlier, stretch, rfl, hsends, hhere, hpath, hkeep, hothers⟩ :=
      hrest middle d answer after hmiddle
    refine ⟨here, first ++ earlier, stretch, by rw [List.append_assoc], hsends,
      hhere.trans hmethod, hpath, fun hs => hkeep (hprotocol hs), ?_⟩
    intro other hother hhttps
    rw [dispatches_append] at hother
    rcases List.mem_append.mp hother with hother | hother
    · rw [hsent other hother] at hhttps
      exact hkeep (hprotocol hhttps)
    · exact hothers other hother hhttps
  · cases middle with
    | nil =>
      rw [List.nil_append] at hafter
      rw [List.append_nil] at hmiddle
      subst hmiddle
      obtain ⟨here, earlier, stretch, hempty, hsends, hhere, hpath, hkeep, -⟩ :=
        hrest [] d answer after hafter.symm
      obtain ⟨rfl, rfl⟩ := List.append_eq_nil_iff.mp hempty.symm
      obtain ⟨first, resolutionTime, answers, second, requestTime, target, hprelude, -⟩ := hsends
      cases hprelude
    | cons exchange middle =>
      obtain ⟨rfl, rfl⟩ := List.cons.inj hafter
      exact hfirst before d answer middle hmiddle

theorem requestsOk_sends {s : FlowState} {before tail : List FlowExchange} {d : Dispatch}
    {answer : Except Unit PinnedTransportResult} (hpath : isValidOriginFormPath s.current.path = true)
    (hsends : Sends input cidrs s before d) (htail : dispatches tail = []) :
    RequestsOk input cidrs s (before ++ ⟨.transport d, answer⟩ :: tail) := by
  have hbefore : dispatches before = [] := by
    obtain ⟨first, resolutionTime, answers, second, requestTime, target, rfl, -⟩ := hsends
    rfl
  intro others other answer' after hsplit
  rcases List.append_eq_append_iff.mp hsplit with ⟨middle, rfl, hmiddle⟩ | ⟨middle, rfl, hmiddle⟩
  · cases middle with
    | nil =>
      obtain ⟨hhead, -⟩ := List.cons.inj hmiddle
      cases hhead
      refine ⟨s, [], before, by simp, hsends, rfl, hpath, id, ?_⟩
      rw [List.append_nil, hbefore]
      simp
    | cons exchange middle =>
      have hrest : tail = middle ++ ⟨.transport other, answer'⟩ :: after :=
        (List.cons.inj hmiddle).2
      rw [hrest, dispatches_append] at htail
      simp [dispatches, dispatch?] at htail
  · cases middle with
    | nil =>
      obtain ⟨hhead, -⟩ := List.cons.inj hmiddle
      cases hhead
      refine ⟨s, [], others, rfl, by simpa using hsends, rfl, hpath, id, ?_⟩
      rw [List.append_nil] at hbefore
      rw [hbefore]
      simp
    | cons exchange middle =>
      obtain ⟨rfl, -⟩ := List.cons.inj hmiddle
      rw [dispatches_append] at hbefore
      simp [dispatches, dispatch?] at hbefore

theorem length_of_sends {s : FlowState} {before : List FlowExchange} {d : Dispatch}
    (h : Sends input cidrs s before d) :
    before.length = 3 ∧ dispatches before = [] ∧ totalBodyBytes before = 0 ∧
      d.request.protocol = s.current.protocol := by
  obtain ⟨first, resolutionTime, answers, second, requestTime, target, rfl, -, -, -, -, rfl⟩ := h
  exact ⟨rfl, rfl, rfl, rfl⟩

theorem dispatches_transport (d : Dispatch) (answer : Except Unit PinnedTransportResult)
    (rest : List FlowExchange) :
    dispatches (⟨.transport d, answer⟩ :: rest) = d :: dispatches rest := rfl

theorem totalBodyBytes_cons (exchange : FlowExchange) (rest : List FlowExchange) :
    totalBodyBytes (exchange :: rest) = bodyBytes exchange + totalBodyBytes rest := by
  simp [totalBodyBytes]

theorem RunFacts.after_quiet {s next : FlowState} {rest : List FlowExchange}
    {result : Option SafeHttpFlowResult} (h : RunFacts input cidrs next rest result)
    (first : List FlowExchange)
    (hfirst : dispatches first = []) (hlength : first.length ≤ 5) (hbytes : totalBodyBytes first = 0)
    (hcurrent : next.current = s.current) (hbudget : next.budget input + 1 ≤ s.budget input)
    (hcount : next.requestCount = s.requestCount)
    (htotal : next.totalResponseBytes = s.totalResponseBytes) :
    RunFacts input cidrs s (first ++ rest) result where
  requests := by
    apply requestsOk_append (requestsOk_of_none hfirst) h.requests
    · rw [hcurrent]
    · rw [hcurrent]
      exact id
    · rw [hfirst]
      simp
  count := by
    have := h.count
    rw [dispatches_append, hfirst, List.nil_append]
    omega
  length := by
    have := h.length
    rw [List.length_append]
    omega
  ended := by
    intro response requestCount redirectCount stop hresult
    have := h.ended response requestCount redirectCount stop hresult
    rw [dispatches_append, hfirst, List.nil_append, totalBodyBytes_append, hbytes, Nat.zero_add,
      ← hcount, ← htotal]
    exact this

theorem RunFacts.after_sent {s next : FlowState} {before rest : List FlowExchange}
    {d : Dispatch} {answer : Except Unit PinnedTransportResult}
    {result : Option SafeHttpFlowResult} (h : RunFacts input cidrs next rest result)
    (tail : List FlowExchange)
    (hpath : isValidOriginFormPath s.current.path = true) (hsends : Sends input cidrs s before d)
    (htail : dispatches tail = []) (hlength : tail.length ≤ 1) (hbytes : totalBodyBytes tail = 0)
    (hmethod : next.current.method = s.current.method)
    (hprotocol : s.current.protocol = .https → next.current.protocol = .https)
    (hbudget : next.budget input + 1 ≤ s.budget input)
    (hcount : next.requestCount = s.requestCount + 1)
    (htotal : next.totalResponseBytes =
      s.totalResponseBytes + bodyBytes ⟨.transport d, answer⟩) :
    RunFacts input cidrs s (before ++ ⟨.transport d, answer⟩ :: (tail ++ rest)) result := by
  obtain ⟨hbeforeLength, hbefore, hbeforeBytes, hd⟩ := length_of_sends hsends
  have hsplit : before ++ ⟨.transport d, answer⟩ :: (tail ++ rest) =
      (before ++ ⟨.transport d, answer⟩ :: tail) ++ rest := by simp
  have hfirst : dispatches (before ++ ⟨.transport d, answer⟩ :: tail) = [d] := by
    rw [dispatches_append, hbefore, dispatches_transport, htail, List.nil_append]
  have hfirstBytes : totalBodyBytes (before ++ ⟨.transport d, answer⟩ :: tail) =
      bodyBytes ⟨.transport d, answer⟩ := by
    rw [totalBodyBytes_append, hbeforeBytes, totalBodyBytes_cons, hbytes, Nat.zero_add, Nat.add_zero]
  rw [hsplit]
  refine ⟨?_, ?_, ?_, ?_⟩
  · apply requestsOk_append (requestsOk_sends hpath hsends htail) h.requests hmethod hprotocol
    intro other hother
    rw [hfirst] at hother
    rw [List.mem_singleton.mp hother]
    exact hd
  · have := h.count
    rw [dispatches_append, hfirst, List.length_append, List.length_singleton]
    omega
  · have := h.length
    rw [List.length_append, List.length_append, List.length_cons]
    omega
  · intro response requestCount redirectCount stop hresult
    obtain ⟨hredirects, hbytesRest, hrequests⟩ :=
      h.ended response requestCount redirectCount stop hresult
    rw [dispatches_append, hfirst, List.length_append, List.length_singleton,
      totalBodyBytes_append, hfirstBytes]
    refine ⟨hredirects, ?_, ?_⟩
    · omega
    · omega

theorem RunFacts.last {s : FlowState} {before tail : List FlowExchange} {d : Dispatch}
    {answer : Except Unit PinnedTransportResult} {result : Option SafeHttpFlowResult}
    (hpath : isValidOriginFormPath s.current.path = true) (hsends : Sends input cidrs s before d)
    (htail : dispatches tail = []) (hlength : tail.length ≤ 1) (hbytes : totalBodyBytes tail = 0)
    (hended : ∀ response requestCount redirectCount stop,
      result = some (.ok response requestCount redirectCount stop) →
        redirectCount ≤ input.maxRedirects ∧
          s.totalResponseBytes + bodyBytes ⟨.transport d, answer⟩ ≤ input.maxTotalResponseBytes ∧
          requestCount = s.requestCount + 1) :
    RunFacts input cidrs s (before ++ ⟨.transport d, answer⟩ :: tail) result := by
  obtain ⟨hbeforeLength, hbefore, hbeforeBytes, -⟩ := length_of_sends hsends
  refine ⟨requestsOk_sends hpath hsends htail, ?_, ?_, ?_⟩
  · rw [dispatches_append, hbefore, dispatches_transport, htail]
    simp
  · rw [List.length_append, List.length_cons]
    omega
  · intro response requestCount redirectCount stop hresult
    obtain ⟨hredirects, htotal, hrequests⟩ := hended response requestCount redirectCount stop hresult
    rw [dispatches_append, hbefore, dispatches_transport, htail, totalBodyBytes_append,
      hbeforeBytes, totalBodyBytes_cons, hbytes, Nat.zero_add, Nat.add_zero]
    exact ⟨hredirects, htotal, hrequests⟩

/-- What holds of every run from the head of the loop, by induction on the requests
that are left. -/
theorem runFacts_of_plays {runtime : FlowRuntime} {s : FlowState} {exchanges : List FlowExchange}
    {result : Option SafeHttpFlowResult} (hpath : isValidOriginFormPath s.current.path = true)
    (hredirects : s.redirectCount ≤ input.maxRedirects)
    (h : Plays (flowLoop runtime input cidrs s) exchanges result) :
    RunFacts input cidrs s exchanges result := by
  induction hn : s.budget input using Nat.strong_induction_on generalizing s exchanges with
  | _ n ih =>
    subst hn
    cases flowLoop_cases h with
    | stopped hquiet =>
      obtain ⟨hnone, hlength, -, hresult⟩ := hquiet
      refine ⟨requestsOk_of_none hnone, by rw [hnone]; simp, by omega, ?_⟩
      rintro response requestCount redirectCount stop rfl
      rcases hresult with hresult | ⟨code, hresult⟩ <;> cases hresult
    | @retried reading answers rest _ hretries hplay =>
      have hbudget := budget_retry hretries
      have hrest := ih _ (by omega) (s := s.retry) hpath hredirects hplay rfl
      exact hrest.after_quiet [⟨.now, reading⟩, ⟨.resolve input.canonicalHost, answers⟩]
        rfl (by simp) rfl rfl (by omega) rfl rfl
    | @sent before d answer rest _ hsends hafter =>
      cases hafter with
      | stopped hquiet =>
        obtain ⟨hnone, hlength, hbytes, hresult⟩ := hquiet
        apply RunFacts.last hpath hsends hnone hlength hbytes
        rintro response requestCount redirectCount stop rfl
        rcases hresult with hresult | ⟨code, hresult⟩ <;> cases hresult
      | retried hretries hplay =>
        have hbudget : s.sent.retry.budget input + 1 = s.budget input := budget_retry hretries
        have hrest := ih _ (by omega) (s := s.sent.retry) hpath hredirects hplay rfl
        exact hrest.after_sent [] hpath hsends rfl (by simp) rfl rfl id (by omega) rfl rfl
      | finished htotal =>
        apply RunFacts.last hpath hsends rfl (by simp) rfl
        intro response requestCount redirectCount stop hresult
        cases hresult
        exact ⟨hredirects, htotal, rfl⟩
      | @redirected response reading request rest _ htotal hdecision hbelow hplay =>
        obtain ⟨hmethod, hvalid, hprotocol⟩ := redirectDecision_follow hdecision
        generalize hnext : s.sent.redirected (s.totalResponseBytes + response.body.length)
          request = next at hplay
        have hcurrent : next.current = request := by rw [← hnext]; rfl
        have hcount : next.redirectCount = s.redirectCount + 1 := by rw [← hnext]; rfl
        have hbudget : next.budget input + 1 ≤ s.budget input :=
          budget_redirect hbelow hcount (by rw [← hnext]; rfl)
        have hrest := ih _ (by omega) (s := next) (by rwa [hcurrent]) (by omega) hplay rfl
        exact hrest.after_sent [⟨.now, reading⟩] hpath hsends rfl (by simp) rfl
          (by rwa [hcurrent]) (by rwa [hcurrent]) hbudget (by rw [← hnext]; rfl)
          (by rw [← hnext]; rfl)

end

/-- The address a request is pinned to is one of the addresses just resolved. -/
theorem pinnedDispatch_mem (input : SafeHttpFlowInput) (cidrs : UnknownList) (s : FlowState)
    (target : ResolvedTarget) (requestTime : Nat) :
    ∃ address ∈ target.addresses,
      (pinnedDispatch input cidrs s target requestTime).request.pinnedAddress = address.address :=
  ⟨_, List.get_mem _ _, rfl⟩

/-- Every run of the flow on an accepted input, whatever the clock, the resolver
and the transport answer. A run in which every question is answered ends. -/
theorem executeSafeHttpFlow_safe (runtime : FlowRuntime) (inputValue : Dynamic.Value FlowField)
    (cidrs : UnknownList) (input : SafeHttpFlowInput)
    (hinput : parseInput runtime.toNodeRuntime inputValue = some input) :
    (∀ exchanges result, Plays (executeSafeHttpFlow runtime inputValue cidrs) exchanges result →
      (∀ before d answer after, exchanges = before ++ ⟨.transport d, answer⟩ :: after →
        (∃ earlier first answers second requestTime,
          before = earlier ++
              [⟨.now, first⟩, ⟨.resolve input.canonicalHost, answers⟩, ⟨.now, second⟩] ∧
            (∃ ipv4Records ipv6Records, queryRecords answers.1 4 = some ipv4Records ∧
              queryRecords answers.2 6 = some ipv6Records ∧
              classifyResolvedAddressSet
                  (.strings ((ipv4Records ++ ipv6Records).map (·.address))) cidrs =
                .ok d.target.policyVersion d.target.addresses) ∧
            (∃ address ∈ d.target.addresses, d.request.pinnedAddress = address.address) ∧
            nowValue second = some requestTime ∧ requestTime + 100 ≤ input.deadlineUnixMs ∧
            requestTime + d.limits.timeoutMs ≤ input.deadlineUnixMs) ∧
        d.configuredInternalCidrs = cidrs ∧ d.request.method = input.method ∧
        isValidOriginFormPath d.request.path = true ∧
        ∀ other ∈ dispatches before, other.request.protocol = .https →
          d.request.protocol = .https) ∧
      (dispatches exchanges).length ≤ (input.maxRedirects + 1) * (input.maxRetries + 1) ∧
      exchanges.length ≤ 5 * ((input.maxRedirects + 1) * (input.maxRetries + 1)) ∧
      ∀ response requestCount redirectCount stop,
        result = some (.ok response requestCount redirectCount stop) →
          redirectCount ≤ input.maxRedirects ∧
            totalBodyBytes exchanges ≤ input.maxTotalResponseBytes) ∧
    ∀ answer, ∃ exchanges result, (exchanges, result) =
        converse answer [] (executeSafeHttpFlow runtime inputValue cidrs) ∧
      Plays (executeSafeHttpFlow runtime inputValue cidrs) exchanges (some result) := by
  refine ⟨?_, fun answer => ⟨_, _, rfl, plays_converse answer [] _⟩⟩
  intro exchanges result hplay
  rw [executeSafeHttpFlow, hinput] at hplay
  have hfacts := runFacts_of_plays (s := input.start) input.path_valid (Nat.zero_le _) hplay
  have hbudget : input.start.budget input + 1 =
      (input.maxRedirects + 1) * (input.maxRetries + 1) := by
    simp only [FlowState.budget, SafeHttpFlowInput.start, Nat.sub_zero, Nat.succ_mul]
    omega
  refine ⟨?_, ?_, ?_, ?_⟩
  · intro before d answer after hsplit
    obtain ⟨here, earlier, stretch, rfl, hsends, hmethod, hpath, -, hothers⟩ :=
      hfacts.requests before d answer after hsplit
    obtain ⟨first, resolutionTime, answers, second, requestTime, target, rfl, -, hquery, hsecond,
      htime, rfl⟩ := hsends
    obtain ⟨ipv4Records, ipv6Records, hipv4, hipv6, hdecision, -⟩ := classifyQueries_ok hquery
    refine ⟨⟨earlier, first, answers, second, requestTime, rfl,
      ⟨ipv4Records, ipv6Records, hipv4, hipv6, hdecision⟩, pinnedDispatch_mem _ _ _ _ _, hsecond,
      htime, ?_⟩, rfl, hmethod, hpath, hothers⟩
    have hmin : (pinnedDispatch input cidrs here target requestTime).limits.timeoutMs ≤
        input.deadlineUnixMs - requestTime := Nat.min_le_right _ _
    omega
  · rw [← hbudget]
    exact hfacts.count
  · rw [← hbudget]
    exact hfacts.length
  · intro response requestCount redirectCount stop hresult
    obtain ⟨hredirects, htotal, -⟩ := hfacts.ended response requestCount redirectCount stop hresult
    refine ⟨hredirects, ?_⟩
    have hzero : input.start.totalResponseBytes = 0 := rfl
    omega

/-! ### A run with one redirect -/

def flowNode : FlowRuntime where
  domainToASCII := some
  isIP := fun text => isIP text.toList
  hmacSha256 := fun _ _ => .fill 0
  parseUrl := fun location _ =>
    some { protocol := "https:", username := "", password := "", port := "",
           hostname := "example.com", pathname := location, search := "" }

def flowField (text : String) : FlowField := .scalar (.string text)

def flowNumber (value : Int) : FlowField := .scalar (.number (some value))

def sampleFlowInput : Dynamic.Value FlowField :=
  .record {
    fields :=
      [("canonical_host", flowField "example.com"), ("protocol", flowField "http:"),
       ("method", flowField "GET"), ("path", flowField "/start"),
       ("deadline_unix_ms", flowNumber 30000), ("max_redirects", flowNumber 1),
       ("max_retries", flowNumber 0), ("max_total_response_bytes", flowNumber 8192),
       ("transport_limits", .record {
          fields :=
            [("timeout_ms", .number (some 1000)), ("max_response_bytes", .number (some 1024)),
             ("max_header_pairs", .number (some 10)), ("max_header_bytes", .number (some 1024))]
          unique := by decide })]
    unique := by decide }

def sampleLimits : PinnedTransportLimits where
  timeoutMs := 1000
  maxResponseBytes := 1024
  maxHeaderPairs := 10
  maxHeaderBytes := 1024

def sampleInput : SafeHttpFlowInput where
  canonicalHost := "example.com"
  protocol := .http
  method := .get
  path := "/start"
  deadlineUnixMs := 30000
  maxRedirects := 1
  maxRetries := 0
  maxTotalResponseBytes := 8192
  transportLimits := sampleLimits
  path_valid := by decide +kernel

def sampleRecord : Dynamic.Value Dynamic.Scalar :=
  .record {
    fields := [("address", .string "8.8.8.8"), ("ttl", .number (some 60))]
    unique := by decide }

def sampleEnvironment (history : List FlowExchange) : (q : FlowQuestion) → FlowAnswer q
  | .now => some 1000
  | .resolve _ => (.fulfilled (.array [sampleRecord]), .rejected (some "ENODATA"))
  | .transport dispatch =>
    if dispatches history = [] then
      .ok (.ok {
        statusCode := 302
        headers := [{ name := "location", value := "/next" }]
        body := []
        connectedAddress := dispatch.request.pinnedAddress })
    else
      .ok (.ok {
        statusCode := 200
        headers := []
        body := [1, 2]
        connectedAddress := dispatch.request.pinnedAddress })

def sampleFlow : Flow SafeHttpFlowResult :=
  executeSafeHttpFlow flowNode sampleFlowInput (.strings ["10.0.0.0/8"])

def sampleRun : List FlowExchange × SafeHttpFlowResult := converse sampleEnvironment [] sampleFlow

def sampleResponse : PinnedTransportResponse where
  statusCode := 200
  headers := []
  body := [1, 2]
  connectedAddress := "8.8.8.8"

/-- The redirect is followed over `https`, within both limits. -/
theorem executeSafeHttpFlow_sample :
    Plays sampleFlow sampleRun.1 (some sampleRun.2) ∧
      sampleRun.2 = .ok sampleResponse 2 1 .complete ∧
      (dispatches sampleRun.1).map (·.request.protocol) = [.http, .https] ∧
      (dispatches sampleRun.1).length ≤ 2 ∧ totalBodyBytes sampleRun.1 ≤ 8192 := by
  have hinput : parseInput flowNode.toNodeRuntime sampleFlowInput = some sampleInput := by
    decide +kernel
  have hsafe := executeSafeHttpFlow_safe flowNode sampleFlowInput (.strings ["10.0.0.0/8"])
    sampleInput hinput
  have hplay : Plays sampleFlow sampleRun.1 (some sampleRun.2) :=
    plays_converse sampleEnvironment [] sampleFlow
  have hresult : sampleRun.2 = .ok sampleResponse 2 1 .complete := by decide +kernel
  have hprotocols : (dispatches sampleRun.1).map (·.request.protocol) = [.http, .https] := by
    decide +kernel
  obtain ⟨-, hcount, -, hended⟩ := hsafe.1 sampleRun.1 (some sampleRun.2) hplay
  exact ⟨hplay, hresult, hprotocols, hcount, (hended _ 2 1 _ (congrArg some hresult)).2⟩

end Outscan

import Outscan.GuestScanner.Parts

/-! The bytes that the flows of one run receive, against the budget of the policy.
Each flow keeps a limit of its own; only the policy's limit is meant for the run. -/
namespace Outscan

open Dialogue

/-- The body bytes that a flow received, when it returned well. -/
def okBytes (result : Option SafeHttpFlowResult) (exchanges : List ScanExchange) : Nat :=
  if result.any (·.isOk) then scanBytes exchanges else 0

theorem okBytes_ok {result : SafeHttpFlowResult} (exchanges : List ScanExchange)
    (h : result.isOk = true) : okBytes (some result) exchanges = scanBytes exchanges :=
  if_pos h

theorem okBytes_failed {result : SafeHttpFlowResult} (exchanges : List ScanExchange)
    (h : result.isOk = false) : okBytes (some result) exchanges = 0 :=
  if_neg (ne_true_of_eq_false h)

/-- Under these budgets the limits of the two flows cannot add up to more than the
limit of the run: one request too few for any flow, or for both of them; or the front
page is refused from the start. The transport is any function here, also one that
returns more than its limit on one response. -/
def ScannerBudgets.KeepsTotal (budgets : ScannerBudgets) : Prop :=
  budgets.maxRequests < 5 ∨
    guestSecurityTxtMaxBytes ≤ budgets.maxTotalResponseBytes ∧
      (budgets.maxRequests < 8 ∨
        budgets.maxTotalResponseBytes < min budgets.maxResponseBytes (64 * 1024))

instance (budgets : ScannerBudgets) : Decidable budgets.KeepsTotal :=
  inferInstanceAs (Decidable (_ ∨ _))

section

variable {runtime : ScannerRuntime} {input : ScannerInput runtime.toNodeRuntime}
  {cidrs : UnknownList}

theorem count_of_resolution {startedAt count : Nat} {exchanges : List ScanExchange}
    {target : ResolvedTarget} {maxRequests : Nat} {host : String}
    (h : Plays (bounded maxRequests
        (resolveAndClassifyHostname runtime.toNodeRuntime host resolver cidrs startedAt) 0)
      exchanges (some (.ok target, count))) : count = 2 := by
  obtain ⟨outer, hplays, hinterpreted⟩ := plays_bounded.mp h
  rw [resolveAndClassifyHostname] at hplays
  split at hplays
  · cases hplays
  · split at hplays
    · cases hplays
    · rw [plays_bind] at hplays
      obtain ⟨first, second, ⟨ipv4Result, ipv6Result⟩, rfl, hfirst, hsecond⟩ := hplays
      rw [resolver, plays_question] at hfirst
      subst hfirst
      dsimp only at hsecond
      rw [pure_eq, plays_done] at hsecond
      obtain ⟨rfl, hnone | htarget⟩ := hsecond
      · cases hnone
      · cases hinterpreted with | cons hresolve hinterpreted =>
        cases hinterpreted
        have hcount := (plays_boundedAnswer.mp hresolve).of_resolved (Option.some.inj htarget).symm
        omega

theorem maxTotal_le (input : ScannerInput runtime.toNodeRuntime) :
    input.policy.budgets.maxTotalResponseBytes ≤ maxTotalResponseBytesBound := by
  have hwithin := input.policy.budgets_within.totalResponse
  rw [input.guestSafe] at hwithin
  exact Nat.le_trans hwithin (by decide)

theorem parseInput_frontPage {startedAt : Nat}
    (hsafe : startedAt + input.policy.budgets.hardDurationSeconds * 1000 ≤ maxSafeInteger) :
    parseInput runtime.toNodeRuntime (frontPageInput input startedAt) =
      if min input.policy.budgets.maxResponseBytes (64 * 1024) ≤
          input.policy.budgets.maxTotalResponseBytes then
        some (probeFlow input startedAt "/" (by decide +kernel)
          input.policy.budgets.maxTotalResponseBytes
          (min input.policy.budgets.maxResponseBytes (64 * 1024)))
      else none := by
  have hresponse := input.sufficient.response
  exact parseInput_probeRecord (by decide +kernel) hsafe
    ⟨input.sufficient.totalResponse, maxTotal_le input⟩ (by omega)

theorem parseInput_securityTxt {startedAt : Nat}
    (hsafe : startedAt + input.policy.budgets.hardDurationSeconds * 1000 ≤ maxSafeInteger) :
    parseInput runtime.toNodeRuntime (securityTxtInput input startedAt) =
      some (probeFlow input startedAt guestSecurityTxtPath (by decide +kernel)
        guestSecurityTxtMaxBytes
        (min input.policy.budgets.maxResponseBytes guestSecurityTxtMaxBytes)) := by
  have hresponse := input.sufficient.response
  have hbytes : guestSecurityTxtMaxBytes = 32768 := rfl
  have hbound : maxTotalResponseBytesBound = 201326592 := rfl
  rw [securityTxtInput, parseInput_probeRecord (by decide +kernel) hsafe (by omega) (by omega),
    if_pos (Nat.min_le_right _ _)]

/-- What a flow of the scanner has used of the budget, and received. -/
structure FlowUse (result : SafeHttpFlowResult) (exchanges : List ScanExchange) (limit count last : Nat) :
    Prop where
  count_le : count ≤ last
  three : result.isOk = true → count + 3 ≤ last
  bytes : result.isOk = true → scanBytes exchanges ≤ limit

theorem flowUse_of_plays {inputValue : Dynamic.Value FlowField} {flow : SafeHttpFlowInput}
    {count last maxRequests : Nat} {exchanges : List ScanExchange} {result : SafeHttpFlowResult}
    (hinput : parseInput runtime.toNodeRuntime inputValue = some flow) (hretries : flow.maxRetries = 0)
    (h : Plays (bounded maxRequests (executeSafeHttpFlow runtime.toFlowRuntime inputValue cidrs) count)
      exchanges (some (result, last))) :
    FlowUse result exchanges flow.maxTotalResponseBytes count last := by
  obtain ⟨outer, -, hinterpreted⟩ := plays_bounded.mp h
  obtain ⟨hlast, -, -⟩ := interpreted_count hinterpreted
  exact ⟨by omega, fun hok => (bounded_flow hinput hretries hok h).1,
    fun hok => (bounded_flow hinput hretries hok h).2⟩

theorem result_of_refused {inputValue : Dynamic.Value FlowField} {count last maxRequests : Nat}
    {exchanges : List ScanExchange} {result : SafeHttpFlowResult}
    (hinput : parseInput runtime.toNodeRuntime inputValue = none)
    (h : Plays (bounded maxRequests (executeSafeHttpFlow runtime.toFlowRuntime inputValue cidrs) count)
      exchanges (some (result, last))) : result.isOk = false ∧ last = count := by
  obtain ⟨outer, hplays, hinterpreted⟩ := plays_bounded.mp h
  rw [executeSafeHttpFlow, hinput] at hplays
  cases hplays
  cases hinterpreted
  exact ⟨rfl, rfl⟩

theorem last_le {count last maxRequests : Nat} {α : Type} {flow : Flow α}
    {exchanges : List ScanExchange} {value : α} (hcount : count ≤ maxRequests)
    (h : Plays (bounded maxRequests flow count) exchanges (some (value, last))) :
    count ≤ last ∧ last ≤ maxRequests := by
  obtain ⟨outer, -, hinterpreted⟩ := plays_bounded.mp h
  obtain ⟨hlast, hle, -⟩ := interpreted_count hinterpreted
  exact ⟨by omega, hle hcount⟩

/-- Budgets that keep the total keep it in every run. -/
theorem okBytes_le {exchanges : List ScanExchange} {parts : ScanParts}
    {http securityTxt : Option SafeHttpFlowResult} {output : GuestScannerOutput}
    (hkeeps : input.policy.budgets.KeepsTotal)
    (h : SplitsInto runtime input cidrs exchanges parts http securityTxt output) :
    okBytes http parts.frontPage + okBytes securityTxt parts.securityTxt ≤
      input.policy.budgets.maxTotalResponseBytes := by
  obtain ⟨first, startedAt, resolved, count, requestCount, last, completedAt, -, -, hsafe, hresolution,
    hruns, -⟩ := h.run
  cases hruns with
  | none => exact Nat.zero_le _
  | @both target page text middle last hfront htext =>
    have hcount := count_of_resolution hresolution
    have hmax := input.sufficient.requests
    obtain ⟨-, hmiddle⟩ := last_le (by omega) hfront
    obtain ⟨hgrown, hlast⟩ := last_le hmiddle htext
    have huse := flowUse_of_plays (parseInput_securityTxt hsafe) rfl htext
    have hpage := @parseInput_frontPage runtime input startedAt hsafe
    have hlimit : (probeFlow input startedAt guestSecurityTxtPath (by decide +kernel)
        guestSecurityTxtMaxBytes (min input.policy.budgets.maxResponseBytes
          guestSecurityTxtMaxBytes)).maxTotalResponseBytes = guestSecurityTxtMaxBytes := rfl
    have htextThree := huse.three
    have htextBytes := huse.bytes
    rw [hlimit] at htextBytes
    rw [ScannerBudgets.KeepsTotal] at hkeeps
    by_cases hallowed : min input.policy.budgets.maxResponseBytes (64 * 1024) ≤
        input.policy.budgets.maxTotalResponseBytes
    · rw [if_pos hallowed] at hpage
      have hfrontUse := flowUse_of_plays hpage rfl hfront
      have hfrontThree := hfrontUse.three
      have hfrontBytes : page.isOk = true →
          scanBytes parts.frontPage ≤ input.policy.budgets.maxTotalResponseBytes := hfrontUse.bytes
      have hfrontGrown := hfrontUse.count_le
      cases hpageOk : page.isOk with
      | false =>
        rw [okBytes_failed _ hpageOk]
        cases htextOk : text.isOk with
        | false => rw [okBytes_failed _ htextOk]; omega
        | true =>
          have := htextThree htextOk
          have := htextBytes htextOk
          rw [okBytes_ok _ htextOk]
          omega
      | true =>
        have := hfrontThree hpageOk
        have := hfrontBytes hpageOk
        rw [okBytes_ok _ hpageOk]
        cases htextOk : text.isOk with
        | false => rw [okBytes_failed _ htextOk]; omega
        | true =>
          have := htextThree htextOk
          have := htextBytes htextOk
          rw [okBytes_ok _ htextOk]
          omega
    · rw [if_neg hallowed] at hpage
      obtain ⟨hpageOk, hmiddleEq⟩ := result_of_refused hpage hfront
      rw [okBytes_failed _ hpageOk]
      cases htextOk : text.isOk with
      | false => rw [okBytes_failed _ htextOk]; omega
      | true =>
        have := htextThree htextOk
        have := htextBytes htextOk
        rw [okBytes_ok _ htextOk]
        omega

/-! ### A target that answers at once

The environment below makes use of all that its policy leaves it. -/

def promptAnswers : FamilyQuery × FamilyQuery :=
  (.fulfilled (.array [sampleRecord]), .rejected (some "ENODATA"))

theorem classifyQueries_prompt (host : String) :
    ∃ target, classifyQueries host promptAnswers.1 promptAnswers.2 (.strings []) 0 = .ok target := by
  have hrecords : queryRecords promptAnswers.1 4 = some [{ address := "8.8.8.8", ttl := 60 }] := by
    decide +kernel
  have hnone : queryRecords promptAnswers.2 6 = some [] := rfl
  have hdecision : (classifyResolvedAddressSet (.strings ["8.8.8.8"]) (.strings [])).isOk = true := by
    decide +kernel
  have hstates : [queryState promptAnswers.1, queryState promptAnswers.2].contains .failed =
      false := by decide
  rw [classifyQueries, hstates, hrecords, hnone, if_neg Bool.false_ne_true]
  dsimp only
  rw [classifyRecords, if_neg (by decide), if_neg (by simp)]
  split
  · rename_i version code blocked hrejected
    rw [List.append_nil, List.map_singleton] at hrejected
    rw [hrejected] at hdecision
    cases hdecision
  · rename_i version addresses hok
    have hexpires : ¬ 0 + minimumTtl ([{ address := "8.8.8.8", ttl := 60 }] ++ []) * 1000 >
        maxSafeInteger := by decide
    dsimp only
    rw [if_neg hexpires]
    exact ⟨_, rfl⟩

def promptResponse (body : List UInt8) : PinnedTransportResponse where
  statusCode := 200
  headers := []
  body := body
  connectedAddress := "8.8.8.8"

theorem plays_clockReading {α : Type} {f : Option Nat → Flow α} {rest : List FlowExchange}
    {result : Option α} (reading : ClockReading) (h : Plays (f (nowValue reading)) rest result) :
    Plays (readClock >>= f) (⟨.now, reading⟩ :: rest) result :=
  plays_ask.mpr (.inr ⟨reading, rest, rfl, h⟩)

theorem plays_prompt {flow : SafeHttpFlowInput} {inputValue : Dynamic.Value FlowField}
    {body : List UInt8} (hinput : parseInput runtime.toNodeRuntime inputValue = some flow)
    (hcanonical : canonicalizeHostname runtime.toNodeRuntime flow.canonicalHost =
      .ok flow.canonicalHost)
    (hdeadline : 100 ≤ flow.deadlineUnixMs) (hbody : body.length ≤ flow.maxTotalResponseBytes) :
    ∃ dispatch, Plays (executeSafeHttpFlow runtime.toFlowRuntime inputValue (.strings []))
      [⟨.now, some 0⟩, ⟨.resolve flow.canonicalHost, promptAnswers⟩, ⟨.now, some 0⟩,
        ⟨.transport dispatch, .ok (.ok (promptResponse body))⟩, ⟨.now, some 0⟩]
      (some (.ok (promptResponse body) 1 0 .complete)) := by
  obtain ⟨target, htarget⟩ := classifyQueries_prompt flow.canonicalHost
  have hafter : afterResponse runtime.toFlowRuntime flow flow.start.sent (promptResponse body) 0 =
      .inl (.ok (promptResponse body) 1 0 .complete) := by
    have htotal : ¬ flow.start.sent.totalResponseBytes + (promptResponse body).body.length >
        flow.maxTotalResponseBytes := by
      rw [show flow.start.sent.totalResponseBytes = 0 from rfl,
        show (promptResponse body).body = body from rfl]
      omega
    rw [afterResponse, if_neg (by omega)]
    dsimp only
    rw [if_neg htotal]
    rfl
  have hzero : nowValue (some 0) = some 0 := by decide
  refine ⟨pinnedDispatch flow (.strings []) flow.start target 0, ?_⟩
  rw [executeSafeHttpFlow, hinput]
  dsimp only
  rw [flowLoop]
  refine plays_clockReading (some 0) ?_
  rw [hzero]
  dsimp only
  rw [if_neg (by omega), resolveAndClassifyHostname, if_neg (by simp [hcanonical]),
    if_neg (by decide), resolver]
  rw [Dialogue.bind_assoc, question_bind]
  refine plays_ask.mpr (.inr ⟨promptAnswers, _, rfl, ?_⟩)
  dsimp only
  rw [pure_eq, done_bind]
  rw [htarget]
  dsimp only
  refine plays_clockReading (some 0) ?_
  rw [hzero]
  dsimp only
  rw [if_neg (by omega), transport, question_bind]
  refine plays_ask.mpr (.inr ⟨.ok (.ok (promptResponse body)), _, rfl, ?_⟩)
  dsimp only
  refine plays_clockReading (some 0) ?_
  rw [hzero]
  dsimp only
  split
  · rename_i result hresult
    rw [hafter] at hresult
    cases hresult
    exact .done _
  · rename_i next hnext
    rw [hafter] at hnext
    cases hnext

theorem plays_promptAnswers (host : String) {maxRequests count : Nat}
    (hroom : count + 1 < maxRequests) :
    Plays (boundedAnswer maxRequests (.resolve host) count)
      [⟨.resolve4 host, promptAnswers.1⟩, ⟨.resolve6 host, promptAnswers.2⟩]
      (some (promptAnswers, count + 2)) :=
  plays_boundedAnswer.mpr (.resolved _ _ hroom)

theorem bounded_prompt {flow : SafeHttpFlowInput} {inputValue : Dynamic.Value FlowField}
    (body : List UInt8) (maxRequests count : Nat)
    (hinput : parseInput runtime.toNodeRuntime inputValue = some flow)
    (hcanonical : canonicalizeHostname runtime.toNodeRuntime flow.canonicalHost =
      .ok flow.canonicalHost)
    (hdeadline : 100 ≤ flow.deadlineUnixMs) (hbody : body.length ≤ flow.maxTotalResponseBytes)
    (hroom : count + 3 ≤ maxRequests) :
    ∃ exchanges result,
      Plays (bounded maxRequests
          (executeSafeHttpFlow runtime.toFlowRuntime inputValue (.strings [])) count)
        exchanges (some (result, count + 3)) ∧
      okBytes (some result) exchanges = body.length := by
  obtain ⟨dispatch, hplays⟩ := plays_prompt hinput hcanonical hdeadline hbody
  have hnow : ∀ count, Plays (boundedAnswer maxRequests .now count) [⟨.now, some 0⟩]
      (some (some 0, count)) := fun count => plays_boundedAnswer.mpr (.now (some 0))
  have hresolve := plays_promptAnswers flow.canonicalHost (by omega : count + 1 < maxRequests)
  have hsent : Plays (boundedAnswer maxRequests (.transport dispatch) (count + 2))
      [⟨.transport dispatch, .ok (.ok (promptResponse body))⟩]
      (some (.ok (.ok (promptResponse body)), count + 3)) :=
    plays_boundedAnswer.mpr (.sent _ (by omega))
  have hinterpreted := (Interpreted.cons (hnow count) (.cons hresolve (.cons (hnow _)
    (.cons hsent (.cons (hnow _) (.nil _))))))
  refine ⟨_, _, plays_bounded.mpr ⟨_, hplays, hinterpreted⟩, ?_⟩
  rw [okBytes_ok _ rfl, (interpreted_count hinterpreted).2.2]
  simp [totalBodyBytes, bodyBytes, promptResponse]

theorem bounded_silent (inputValue : Dynamic.Value FlowField) (maxRequests count : Nat) :
    ∃ exchanges result,
      Plays (bounded maxRequests
          (executeSafeHttpFlow runtime.toFlowRuntime inputValue (.strings [])) count)
        exchanges (some (result, count)) := by
  cases hinput : parseInput runtime.toNodeRuntime inputValue with
  | none =>
    refine ⟨[], .failed .invalidFlow, plays_bounded.mpr ⟨[], ?_, .nil count⟩⟩
    rw [executeSafeHttpFlow, hinput]
    exact .done _
  | some flow =>
    refine ⟨_, .failed .orchestrationFailed, plays_bounded.mpr ⟨[⟨.now, none⟩], ?_,
      .cons (plays_boundedAnswer.mpr (.now none)) (.nil count)⟩⟩
    rw [executeSafeHttpFlow, hinput]
    dsimp only
    rw [flowLoop]
    exact plays_clockReading none (.done _)

theorem resolution_prompt (input : ScannerInput runtime.toNodeRuntime) :
    ∃ exchanges target,
      Plays (bounded input.policy.budgets.maxRequests
          (resolveAndClassifyHostname runtime.toNodeRuntime input.canonicalHost resolver
            (.strings []) 0) 0)
        exchanges (some (.ok target, 2)) := by
  obtain ⟨target, htarget⟩ := classifyQueries_prompt input.canonicalHost
  have hmax := input.sufficient.requests
  have hresolve := plays_promptAnswers input.canonicalHost
    (by omega : 0 + 1 < input.policy.budgets.maxRequests)
  refine ⟨_, target, plays_bounded.mpr ⟨_, ?_, .cons hresolve (.nil _)⟩⟩
  rw [resolveAndClassifyHostname, if_neg (by simp [input.host_canonical]), if_neg (by decide),
    resolver, question_bind]
  refine plays_ask.mpr (.inr ⟨promptAnswers, [], rfl, ?_⟩)
  dsimp only
  rw [htarget]
  exact .done _

theorem splitsInto_prompt {front text : List ScanExchange} {page securityTxt : SafeHttpFlowResult}
    {middle last : Nat}
    (hfront : Plays (bounded input.policy.budgets.maxRequests
        (executeSafeHttpFlow runtime.toFlowRuntime (frontPageInput input 0) (.strings [])) 2)
      front (some (page, middle)))
    (htext : Plays (bounded input.policy.budgets.maxRequests
        (executeSafeHttpFlow runtime.toFlowRuntime (securityTxtInput input 0) (.strings [])) middle)
      text (some (securityTxt, last)))
    (hsafe : 0 + input.policy.budgets.hardDurationSeconds * 1000 ≤ maxSafeInteger) :
    ∃ exchanges parts output,
      SplitsInto runtime input (.strings []) exchanges parts (some page) (some securityTxt) output ∧
      parts.frontPage = front ∧ parts.securityTxt = text := by
  obtain ⟨resolution, target, hresolution⟩ := resolution_prompt input
  exact ⟨_, ⟨resolution, front, text⟩, _,
    ⟨some 0, 0, .ok target, 2, last, some 0, 0, rfl, by decide, hsafe, hresolution,
      .both hfront htext, by decide, rfl⟩, rfl, rfl⟩

/-- Budgets that do not keep the total fail to keep it in some run. -/
theorem exists_overrun (input : ScannerInput runtime.toNodeRuntime)
    (hbudgets : ¬ input.policy.budgets.KeepsTotal) :
    ∃ exchanges parts http securityTxt output,
      SplitsInto runtime input (.strings []) exchanges parts http securityTxt output ∧
      input.policy.budgets.maxTotalResponseBytes <
        okBytes http parts.frontPage + okBytes securityTxt parts.securityTxt := by
  have hduration := input.sufficient.duration
  have hwithin := input.policy.budgets_within.duration
  rw [input.guestSafe] at hwithin
  have hthirty : (budgetCeilings .guestSafe).hardDurationSeconds = 30 := rfl
  have hlarge : maxSafeInteger = 9007199254740991 := rfl
  have hsafe : 0 + input.policy.budgets.hardDurationSeconds * 1000 ≤ maxSafeInteger := by omega
  have htextInput := parseInput_securityTxt hsafe
  have htextBytes : guestSecurityTxtMaxBytes = 32768 := rfl
  rw [ScannerBudgets.KeepsTotal, not_or, not_and_or] at hbudgets
  obtain ⟨hrequests, hsmall⟩ := hbudgets
  by_cases htotal : guestSecurityTxtMaxBytes ≤ input.policy.budgets.maxTotalResponseBytes
  · -- both flows fit into the budget of requests
    have hboth : ¬ (input.policy.budgets.maxRequests < 8 ∨
        input.policy.budgets.maxTotalResponseBytes <
          min input.policy.budgets.maxResponseBytes (64 * 1024)) :=
      hsmall.resolve_left fun hnot => hnot htotal
    have hpageInput := @parseInput_frontPage runtime input 0 hsafe
    rw [if_pos (by omega)] at hpageInput
    obtain ⟨front, page, hfront, hpageBytes⟩ := bounded_prompt
      (List.replicate input.policy.budgets.maxTotalResponseBytes 0)
      input.policy.budgets.maxRequests 2 hpageInput input.host_canonical
      (show 100 ≤ 0 + input.policy.budgets.hardDurationSeconds * 1000 by omega)
      (by simp [probeFlow]) (by omega)
    obtain ⟨text, securityTxt, htext, hbytes⟩ := bounded_prompt [0]
      input.policy.budgets.maxRequests 5 htextInput input.host_canonical
      (show 100 ≤ 0 + input.policy.budgets.hardDurationSeconds * 1000 by omega)
      (show 1 ≤ guestSecurityTxtMaxBytes by omega) (by omega)
    obtain ⟨exchanges, parts, output, hsplits, rfl, rfl⟩ := splitsInto_prompt hfront htext hsafe
    refine ⟨exchanges, parts, _, _, output, hsplits, ?_⟩
    rw [hpageBytes, hbytes, List.length_replicate]
    exact Nat.lt_succ_self _
  · -- the other flow is enough
    obtain ⟨front, page, hfront⟩ := @bounded_silent runtime (frontPageInput input 0)
      input.policy.budgets.maxRequests 2
    obtain ⟨text, securityTxt, htext, hbytes⟩ := bounded_prompt
      (List.replicate guestSecurityTxtMaxBytes 0) input.policy.budgets.maxRequests 2 htextInput
      input.host_canonical
      (show 100 ≤ 0 + input.policy.budgets.hardDurationSeconds * 1000 by omega)
      (by simp [probeFlow]) (by omega)
    obtain ⟨exchanges, parts, output, hsplits, -, rfl⟩ := splitsInto_prompt hfront htext hsafe
    refine ⟨exchanges, parts, _, _, output, hsplits, ?_⟩
    rw [hbytes, List.length_replicate]
    omega

/-- The bodies of the flows that returned well stay within the budget of the policy,
in every run, exactly when its budgets keep the total. The runs are those over any
transport; the one of the repository keeps its limit on each response. -/
theorem totalResponseBytes_run (runtime : ScannerRuntime) (rawInput : Dynamic.Value ScannerField)
    (input : ScannerInput runtime.toNodeRuntime)
    (hinput : scannerInput runtime.toNodeRuntime rawInput = some input) :
    (∀ cidrs exchanges output parts http securityTxt,
      Plays (runGuestSafeScanner runtime rawInput cidrs) exchanges (some (.ok output)) →
      SplitsInto runtime input cidrs exchanges parts http securityTxt output →
      okBytes http parts.frontPage + okBytes securityTxt parts.securityTxt ≤
        input.policy.budgets.maxTotalResponseBytes) ↔
    input.policy.budgets.KeepsTotal := by
  constructor
  · intro hall
    by_contra hbudgets
    obtain ⟨exchanges, parts, http, securityTxt, output, hsplits, hover⟩ :=
      exists_overrun input hbudgets
    have hplays := plays_of_splitsInto hinput (by decide) hsplits
    exact Nat.not_le_of_lt hover (hall _ _ _ _ _ _ hplays hsplits)
  · intro hkeeps cidrs exchanges output parts http securityTxt _ hsplits
    exact okBytes_le hkeeps hsplits

end

/-! ### A policy of one byte -/

def plainRuntime : ScannerRuntime where
  toFlowRuntime := flowNode
  parseAbsoluteUrl := fun _ => none
  dateParse := fun _ => none
  sha256 := fun _ => .fill 0

def budgetRecord (maxRequests maxResponseBytes maxTotalResponseBytes : Nat) :
    Dynamic.Record Dynamic.Scalar where
  fields :=
    [("hard_duration_seconds", .number (some 30)), ("max_requests", .number (some maxRequests)),
      ("max_concurrency", .number (some 4)), ("max_redirects", .number (some 5)),
      ("max_response_bytes", .number (some maxResponseBytes)),
      ("max_total_response_bytes", .number (some maxTotalResponseBytes)),
      ("max_output_bytes", .number (some 2097152)), ("max_crawl_urls", .number (some 0))]
  unique := by simp

def scanRequest (maxRequests maxResponseBytes maxTotalResponseBytes : Nat) :
    Dynamic.Value ScannerField :=
  .record {
    fields :=
      [("schema_version", .scalar (.number (some 1))),
       ("canonical_target", .scalar (.string "example.com")),
       ("policy", .record {
          fields :=
            [("schema_version", .scalar (.number (some 1))),
             ("policy_id", .scalar (.string "outscan-v1")),
             ("policy_version", .scalar (.string "1.0.0")),
             ("profile", .scalar (.string "GUEST_SAFE")),
             ("requested_capabilities", .array (["DNS_READ", "TLS_HANDSHAKE", "HTTP_GET_HEAD",
                "SAME_HOST_REDIRECT", "HTTP_HEADER_OBSERVE"].map .string)),
             ("budgets", .record (budgetRecord maxRequests maxResponseBytes
                maxTotalResponseBytes))]
          unique := by simp })]
    unique := by simp }

def oneByteInput : ScannerInput plainRuntime.toNodeRuntime :=
  (scannerInput plainRuntime.toNodeRuntime (scanRequest 40 1 1)).get (by decide +kernel)

def sevenRequestInput : ScannerInput plainRuntime.toNodeRuntime :=
  (scannerInput plainRuntime.toNodeRuntime (scanRequest 7 1048576 8388608)).get (by decide +kernel)

/-- Seven requests are not enough for both flows. -/
theorem totalResponseBytes_run_sample :
    sevenRequestInput.policy.budgets.KeepsTotal ∧
      ∀ cidrs exchanges output parts http securityTxt,
        Plays (runGuestSafeScanner plainRuntime (scanRequest 7 1048576 8388608) cidrs) exchanges
          (some (.ok output)) →
        SplitsInto plainRuntime sevenRequestInput cidrs exchanges parts http securityTxt output →
        okBytes http parts.frontPage + okBytes securityTxt parts.securityTxt ≤
          sevenRequestInput.policy.budgets.maxTotalResponseBytes := by
  have hinput : scannerInput plainRuntime.toNodeRuntime (scanRequest 7 1048576 8388608) =
      some sevenRequestInput := (Option.some_get _).symm
  have hkeeps : sevenRequestInput.policy.budgets.KeepsTotal := by decide +kernel
  exact ⟨hkeeps, (totalResponseBytes_run plainRuntime _ sevenRequestInput hinput).mpr hkeeps⟩

def oneByteEnvironment (_ : List ScanExchange) : (q : ScanQuestion) → ScanAnswer q
  | .now => some 0
  | .resolve4 _ => promptAnswers.1
  | .resolve6 _ => promptAnswers.2
  | .transport _ => .ok (.ok (promptResponse [65]))

def oneByteTarget : ResolvedTarget where
  canonicalHost := "example.com"
  policyVersion := ipDestinationPolicyVersion
  minimumTtlSeconds := 60
  resolvedAtUnixMs := 0
  expiresAtUnixMs := 60000
  addresses := [{ address := "8.8.8.8", family := .v4 }]
  addresses_ne_nil := by simp

def oneByteResolution : List ScanExchange × (ResolveTargetResult × Nat) :=
  converse oneByteEnvironment [] (bounded 40
    (resolveAndClassifyHostname plainRuntime.toNodeRuntime "example.com" resolver (.strings []) 0) 0)

def oneByteFrontPage : List ScanExchange × (SafeHttpFlowResult × Nat) :=
  converse oneByteEnvironment [] (bounded 40
    (executeSafeHttpFlow plainRuntime.toFlowRuntime (frontPageInput oneByteInput 0) (.strings [])) 2)

def oneByteSecurityTxt : List ScanExchange × (SafeHttpFlowResult × Nat) :=
  converse oneByteEnvironment [] (bounded 40
    (executeSafeHttpFlow plainRuntime.toFlowRuntime (securityTxtInput oneByteInput 0)
      (.strings [])) 5)

/-- Both pages have the one byte that the whole run may have. -/
theorem totalResponseBytes_exceeded :
    scannerInput plainRuntime.toNodeRuntime (scanRequest 40 1 1) = some oneByteInput ∧
      oneByteInput.policy.budgets.maxTotalResponseBytes = 1 ∧
      ¬ ∀ cidrs exchanges output parts http securityTxt,
        Plays (runGuestSafeScanner plainRuntime (scanRequest 40 1 1) cidrs) exchanges
          (some (.ok output)) →
        SplitsInto plainRuntime oneByteInput cidrs exchanges parts http securityTxt output →
        okBytes http parts.frontPage + okBytes securityTxt parts.securityTxt ≤
          oneByteInput.policy.budgets.maxTotalResponseBytes := by
  have hinput : scannerInput plainRuntime.toNodeRuntime (scanRequest 40 1 1) = some oneByteInput :=
    (Option.some_get _).symm
  have htotal : oneByteInput.policy.budgets.maxTotalResponseBytes = 1 := by decide +kernel
  have hresolved : oneByteResolution.2 = (.ok oneByteTarget, 2) := by decide +kernel
  have hpage : oneByteFrontPage.2 = (.ok (promptResponse [65]) 1 0 .complete, 5) := by
    decide +kernel
  have htext : oneByteSecurityTxt.2 = (.ok (promptResponse [65]) 1 0 .complete, 8) := by
    decide +kernel
  have hbytes : okBytes (some oneByteFrontPage.2.1) oneByteFrontPage.1 +
      okBytes (some oneByteSecurityTxt.2.1) oneByteSecurityTxt.1 = 2 := by decide +kernel
  have hmax : oneByteInput.policy.budgets.maxRequests = 40 := by decide +kernel
  have hhost : oneByteInput.canonicalHost = "example.com" := by decide +kernel
  have hsafe : 0 + oneByteInput.policy.budgets.hardDurationSeconds * 1000 ≤ maxSafeInteger := by
    decide +kernel
  refine ⟨hinput, htotal, fun hall => ?_⟩
  have hresolution : Plays (bounded 40 (resolveAndClassifyHostname plainRuntime.toNodeRuntime
      "example.com" resolver (.strings []) 0) 0) oneByteResolution.1
      (some (.ok oneByteTarget, 2)) := by
    rw [← hresolved]
    exact plays_converse _ _ _
  have hfront : Plays (bounded 40 (executeSafeHttpFlow plainRuntime.toFlowRuntime
      (frontPageInput oneByteInput 0) (.strings [])) 2) oneByteFrontPage.1
      (some (oneByteFrontPage.2.1, 5)) := by
    rw [show (oneByteFrontPage.2.1, 5) = oneByteFrontPage.2 by rw [hpage]]
    exact plays_converse _ _ _
  have hsecurityTxt : Plays (bounded 40 (executeSafeHttpFlow plainRuntime.toFlowRuntime
      (securityTxtInput oneByteInput 0) (.strings [])) 5) oneByteSecurityTxt.1
      (some (oneByteSecurityTxt.2.1, 8)) := by
    rw [show (oneByteSecurityTxt.2.1, 8) = oneByteSecurityTxt.2 by rw [htext]]
    exact plays_converse _ _ _
  rw [← hmax] at hfront hsecurityTxt hresolution
  rw [← hhost] at hresolution
  have hsplits : ∃ exchanges output, SplitsInto plainRuntime oneByteInput (.strings []) exchanges
      ⟨oneByteResolution.1, oneByteFrontPage.1, oneByteSecurityTxt.1⟩ (some oneByteFrontPage.2.1)
      (some oneByteSecurityTxt.2.1) output :=
    ⟨_, _, ⟨some 0, 0, .ok oneByteTarget, 2, 8, some 0, 0, rfl, by decide, hsafe, hresolution,
      .both hfront hsecurityTxt, by decide, rfl⟩⟩
  obtain ⟨exchanges, output, hsplits⟩ := hsplits
  have hle := hall _ _ _ _ _ _ (plays_of_splitsInto hinput (by decide) hsplits) hsplits
  rw [htotal, hbytes] at hle
  exact absurd hle (by decide)

end Outscan

import Outscan.Target.PinnedRequest
import Outscan.Target.Resolver

/-! The flow of requests to one host: retries, redirects to the same host, one
deadline and one budget of response bytes. -/
namespace Outscan

def maxRedirectsBound : Nat := 5
def maxRetriesBound : Nat := 2
def maxTotalResponseBytesBound : Nat := 192 * 1024 * 1024

def isRedirectStatus (status : Nat) : Bool :=
  status == 301 || status == 302 || status == 303 || status == 307 || status == 308

structure UrlComponents where
  protocol : String
  username : String
  password : String
  port : String
  hostname : String
  pathname : String
  search : String
deriving DecidableEq, Repr

/-- What the flow takes from Node: host names, and `new URL(location, base)`,
which is `none` when it throws. -/
structure FlowRuntime extends NodeRuntime where
  parseUrl : String → String → Option UrlComponents

structure SafeHttpFlowInput where
  canonicalHost : String
  protocol : Protocol
  method : HttpMethod
  path : String
  deadlineUnixMs : Nat
  maxRedirects : Nat
  maxRetries : Nat
  maxTotalResponseBytes : Nat
  transportLimits : PinnedTransportLimits
  path_valid : isValidOriginFormPath path = true
deriving DecidableEq, Repr

inductive SafeHttpFlowFailure where
  | invalidFlow | flowDeadlineExceeded | invalidRedirect | redirectDowngrade
  | redirectLimitExceeded | totalResponseLimitExceeded | orchestrationFailed
  | resolve (code : ResolveTargetFailure)
  | transport (code : PinnedTransportFailure)
deriving DecidableEq, Repr

inductive StopReason where
  | complete | crossHostRedirect
deriving DecidableEq, Repr

inductive SafeHttpFlowResult where
  | ok (response : PinnedTransportResponse) (requestCount redirectCount : Nat)
      (stopReason : StopReason)
  | failed (code : SafeHttpFlowFailure)
deriving DecidableEq, Repr

structure CurrentRequest where
  protocol : Protocol
  method : HttpMethod
  path : String
deriving DecidableEq, Repr

inductive RedirectDecision where
  | none_ | crossHost | invalid | downgrade
  | follow (request : CurrentRequest)
deriving DecidableEq, Repr

inductive FlowField where
  | scalar (value : Dynamic.Scalar)
  | record (value : Dynamic.Record Dynamic.Scalar)

def FlowField.text? : FlowField → Option String
  | .scalar (.string value) => some value
  | _ => none

def FlowField.protocol? (field : FlowField) : Option Protocol :=
  match field.text? with
  | some "http:" => some .http
  | some "https:" => some .https
  | _ => none

def FlowField.method? (field : FlowField) : Option HttpMethod :=
  match field.text? with
  | some "GET" => some .get
  | some "HEAD" => some .head
  | _ => none

def FlowField.integer? (field : FlowField) (minimum maximum : Nat) : Option Nat :=
  match field with
  | .scalar value => boundedInteger value minimum maximum
  | .record _ => none

def FlowField.limits? : FlowField → Option PinnedTransportLimits
  | .scalar _ => none
  | .record value => parsePinnedTransportLimits (.record value)

def inputKeys : List String :=
  ["canonical_host", "protocol", "method", "path", "deadline_unix_ms", "max_redirects",
    "max_retries", "max_total_response_bytes", "transport_limits"]

def parseInput (node : NodeRuntime) (input : Dynamic.Value FlowField) :
    Option SafeHttpFlowInput :=
  match input with
  | .other => none
  | .record record =>
    if !record.hasExactKeys inputKeys then none
    else do
      let field := record.get (.scalar .other)
      let canonicalHost ← (field "canonical_host").text?
      let transportLimits ← (field "transport_limits").limits?
      let protocol ← (field "protocol").protocol?
      let method ← (field "method").method?
      let path ← (field "path").text?
      let deadlineUnixMs ← (field "deadline_unix_ms").integer? 0 maxSafeInteger
      let maxRedirects ← (field "max_redirects").integer? 0 maxRedirectsBound
      let maxRetries ← (field "max_retries").integer? 0 maxRetriesBound
      let maxTotalResponseBytes ←
        (field "max_total_response_bytes").integer? 1 maxTotalResponseBytesBound
      if h : canonicalizeHostname node canonicalHost = .ok canonicalHost ∧
          isValidOriginFormPath path = true ∧
          transportLimits.maxResponseBytes ≤ maxTotalResponseBytes then
        some {
          canonicalHost, protocol, method, path, deadlineUnixMs, maxRedirects, maxRetries,
          maxTotalResponseBytes, transportLimits
          path_valid := h.2.1 }
      else none

/-- What `/[\0\r\n\\]/` matches. -/
def isForbiddenInLocation (c : Char) : Bool :=
  c.toNat == 0 || c == '\r' || c == '\n' || c == '\\'

def redirectDecision (runtime : FlowRuntime) (response : PinnedTransportResponse)
    (current : CurrentRequest) (canonicalHost : String) : RedirectDecision :=
  if !isRedirectStatus response.statusCode then .none_
  else
    match response.headers.filter (·.name == "location") with
    | [] => .none_
    | _ :: _ :: _ => .invalid
    | [header] =>
      let location := header.value
      if utf16Length location.toList > 8192 || location.toList.any isForbiddenInLocation then
        .invalid
      else
        match runtime.parseUrl location
            (current.protocol.text ++ "//" ++ canonicalHost ++ current.path) with
        | none => .invalid
        | some destination =>
          if destination.username ≠ "" || destination.password ≠ "" || destination.port ≠ "" then
            .invalid
          else if destination.protocol ≠ "http:" && destination.protocol ≠ "https:" then .invalid
          else
            match canonicalizeHostname runtime.toNodeRuntime destination.hostname with
            | .error _ => .invalid
            | .ok host =>
              if host ≠ canonicalHost then .crossHost
              else if current.protocol = .https && destination.protocol = "http:" then .downgrade
              else
                let path := destination.pathname ++ destination.search
                if !isValidOriginFormPath path then .invalid
                else
                  .follow {
                    protocol := if destination.protocol = "http:" then .http else .https
                    method := current.method
                    path := path }

def retryable (code : SafeHttpFlowFailure) : Bool :=
  code = .resolve .dnsLookupFailed || code = .transport .transportError ||
    code = .transport .timeout

/-! ### The loop -/

structure Dispatch where
  target : ResolvedTarget
  request : PinnedRequestSpec
  limits : PinnedTransportLimits
  configuredInternalCidrs : UnknownList

inductive FlowQuestion where
  | now
  | resolve (hostname : String)
  | transport (dispatch : Dispatch)

/-- The transport may throw. -/
abbrev FlowAnswer : FlowQuestion → Type
  | .now => ClockReading
  | .resolve _ => FamilyQuery × FamilyQuery
  | .transport _ => Except Unit PinnedTransportResult

abbrev Flow (α : Type) := Dialogue FlowQuestion FlowAnswer α

abbrev FlowExchange := Dialogue.Exchange FlowQuestion FlowAnswer

def readClock : Flow (Option Nat) := do
  let reading ← Dialogue.question FlowQuestion.now
  return nowValue reading

def resolver (hostname : String) : Flow (FamilyQuery × FamilyQuery) :=
  Dialogue.question (FlowQuestion.resolve hostname)

def transport (dispatch : Dispatch) : Flow (Except Unit PinnedTransportResult) :=
  Dialogue.question (FlowQuestion.transport dispatch)

structure FlowState where
  current : CurrentRequest
  retries : Nat
  requestCount : Nat
  redirectCount : Nat
  totalResponseBytes : Nat
deriving DecidableEq, Repr

def FlowState.retry (s : FlowState) : FlowState := { s with retries := s.retries + 1 }

def pinnedDispatch (input : SafeHttpFlowInput) (configuredInternalCidrs : UnknownList)
    (s : FlowState) (target : ResolvedTarget) (requestTime : Nat) : Dispatch where
  target := target
  request :=
    { protocol := s.current.protocol
      method := s.current.method
      path := s.current.path
      pinnedAddress := (target.addresses.get ⟨s.retries % target.addresses.length,
        Nat.mod_lt _ (List.length_pos_iff.mpr target.addresses_ne_nil)⟩).address
      nowUnixMs := requestTime }
  limits :=
    { input.transportLimits with
      timeoutMs := min input.transportLimits.timeoutMs (input.deadlineUnixMs - requestTime) }
  configuredInternalCidrs := configuredInternalCidrs

def FlowState.budget (input : SafeHttpFlowInput) (s : FlowState) : Nat :=
  (input.maxRedirects - s.redirectCount) * (input.maxRetries + 1) + (input.maxRetries - s.retries)

theorem budget_retry {input : SafeHttpFlowInput} {s : FlowState}
    (h : s.retries < input.maxRetries) : s.retry.budget input + 1 = s.budget input := by
  simp only [FlowState.budget, FlowState.retry]
  omega

theorem budget_redirect {input : SafeHttpFlowInput} {s next : FlowState}
    (h : s.redirectCount < input.maxRedirects) (hredirect : next.redirectCount = s.redirectCount + 1)
    (hretries : next.retries = 0) : next.budget input + 1 ≤ s.budget input := by
  simp only [FlowState.budget, hredirect, hretries]
  have hsplit : input.maxRedirects - s.redirectCount =
      (input.maxRedirects - (s.redirectCount + 1)) + 1 := by omega
  rw [hsplit, Nat.succ_mul]
  omega

def afterFailure (input : SafeHttpFlowInput) (s : FlowState) (code : SafeHttpFlowFailure) :
    SafeHttpFlowResult ⊕ FlowState :=
  if retryable code && s.retries < input.maxRetries then .inr s.retry else .inl (.failed code)

def FlowState.sent (s : FlowState) : FlowState := { s with requestCount := s.requestCount + 1 }

def FlowState.redirected (s : FlowState) (totalResponseBytes : Nat) (request : CurrentRequest) :
    FlowState :=
  { s with
    totalResponseBytes := totalResponseBytes
    redirectCount := s.redirectCount + 1
    retries := 0
    current := request }

/-- After a response that was complete at `completedAt`. -/
def afterResponse (runtime : FlowRuntime) (input : SafeHttpFlowInput) (s : FlowState)
    (response : PinnedTransportResponse) (completedAt : Nat) : SafeHttpFlowResult ⊕ FlowState :=
  if completedAt ≥ input.deadlineUnixMs then .inl (.failed .flowDeadlineExceeded)
  else
    let totalResponseBytes := s.totalResponseBytes + response.body.length
    if totalResponseBytes > input.maxTotalResponseBytes then
      .inl (.failed .totalResponseLimitExceeded)
    else
      match redirectDecision runtime response s.current input.canonicalHost with
      | .none_ => .inl (.ok response s.requestCount s.redirectCount .complete)
      | .crossHost => .inl (.ok response s.requestCount s.redirectCount .crossHostRedirect)
      | .invalid => .inl (.failed .invalidRedirect)
      | .downgrade => .inl (.failed .redirectDowngrade)
      | .follow request =>
        if s.redirectCount ≥ input.maxRedirects then .inl (.failed .redirectLimitExceeded)
        else .inr (s.redirected totalResponseBytes request)

theorem afterFailure_eq_inr {input : SafeHttpFlowInput} {s next : FlowState}
    {code : SafeHttpFlowFailure} (h : afterFailure input s code = .inr next) :
    s.retries < input.maxRetries ∧ next = s.retry := by
  rw [afterFailure] at h
  split at h
  · rename_i hretry
    cases h
    exact ⟨by simpa using (Bool.and_eq_true_iff.mp hretry).2, rfl⟩
  · cases h

theorem afterFailure_eq_inl {input : SafeHttpFlowInput} {s : FlowState}
    {code : SafeHttpFlowFailure} {result : SafeHttpFlowResult}
    (h : afterFailure input s code = .inl result) : result = .failed code := by
  rw [afterFailure] at h
  split at h
  · cases h
  · cases h
    rfl

theorem afterResponse_eq_inr {runtime : FlowRuntime} {input : SafeHttpFlowInput}
    {s next : FlowState} {response : PinnedTransportResponse} {completedAt : Nat}
    (h : afterResponse runtime input s response completedAt = .inr next) :
    s.totalResponseBytes + response.body.length ≤ input.maxTotalResponseBytes ∧
      s.redirectCount < input.maxRedirects ∧
      ∃ request, redirectDecision runtime response s.current input.canonicalHost = .follow request ∧
        next = s.redirected (s.totalResponseBytes + response.body.length) request := by
  rw [afterResponse] at h
  split at h
  · cases h
  · dsimp only at h
    split at h
    · cases h
    · rename_i htotal
      split at h
      · cases h
      · cases h
      · cases h
      · cases h
      · rename_i request hdecision
        split at h
        · cases h
        · rename_i hredirects
          cases h
          exact ⟨Nat.le_of_not_gt htotal, Nat.lt_of_not_ge hredirects, request, hdecision, rfl⟩

theorem afterResponse_eq_inl {runtime : FlowRuntime} {input : SafeHttpFlowInput} {s : FlowState}
    {response : PinnedTransportResponse} {completedAt : Nat} {result : SafeHttpFlowResult}
    (h : afterResponse runtime input s response completedAt = .inl result) :
    (∃ code, result = .failed code) ∨
      s.totalResponseBytes + response.body.length ≤ input.maxTotalResponseBytes ∧
        ∃ stop, result = .ok response s.requestCount s.redirectCount stop := by
  rw [afterResponse] at h
  split at h
  · cases h
    exact .inl ⟨_, rfl⟩
  · dsimp only at h
    split at h
    · cases h
      exact .inl ⟨_, rfl⟩
    · rename_i htotal
      split at h
      · cases h
        exact .inr ⟨Nat.le_of_not_gt htotal, _, rfl⟩
      · cases h
        exact .inr ⟨Nat.le_of_not_gt htotal, _, rfl⟩
      · cases h
        exact .inl ⟨_, rfl⟩
      · cases h
        exact .inl ⟨_, rfl⟩
      · split at h
        · cases h
          exact .inl ⟨_, rfl⟩
        · cases h

/-- The body of `while (true)`, again and again. -/
def flowLoop (runtime : FlowRuntime) (input : SafeHttpFlowInput)
    (configuredInternalCidrs : UnknownList) (s : FlowState) : Flow SafeHttpFlowResult := do
  match ← readClock with
  | none => return .failed .orchestrationFailed
  | some resolutionTime =>
  if resolutionTime ≥ input.deadlineUnixMs then return .failed .flowDeadlineExceeded
  else
  match ← resolveAndClassifyHostname runtime.toNodeRuntime input.canonicalHost resolver
      configuredInternalCidrs resolutionTime with
  | .failed code _ =>
    match _h : afterFailure input s (.resolve code) with
    | .inl result => return result
    | .inr next => flowLoop runtime input configuredInternalCidrs next
  | .ok target =>
  match ← readClock with
  | none => return .failed .orchestrationFailed
  | some requestTime =>
  if input.deadlineUnixMs < requestTime + 100 then return .failed .flowDeadlineExceeded
  else
  match ← transport (pinnedDispatch input configuredInternalCidrs s target requestTime) with
  | .error _ => return .failed .orchestrationFailed
  | .ok (.error code) =>
    match _h : afterFailure input s.sent (.transport code) with
    | .inl result => return result
    | .inr next => flowLoop runtime input configuredInternalCidrs next
  | .ok (.ok response) =>
  match ← readClock with
  | none => return .failed .orchestrationFailed
  | some completedAt =>
    match _h : afterResponse runtime input s.sent response completedAt with
    | .inl result => return result
    | .inr next => flowLoop runtime input configuredInternalCidrs next
termination_by s.budget input
decreasing_by
  · obtain ⟨hretries, rfl⟩ := afterFailure_eq_inr _h
    have := budget_retry hretries
    omega
  · obtain ⟨hretries, rfl⟩ := afterFailure_eq_inr _h
    have := budget_retry hretries
    have hsent : s.sent.budget input = s.budget input := rfl
    omega
  · obtain ⟨-, hredirects, request, -, rfl⟩ := afterResponse_eq_inr _h
    exact budget_redirect (s := s.sent) hredirects rfl rfl

def SafeHttpFlowInput.start (input : SafeHttpFlowInput) : FlowState where
  current := { protocol := input.protocol, method := input.method, path := input.path }
  retries := 0
  requestCount := 0
  redirectCount := 0
  totalResponseBytes := 0

def executeSafeHttpFlow (runtime : FlowRuntime) (inputValue : Dynamic.Value FlowField)
    (configuredInternalCidrs : UnknownList) : Flow SafeHttpFlowResult :=
  match parseInput runtime.toNodeRuntime inputValue with
  | none => return .failed .invalidFlow
  | some input => flowLoop runtime input configuredInternalCidrs input.start

end Outscan

import Outscan.Target.PinnedTransport

/-! Whatever order the events come in, a pinned request settles once, and well only
on a response of the pinned address that kept every limit. -/
namespace Outscan

open Machine Numeral

/-! ### The history of a request -/

def TransportEvent.isResponse : TransportEvent → Bool
  | .response _ => true
  | _ => false

def responseCount (events : List TransportEvent) : Nat := events.countP (·.isResponse)

def chunkOf (index : Nat) : TransportEvent → Option Dynamic.Scalar
  | .data other chunk => if other = index then some chunk else none
  | _ => none

def chunksOf (index : Nat) (events : List TransportEvent) : List Dynamic.Scalar :=
  events.filterMap (chunkOf index)

def bytesOf (chunks : List Dynamic.Scalar) : List UInt8 :=
  (chunks.filterMap chunkBytes).flatten

section Machine

variable {setup : TransportSetup}

variable (setup) in
/-- The socket has been connected to `address`, which is the pinned one. -/
def ConnectedTo (events : List TransportEvent) (address : String) : Prop :=
  ∃ before remote after, events = before ++ .connect remote :: after ∧
    normalizedAddress remote = some address ∧
    normalizedAddress (some setup.pinnedAddress) = some address

variable (setup) in
structure Heard (events : List TransportEvent) (index : Nat) (listening : Listening) : Prop where
  order : ∃ before incoming after, events = before ++ .response incoming :: after ∧
    responseCount before = index ∧ ConnectedTo setup before listening.responseAddress ∧
    acceptResponse setup (some listening.responseAddress) incoming =
      .ok { listening with chunks := [], received := 0 } ∧
    listening.chunks.map some = (chunksOf index after).map chunkBytes
  received : listening.received = listening.chunks.flatten.length
  within : listening.received ≤ setup.limits.maxResponseBytes

variable (setup) in
structure Concluded (events : List TransportEvent) (response : PinnedTransportResponse) : Prop where
  order : ∃ before index after listening,
    events = before ++ .ended index true :: after ∧ Heard setup before index listening ∧
    (listening.length = none ∨ listening.length = some listening.received) ∧
    response = {
      statusCode := listening.statusCode
      headers := listening.headers
      body := listening.chunks.flatten
      connectedAddress := listening.responseAddress }

theorem ConnectedTo.append {events : List TransportEvent} {address : String}
    (h : ConnectedTo setup events address) (later : List TransportEvent) :
    ConnectedTo setup (events ++ later) address := by
  obtain ⟨before, remote, after, rfl, haddress⟩ := h
  exact ⟨before, remote, after ++ later, by simp, haddress⟩

theorem Concluded.append {events : List TransportEvent} {response : PinnedTransportResponse}
    (h : Concluded setup events response) (later : List TransportEvent) :
    Concluded setup (events ++ later) response := by
  obtain ⟨before, index, after, listening, rfl, hrest⟩ := h.order
  exact ⟨before, index, after ++ later, listening, by simp, hrest⟩

theorem responseCount_append (first second : List TransportEvent) :
    responseCount (first ++ second) = responseCount first + responseCount second :=
  List.countP_append ..

theorem chunksOf_append (index : Nat) (first second : List TransportEvent) :
    chunksOf index (first ++ second) = chunksOf index first ++ chunksOf index second :=
  List.filterMap_append ..

theorem Heard.append_other {events : List TransportEvent} {index : Nat} {listening : Listening}
    {event : TransportEvent} (h : Heard setup events index listening)
    (hother : chunkOf index event = none) : Heard setup (events ++ [event]) index listening := by
  obtain ⟨before, incoming, after, rfl, hindex, hconnected, haccepted, hchunks⟩ := h.order
  refine ⟨⟨before, incoming, after ++ [event], by simp, hindex, hconnected, haccepted, ?_⟩,
    h.received, h.within⟩
  rw [chunksOf_append, hchunks]
  simp [chunksOf, hother]

theorem Heard.append_data {events : List TransportEvent} {index : Nat} {listening : Listening}
    {chunk : Dynamic.Scalar} {buffer : List UInt8} (h : Heard setup events index listening)
    (hbytes : chunkBytes chunk = some buffer)
    (hwithin : listening.received + buffer.length ≤ setup.limits.maxResponseBytes) :
    Heard setup (events ++ [.data index chunk]) index
      { listening with
        received := listening.received + buffer.length
        chunks := listening.chunks ++ [buffer] } := by
  obtain ⟨before, incoming, after, rfl, hindex, hconnected, haccepted, hchunks⟩ := h.order
  refine ⟨⟨before, incoming, after ++ [.data index chunk], by simp, hindex, hconnected, haccepted,
    ?_⟩, ?_, hwithin⟩
  · have hone : chunksOf index [.data index chunk] = [chunk] := by simp [chunksOf, chunkOf]
    rw [chunksOf_append, hone, List.map_append, List.map_append, hchunks, List.map_singleton,
      List.map_singleton, hbytes]
  · dsimp only
    rw [List.flatten_append, List.length_append, h.received]
    simp

variable (setup) in
structure Pending (events : List TransportEvent) (s : TransportState) : Prop where
  count : s.responses.length = responseCount events
  connected : ∀ address ∈ s.connectedAddress, ConnectedTo setup events address
  heard : ∀ index listening, s.listening? index = some listening →
    Heard setup events index listening

def TransportEffect.result? : TransportEffect → Option PinnedTransportResult
  | .resolve result => some result
  | _ => none

def resultsOf (effects : List TransportEffect) : List PinnedTransportResult :=
  effects.filterMap (·.result?)

variable (setup) in
/-- Where a run stands: not settled and pending, or settled with one result, which
concludes the events when it is a good one. -/
inductive Settlement (events : List TransportEvent) :
    List TransportEffect → TransportState → Prop where
  | pending {s} (hopen : s.settled = false) (h : Pending setup events s) : Settlement events [] s
  | settled {effects s} (hsettled : s.settled = true) (result : PinnedTransportResult)
      (hresults : resultsOf effects = [result])
      (hgood : ∀ response, result = .ok response → Concluded setup events response) :
      Settlement events effects s

/-! ### One event -/

section Step

variable {events : List TransportEvent} {s : TransportState}

theorem settlement_fail (hopen : s.settled = false) (code : PinnedTransportFailure) :
    Settlement setup events (s.fail code).1 (s.fail code).2 := by
  rw [TransportState.fail, if_neg (ne_true_of_eq_false hopen)]
  refine .settled rfl (.error code) ?_ (fun response hresult => nomatch hresult)
  cases s.response <;> rfl

/-- After the settlement no callback has an effect. -/
theorem transportStep_settled (h : s.settled = true) (event : TransportEvent) :
    (transportStep setup s event).1 = [] ∧ (transportStep setup s event).2.settled = true := by
  have hfail : ∀ (t : TransportState) code, t.settled = true → (t.fail code).1 = [] ∧
      (t.fail code).2.settled = true := by
    intro t code ht
    rw [TransportState.fail, if_pos ht]
    exact ⟨rfl, ht⟩
  cases event with
  | initThrew | requestError | timeout => exact hfail s _ h
  | socket =>
    rw [transportStep]
    split <;> exact ⟨rfl, h⟩
  | connect remoteAddress =>
    rw [transportStep]
    split
    · rw [onConnect]
      dsimp only
      split
      · split
        · exact hfail _ _ h
        · exact ⟨rfl, h⟩
      · exact hfail _ _ h
    · exact ⟨rfl, h⟩
  | response incoming =>
    rw [transportStep, onResponse]
    dsimp only
    split
    · exact hfail _ _ h
    · exact ⟨rfl, h⟩
  | data index chunk =>
    rw [transportStep]
    split
    · exact ⟨rfl, h⟩
    · rw [onData, if_pos h]
      exact ⟨rfl, h⟩
  | aborted index | responseError index =>
    rw [transportStep]
    split
    · exact ⟨rfl, h⟩
    · exact hfail s _ h
  | ended index complete =>
    rw [transportStep]
    split
    · exact ⟨rfl, h⟩
    · rw [onEnd, if_pos h]
      exact ⟨rfl, h⟩

theorem Pending.append_other {s' : TransportState} {event : TransportEvent}
    (h : Pending setup events s) (hresponses : s'.responses = s.responses)
    (hresponse : event.isResponse = false) (hchunk : ∀ index, chunkOf index event = none)
    (hconnected : ∀ address ∈ s'.connectedAddress,
      ConnectedTo setup (events ++ [event]) address) :
    Pending setup (events ++ [event]) s' := by
  refine ⟨?_, hconnected, fun index listening hlistening => ?_⟩
  · rw [hresponses, h.count, responseCount_append]
    simp [responseCount, hresponse]
  · rw [TransportState.listening?, hresponses] at hlistening
    exact (h.heard index listening hlistening).append_other (hchunk index)

theorem settlement_connect (hopen : s.settled = false) (h : Pending setup events s)
    (remoteAddress : Option String) :
    Settlement setup (events ++ [.connect remoteAddress]) (onConnect setup s remoteAddress).1
      (onConnect setup s remoteAddress).2 := by
  rw [onConnect]
  dsimp only
  split
  · rename_i actual expected hactual hexpected
    split
    · exact settlement_fail (by exact hopen) _
    · rename_i hsame
      refine .pending hopen (h.append_other rfl rfl (fun _ => rfl) ?_)
      intro address haddress
      cases haddress
      refine ⟨events, remoteAddress, [], rfl, hactual, ?_⟩
      rw [hexpected, not_not.mp hsame]
  · exact settlement_fail (by exact hopen) _

theorem heard_of_accepted (h : Pending setup events s) {incoming : IncomingMessage}
    {listening : Listening}
    (haccepted : acceptResponse setup s.connectedAddress incoming = .ok listening) :
    Heard setup (events ++ [.response incoming]) (responseCount events) listening := by
  cases haddress : s.connectedAddress with
  | none =>
    rw [haddress] at haccepted
    cases haccepted
  | some address =>
    rw [haddress] at haccepted
    -- only the last branch of the checks accepts, and it starts with no chunk
    have hfresh : listening.responseAddress = address ∧ listening.chunks = [] ∧
        listening.received = 0 := by
      rw [acceptResponse] at haccepted
      split at haccepted
      · repeat' split at haccepted
        all_goals cases haccepted
        exact ⟨rfl, rfl, rfl⟩
      · cases haccepted
    obtain ⟨rfl, hchunks, hreceived⟩ := hfresh
    refine ⟨⟨events, incoming, [], rfl, rfl, h.connected _ haddress, ?_, ?_⟩, ?_, ?_⟩
    · rw [haccepted]
      cases listening
      cases hchunks
      cases hreceived
      rfl
    · rw [hchunks]
      rfl
    · rw [hreceived, hchunks]
      rfl
    · rw [hreceived]
      exact Nat.zero_le _

theorem settlement_response (hopen : s.settled = false) (h : Pending setup events s)
    (incoming : IncomingMessage) :
    Settlement setup (events ++ [.response incoming]) (onResponse setup s incoming).1
      (onResponse setup s incoming).2 := by
  rw [onResponse]
  dsimp only
  split
  · exact settlement_fail (by exact hopen) _
  · rename_i listening haccepted
    refine .pending hopen ⟨?_, fun address haddress => (h.connected address haddress).append _, ?_⟩
    · rw [List.length_append, h.count, responseCount_append]
      rfl
    · intro index other hother
      rw [TransportState.listening?] at hother
      dsimp only at hother
      by_cases hlast : index = s.responses.length
      · subst hlast
        rw [List.getElem?_append_right (Nat.le_refl _), Nat.sub_self] at hother
        cases hother
        rw [h.count]
        exact heard_of_accepted h haccepted
      · have hlt : index < s.responses.length := by
          by_contra hge
          rw [List.getElem?_eq_none (by simp; omega)] at hother
          cases hother
        rw [List.getElem?_append_left hlt] at hother
        exact (h.heard index other hother).append_other rfl

theorem listening?_withListening {index place : Nat} {listening other : Listening}
    (h : (s.withListening index listening).listening? place = some other) :
    (place = index ∧ other = listening) ∨ (place ≠ index ∧ s.listening? place = some other) := by
  rw [TransportState.listening?, TransportState.withListening] at h
  dsimp only at h
  by_cases hplace : place = index
  · subst hplace
    by_cases hlt : place < s.responses.length
    · rw [List.getElem?_set_self hlt] at h
      cases h
      exact .inl ⟨rfl, rfl⟩
    · rw [List.getElem?_eq_none (by simp; omega)] at h
      cases h
  · rw [List.getElem?_set_ne (Ne.symm hplace)] at h
    exact .inr ⟨hplace, h⟩

theorem settlement_data (hopen : s.settled = false) (h : Pending setup events s) {index : Nat}
    {listening : Listening} (hlistening : s.listening? index = some listening)
    (chunk : Dynamic.Scalar) :
    Settlement setup (events ++ [.data index chunk]) (onData setup s index listening chunk).1
      (onData setup s index listening chunk).2 := by
  rw [onData, if_neg (ne_true_of_eq_false hopen)]
  cases hbytes : chunkBytes chunk with
  | none => exact settlement_fail (by exact hopen) _
  | some buffer =>
    dsimp only
    split
    · exact settlement_fail (by exact hopen) _
    · rename_i hwithin
      refine .pending hopen ⟨?_, fun address haddress => (h.connected address haddress).append _, ?_⟩
      · rw [TransportState.withListening, List.length_set, h.count, responseCount_append]
        rfl
      · intro place other hother
        obtain ⟨rfl, rfl⟩ | ⟨hplace, hother⟩ := listening?_withListening hother
        · exact (h.heard place listening hlistening).append_data hbytes (Nat.le_of_not_gt hwithin)
        · refine (h.heard place other hother).append_other ?_
          exact if_neg (Ne.symm hplace)

theorem settlement_end (hopen : s.settled = false) (h : Pending setup events s) {index : Nat}
    {listening : Listening} (hlistening : s.listening? index = some listening) (complete : Bool) :
    Settlement setup (events ++ [.ended index complete]) (onEnd s listening complete).1
      (onEnd s listening complete).2 := by
  rw [onEnd, if_neg (ne_true_of_eq_false hopen)]
  split
  · exact settlement_fail (by exact hopen) _
  · rename_i hgood
    rw [TransportState.settle, if_neg (ne_true_of_eq_false hopen)]
    refine .settled rfl _ rfl fun response hresponse => ?_
    cases hresponse
    simp only [Bool.or_eq_true, Bool.not_eq_true', Bool.and_eq_true, decide_eq_true_eq, not_or,
      Bool.not_eq_false, not_and, not_not] at hgood
    obtain ⟨rfl, hlength⟩ := hgood
    refine ⟨events, index, [], listening, rfl, h.heard index listening hlistening, ?_, rfl⟩
    cases hdeclared : listening.length with
    | none => exact .inl rfl
    | some length =>
      refine .inr ?_
      rw [← hdeclared]
      exact hlength (by rw [hdeclared]; rfl)

theorem settlement_step (hopen : s.settled = false) (h : Pending setup events s)
    (event : TransportEvent) :
    Settlement setup (events ++ [event]) (transportStep setup s event).1
      (transportStep setup s event).2 := by
  have hsame : event.isResponse = false → (∀ index, chunkOf index event = none) →
      Settlement setup (events ++ [event]) [] s := fun hresponse hchunk =>
    .pending hopen (h.append_other rfl hresponse hchunk fun address haddress =>
      (h.connected address haddress).append _)
  cases event with
  | initThrew | requestError | timeout => exact settlement_fail (by exact hopen) _
  | socket =>
    rw [transportStep]
    split
    · exact .pending hopen (h.append_other rfl rfl (fun _ => rfl) fun address haddress =>
        (h.connected address haddress).append _)
    · exact hsame rfl fun _ => rfl
  | connect remoteAddress =>
    rw [transportStep]
    split
    · exact settlement_connect hopen h remoteAddress
    · exact hsame rfl fun _ => rfl
  | response incoming => exact settlement_response hopen h incoming
  | data index chunk =>
    rw [transportStep]
    split
    · rename_i hnone
      refine .pending hopen ⟨?_, fun address haddress => (h.connected address haddress).append _, ?_⟩
      · rw [h.count, responseCount_append]
        rfl
      · intro place other hother
        have hplace : place ≠ index := by
          rintro rfl
          rw [hnone] at hother
          cases hother
        exact (h.heard place other hother).append_other (if_neg (Ne.symm hplace))
    · exact settlement_data hopen h ‹_› chunk
  | aborted index | responseError index =>
    rw [transportStep]
    split
    · exact hsame rfl fun _ => rfl
    · exact settlement_fail (by exact hopen) _
  | ended index complete =>
    rw [transportStep]
    split
    · exact hsame rfl fun _ => rfl
    · exact settlement_end hopen h ‹_› complete

end Step

/-- Where a run of the machine stands. -/
theorem settlement_run (setup : TransportSetup) (events : List TransportEvent) :
    Settlement setup events (answers (transportStep setup) TransportState.initial events).flatten
      (run (transportStep setup) TransportState.initial events) := by
  refine history_induction (transportStep setup)
    (P := fun events given s => Settlement setup events given.flatten s) ?_ ?_ events
  · refine .pending rfl ⟨rfl, fun address haddress => (nomatch haddress), ?_⟩
    intro index listening hlistening
    cases hlistening
  · intro events given s event h
    rw [List.flatten_append, List.flatten_singleton]
    generalize given.flatten = effects at h ⊢
    cases h with
    | pending hopen h => exact settlement_step hopen h event
    | settled hsettled result hresults hgood =>
      obtain ⟨hnothing, hstill⟩ := transportStep_settled hsettled event
      rw [hnothing, List.append_nil]
      exact .settled hstill result hresults fun response hresult =>
        (hgood response hresult).append _

/-! ### What a good result rests on -/

def headerBytes (headers : List SafeResponseHeader) : Nat :=
  (headers.map fun header => header.name.utf8ByteSize + header.value.utf8ByteSize).sum

theorem parseHeadersLoop_limits {maxHeaderBytes : Nat} (items : List Dynamic.Scalar)
    (totalBytes : Nat) {headers : List SafeResponseHeader} (htotal : totalBytes ≤ maxHeaderBytes)
    (h : parseHeadersLoop maxHeaderBytes items totalBytes = some headers) :
    headers.length = items.length / 2 ∧ totalBytes + headerBytes headers ≤ maxHeaderBytes := by
  induction items, totalBytes using parseHeadersLoop.induct maxHeaderBytes generalizing headers with
  | case1 totalBytes =>
    cases h
    exact ⟨rfl, htotal⟩
  | case2 rawName rawValue rest totalBytes name =>
    rename_i hbad
    rw [parseHeadersLoop, if_pos hbad] at h
    cases h
  | case3 rawName rawValue rest totalBytes name hgood header bytes =>
    rename_i hmany
    rw [parseHeadersLoop, if_neg hgood] at h
    dsimp only at h
    rw [if_pos hmany] at h
    cases h
  | case4 rawName rawValue rest totalBytes name hgood header bytes hfew =>
    rename_i ih
    rw [parseHeadersLoop, if_neg hgood] at h
    dsimp only at h
    rw [if_neg hfew] at h
    obtain ⟨later, hlater, rfl⟩ := Option.map_eq_some_iff.mp h
    obtain ⟨hlength, hbytes⟩ := ih (Nat.le_of_not_gt hfew) hlater
    constructor
    · rw [List.length_cons, hlength, List.length_cons, List.length_cons]
      omega
    · have hsplit : headerBytes (header :: later) =
          header.name.utf8ByteSize + header.value.utf8ByteSize + headerBytes later := by
        rw [headerBytes, List.map_cons, List.sum_cons]
        rfl
      have htotals : bytes = totalBytes + header.name.utf8ByteSize + header.value.utf8ByteSize := rfl
      change totalBytes + headerBytes (header :: later) ≤ maxHeaderBytes
      omega
  | case5 items totalBytes hnil hpair =>
    rw [parseHeadersLoop] at h
    · cases h
    · exact hnil
    · exact hpair

theorem parseHeaders_limits {rawHeaders : UnknownList} {limits : PinnedTransportLimits}
    {headers : List SafeResponseHeader} (h : parseHeaders rawHeaders limits = some headers) :
    headers.length ≤ limits.maxHeaderPairs ∧ headerBytes headers ≤ limits.maxHeaderBytes := by
  cases rawHeaders with
  | other => cases h
  | array items =>
    rw [parseHeaders] at h
    split at h
    · cases h
    · split at h
      · cases h
      · rename_i hpairs
        obtain ⟨hlength, hbytes⟩ := parseHeadersLoop_limits items 0 (Nat.zero_le _) h
        omega

theorem declaredLength_eq_some {headers : List SafeResponseHeader} {length : Option Nat}
    (h : declaredLength headers = some length) :
    (headers.filter (·.name == "content-length")).map (·.value) =
      (length.map fun n => String.ofList (Nat.toDigits 10 n)).toList := by
  rw [declaredLength] at h
  split at h
  · rename_i hnone
    cases h
    rw [hnone]
    rfl
  · rename_i header hone
    dsimp only at h
    split at h
    · rename_i hdecimal
      cases h
      rw [Bool.and_eq_true] at hdecimal
      rw [hone, List.map_singleton, Option.map_some, toDigits_value hdecimal.1, String.ofList_toList]
      rfl
    · cases h
  · cases h

/-- The events and the checks behind a response that was handed out: a connection to
the pinned address, then the response, then its chunks and its end. -/
structure Delivered (setup : TransportSetup) (events : List TransportEvent)
    (response : PinnedTransportResponse) : Prop where
  order : ∃ before remote between incoming body after,
    let index := responseCount (before ++ .connect remote :: between)
    events = before ++ .connect remote :: (between ++ .response incoming ::
      (body ++ .ended index true :: after)) ∧
    normalizedAddress remote = some response.connectedAddress ∧
    incoming.statusCode = .number (some response.statusCode) ∧
    parseHeaders incoming.rawHeaders setup.limits = some response.headers ∧
    (∀ chunk ∈ chunksOf index body, (chunkBytes chunk).isSome = true) ∧
    response.body = bytesOf (chunksOf index body)
  pinned : normalizedAddress (some setup.pinnedAddress) = some response.connectedAddress
  status : 100 ≤ response.statusCode ∧ response.statusCode ≤ 599
  pairs : response.headers.length ≤ setup.limits.maxHeaderPairs
  bytes : headerBytes response.headers ≤ setup.limits.maxHeaderBytes
  body_le : response.body.length ≤ setup.limits.maxResponseBytes
  length : ∃ length : Option Nat,
    (response.headers.filter (·.name == "content-length")).map (·.value) =
      (length.map fun n => String.ofList (Nat.toDigits 10 n)).toList ∧
    (∀ n ∈ length, response.body.length = n ∧ hasTransferEncoding response.headers = false)

theorem acceptResponse_ok {address : String} {incoming : IncomingMessage} {listening : Listening}
    (h : acceptResponse setup (some address) incoming = .ok listening) :
    incoming.statusCode = .number (some listening.statusCode) ∧
      (100 ≤ listening.statusCode ∧ listening.statusCode ≤ 599) ∧
      parseHeaders incoming.rawHeaders setup.limits = some listening.headers ∧
      declaredLength listening.headers = some listening.length ∧
      (listening.length.isSome = true → hasTransferEncoding listening.headers = false) := by
  rw [acceptResponse] at h
  split at h
  · rename_i statusCode hstatus
    split at h
    · cases h
    · rename_i hrange
      split at h
      · cases h
      · rename_i headers hheaders
        split at h
        · cases h
        · rename_i length hlength
          split at h
          · cases h
          · rename_i hencoding
            split at h
            · cases h
            · cases h
              refine ⟨?_, by dsimp only; omega, hheaders, hlength, ?_⟩
              · dsimp only
                rw [hstatus, Int.toNat_of_nonneg (by omega)]
              · intro hsome
                dsimp only at hsome ⊢
                rw [hsome, Bool.true_and] at hencoding
                exact eq_false_of_ne_true hencoding
  · cases h

theorem bytesOf_of_chunks {chunks : List Dynamic.Scalar} {buffers : List (List UInt8)}
    (h : buffers.map some = chunks.map chunkBytes) :
    (∀ chunk ∈ chunks, (chunkBytes chunk).isSome = true) ∧ bytesOf chunks = buffers.flatten := by
  induction chunks generalizing buffers with
  | nil =>
    rw [List.map_nil, List.map_eq_nil_iff] at h
    subst h
    exact ⟨fun _ hmem => (nomatch hmem), rfl⟩
  | cons chunk chunks ih =>
    cases buffers with
    | nil => cases h
    | cons buffer buffers =>
      rw [List.map_cons, List.map_cons, List.cons.injEq] at h
      obtain ⟨hall, hbytes⟩ := ih h.2
      refine ⟨List.forall_mem_cons.mpr ⟨by rw [← h.1]; rfl, hall⟩, ?_⟩
      rw [bytesOf, List.filterMap_cons, ← h.1]
      dsimp only
      rw [List.flatten_cons, List.flatten_cons, ← hbytes]
      rfl

theorem Concluded.delivered {events : List TransportEvent} {response : PinnedTransportResponse}
    (h : Concluded setup events response) : Delivered setup events response := by
  obtain ⟨upTo, index, after, listening, rfl, hheard, hlength, rfl⟩ := h.order
  obtain ⟨first, incoming, body, rfl, hindex, hconnected, haccepted, hchunks⟩ := hheard.order
  obtain ⟨before, remote, between, rfl, hremote, hpinned⟩ := hconnected
  obtain ⟨hstatus, hrange, hheaders, hdeclared, hencoding⟩ := acceptResponse_ok haccepted
  obtain ⟨hpairs, hbytes⟩ := parseHeaders_limits hheaders
  obtain ⟨hvalid, hbody⟩ := bytesOf_of_chunks hchunks
  subst hindex
  refine ⟨⟨before, remote, between, incoming, body, after, by simp, hremote, hstatus, hheaders,
    hvalid, hbody.symm⟩, hpinned, hrange, hpairs, hbytes, ?_, listening.length,
    declaredLength_eq_some hdeclared, ?_⟩
  · exact hheard.received ▸ hheard.within
  · intro n hn
    rcases hlength with hnone | hsome
    · rw [hnone] at hn
      cases hn
    · refine ⟨?_, hencoding (by rw [hsome]; rfl)⟩
      rw [hsome] at hn
      rw [← Option.some.inj hn]
      exact hheard.received.symm

/-! ### The whole run -/

theorem settled_run {s : TransportState} (h : s.settled = true) (events : List TransportEvent) :
    (run (transportStep setup) s events).settled = true ∧
      (answers (transportStep setup) s events).flatten = [] := by
  induction events generalizing s with
  | nil => exact ⟨h, rfl⟩
  | cons event events ih =>
    obtain ⟨hnothing, hstill⟩ := transportStep_settled h event
    obtain ⟨hrun, hanswers⟩ := ih hstill
    refine ⟨hrun, ?_⟩
    rw [answers, List.flatten_cons, hnothing, hanswers]
    rfl

theorem settled_of_timeout {s : TransportState} {events : List TransportEvent}
    (h : .timeout ∈ events) : (run (transportStep setup) s events).settled = true := by
  obtain ⟨before, after, rfl⟩ := List.append_of_mem h
  rw [run_append, run_cons]
  refine (settled_run ?_ after).1
  rw [transportStep, TransportState.fail]
  split
  · assumption
  · rfl

end Machine

theorem approved_nil {cidrs : UnknownList} {addresses : List ValidatedIpAddress}
    (h : Approved cidrs addresses) {address : ValidatedIpAddress} (hmem : address ∈ addresses) :
    Approved (.strings []) [address] := by
  obtain ⟨configured, -, -, -, -, -, hcanonical⟩ := h
  refine ⟨[], rfl, by decide, Nat.le_refl _, by simp, List.nodup_singleton _, ?_⟩
  intro other hother
  rw [List.mem_singleton.mp hother]
  obtain ⟨a, ha, hbuiltIn, -, hglobal⟩ := hcanonical address hmem
  exact ⟨a, ha, hbuiltIn, fun cidr hcidr => (nomatch hcidr), hglobal⟩

theorem normalizedAddress_pinned {node : NodeRuntime} {targetInput : Dynamic.Value TargetField}
    {requestInput : Dynamic.Value Dynamic.Scalar} {cidrs : UnknownList}
    {options : PinnedRequestOptions}
    (h : createPinnedRequestOptions node targetInput requestInput cidrs = .ok options) :
    normalizedAddress (some (pinnedAddressOf requestInput)) =
      some (pinnedAddressOf requestInput) := by
  obtain ⟨target, spec, address, htarget, hspec, -, -, hfind, -⟩ :=
    createPinnedRequestOptions_ok.mp h
  obtain ⟨-, -, record, rfl, hperm⟩ := parseSpec_eq_some.mp hspec
  have hpin : pinnedAddressOf (.record record) = spec.pinnedAddress := by
    rw [pinnedAddressOf, Dynamic.Record.get_of_perm hperm Dynamic.Scalar.other
      (show ("pinned_address", Dynamic.Scalar.string spec.pinnedAddress) ∈ spec.fields by
        simp [PinnedRequestSpec.fields])]
    rfl
  have happroved : Approved cidrs target.addresses := by
    cases targetInput with
    | other => cases htarget
    | record targetRecord =>
      rw [parseTarget] at htarget
      split at htarget
      · cases htarget
      · split at htarget
        · cases htarget
        · obtain ⟨rfl, version, hdecision⟩ := checkAddresses_eq_target.mp htarget
          exact (approved_of_classify hdecision).1
  obtain ⟨hmem, htext⟩ := happroved.find_eq_some.mp hfind
  have hclassify := classify_of_approved (approved_nil happroved hmem)
  rw [List.map_singleton, ← htext] at hclassify
  rw [hpin, normalizedAddress, hclassify]
  exact congrArg some htext.symm

/-- A pinned request settles at most once, and once when its timer has run out; a
good result is the response of the pinned address that the events delivered; and
after the settlement nothing has an effect. -/
theorem executePinnedRequest_settles (node : NodeRuntime) (targetInput : Dynamic.Value TargetField)
    (requestInput limitsInput : Dynamic.Value Dynamic.Scalar) (cidrs : UnknownList)
    (hasDispatcher : Bool) (events : List TransportEvent) :
    let execute := executePinnedRequest node targetInput requestInput limitsInput cidrs hasDispatcher
    let setup := pinnedSetup node targetInput requestInput limitsInput cidrs hasDispatcher
    (resultsOf (execute events)).length ≤ 1 ∧
      (setup.isOk = false ∨ .timeout ∈ events → (resultsOf (execute events)).length = 1) ∧
      (resultsOf (execute events) = [] → .clearDeadline ∉ execute events) ∧
      (∀ response, .ok response ∈ resultsOf (execute events) →
        ∃ sent, setup = .ok sent ∧ Delivered sent events response ∧
          response.connectedAddress = pinnedAddressOf requestInput) ∧
      (resultsOf (execute events) ≠ [] → ∀ later, execute (events ++ later) = execute events) := by
  dsimp only
  unfold executePinnedRequest
  cases hsetup : pinnedSetup node targetInput requestInput limitsInput cidrs hasDispatcher with
  | error code =>
    refine ⟨Nat.le_refl _, fun _ => rfl, fun hnone => (nomatch hnone), ?_, fun _ _ => rfl⟩
    intro response hresponse
    cases List.mem_singleton.mp hresponse
  | ok setup =>
    have hpinned : normalizedAddress (some setup.pinnedAddress) = some (pinnedAddressOf requestInput) := by
      rw [pinnedSetup] at hsetup
      split at hsetup
      · cases hsetup
      · split at hsetup
        · cases hsetup
        · rename_i hgranted
          split at hsetup
          · cases hsetup
            exact normalizedAddress_pinned hgranted
          · cases hsetup
    have hstands := settlement_run setup events
    have htimeout := @settled_of_timeout setup TransportState.initial events
    dsimp only
    generalize heffects : (answers (transportStep setup) TransportState.initial events).flatten =
      effects at hstands ⊢
    cases hstands with
    | pending hopen hpending =>
      refine ⟨Nat.zero_le _, ?_, fun _ hmem => (nomatch hmem), fun _ hmem => (nomatch hmem),
        fun hne => absurd rfl hne⟩
      rintro (herror | hmem)
      · cases herror
      · rw [htimeout hmem] at hopen
        cases hopen
    | settled hsettled result hresults hgood =>
      rw [hresults]
      refine ⟨Nat.le_refl _, fun _ => rfl, fun hnone => (nomatch hnone), ?_, ?_⟩
      · intro response hresponse
        have hdelivered := (hgood response (List.mem_singleton.mp hresponse).symm).delivered
        refine ⟨setup, rfl, hdelivered, ?_⟩
        have hsame := hdelivered.pinned
        rw [hpinned] at hsame
        exact (Option.some.inj hsame).symm
      · intro _ later
        rw [answers_append, List.flatten_append, heffects, (settled_run hsettled later).2,
          List.append_nil]

-- a response that arrives whole before the timer runs out
example : executePinnedRequest asciiNode (.record twoTargets.record) pinnedInput
    (.record {
      fields :=
        [("timeout_ms", .number (some 1000)), ("max_response_bytes", .number (some 1024)),
          ("max_header_pairs", .number (some 10)), ("max_header_bytes", .number (some 1024))]
      unique := by decide })
    (.strings []) true
    [.socket, .connect (some "8.8.8.8"),
      .response {
        statusCode := .number (some 200)
        rawHeaders := .strings ["Content-Length", "2"] },
      .data 0 (.string "o"), .data 0 (.bytes [107]), .ended 0 true, .timeout] =
      [.clearDeadline, .resolve (.ok {
        statusCode := 200
        headers := [{ name := "content-length", value := "2" }]
        body := [111, 107]
        connectedAddress := "8.8.8.8" })] := by decide +kernel

end Outscan

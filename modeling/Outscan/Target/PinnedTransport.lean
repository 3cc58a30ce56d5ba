import Outscan.GuestCrypto.ResultToken
import Outscan.Library.Run
import Outscan.Target.PinAgreement

/-! The pinned transport: one request to the pinned address, as a machine over the
events of its socket, its response and its timer. -/
namespace Outscan

open Numeral

/-! ### Addresses and headers -/

/-- `normalizedAddress`; a socket without a peer has no address. -/
def normalizedAddress (address : Option String) : Option String :=
  match address with
  | none => none
  | some address =>
    match classifyResolvedAddressSet (.strings [address]) (.strings []) with
    | .ok _ addresses => addresses.head?.map (·.address)
    | .rejected _ _ _ => none

/-- What `HEADER_NAME` lets through. -/
def isHeaderNameChar (c : Char) : Bool :=
  "!#$%&'*+.^_`|~-".toList.contains c || c.isDigit || c.isLower

/-- What `/[\0\r\n]/` matches. -/
def isForbiddenInHeader (c : Char) : Bool := c.toNat == 0 || c == '\r' || c == '\n'

/-- The loop of `parseHeaders`: names and values take turns. -/
def parseHeadersLoop (maxHeaderBytes : Nat) :
    List Dynamic.Scalar → Nat → Option (List SafeResponseHeader)
  | [], _ => some []
  | .string rawName :: .string rawValue :: rest, totalBytes =>
    let name := rawName.toList.map jsLower
    if name.isEmpty || decide (utf16Length name > 256) || !name.all isHeaderNameChar ||
        decide (utf16Length rawValue.toList > 8192) || rawValue.toList.any isForbiddenInHeader then
      none
    else
      let header : SafeResponseHeader := { name := String.ofList name, value := rawValue }
      let totalBytes := totalBytes + header.name.utf8ByteSize + header.value.utf8ByteSize
      if totalBytes > maxHeaderBytes then none
      else (parseHeadersLoop maxHeaderBytes rest totalBytes).map (header :: ·)
  | _, _ => none

def parseHeaders (rawHeaders : UnknownList) (limits : PinnedTransportLimits) :
    Option (List SafeResponseHeader) :=
  match rawHeaders with
  | .other => none
  | .array items =>
    if items.length % 2 ≠ 0 then none
    else if items.length / 2 > limits.maxHeaderPairs then none
    else parseHeadersLoop limits.maxHeaderBytes items 0

/-- `declaredLength`: the number of the one `content-length` header, if there is one.
A number beyond the safe integers is rounded to one that is not safe either. -/
def declaredLength (headers : List SafeResponseHeader) : Option (Option Nat) :=
  match headers.filter (·.name == "content-length") with
  | [] => some none
  | [header] =>
    let text := header.value.toList
    if isDecimal text && decide (value 10 text ≤ maxSafeInteger) then some (some (value 10 text))
    else none
  | _ => none

def hasTransferEncoding (headers : List SafeResponseHeader) : Bool :=
  headers.any (·.name == "transfer-encoding")

/-! ### Events -/

structure IncomingMessage where
  statusCode : Dynamic.Scalar
  rawHeaders : UnknownList

/-- Whatever Node may call back with. Events of a response carry its place among the
responses; `ended` comes with what `complete` then is. -/
inductive TransportEvent where
  | initThrew
  | socket
  | connect (remoteAddress : Option String)
  | response (incoming : IncomingMessage)
  | data (index : Nat) (chunk : Dynamic.Scalar)
  | aborted (index : Nat)
  | responseError (index : Nat)
  | ended (index : Nat) (complete : Bool)
  | requestError
  | timeout

inductive TransportEffect where
  | clearDeadline
  | destroyResponse (index : Nat)
  | destroyRequest
  | resolve (result : PinnedTransportResult)
deriving DecidableEq, Repr

structure Listening where
  statusCode : Nat
  headers : List SafeResponseHeader
  length : Option Nat
  responseAddress : String
  chunks : List (List UInt8)
  received : Nat
deriving DecidableEq, Repr

inductive ConnectListener where
  | absent | waiting | used
deriving DecidableEq, Repr

/-- The variables of the request. A response whose callback returned early has no
listeners. -/
structure TransportState where
  settled : Bool
  listener : ConnectListener
  connectedAddress : Option String
  response : Option Nat
  responses : List (Option Listening)
deriving DecidableEq, Repr

def TransportState.initial : TransportState where
  settled := false
  listener := .absent
  connectedAddress := none
  response := none
  responses := []

structure TransportSetup where
  limits : PinnedTransportLimits
  pinnedAddress : String
deriving DecidableEq, Repr

abbrev TransportStep := List TransportEffect × TransportState

def TransportState.settle (s : TransportState) (result : PinnedTransportResult) : TransportStep :=
  if s.settled then ([], s)
  else ([.clearDeadline, .resolve result], { s with settled := true })

def TransportState.fail (s : TransportState) (code : PinnedTransportFailure) : TransportStep :=
  if s.settled then ([], s)
  else
    ([.clearDeadline] ++ (s.response.map .destroyResponse).toList ++
      [.destroyRequest, .resolve (.error code)], { s with settled := true })

def acceptResponse (setup : TransportSetup) (connectedAddress : Option String)
    (incoming : IncomingMessage) : Except PinnedTransportFailure Listening :=
  match connectedAddress with
  | none => .error .pinMismatch
  | some responseAddress =>
    match incoming.statusCode with
    | .number (some statusCode) =>
      if statusCode < 100 ∨ 599 < statusCode then .error .invalidResponse
      else
        match parseHeaders incoming.rawHeaders setup.limits with
        | none => .error .responseHeadersRejected
        | some headers =>
          match declaredLength headers with
          | none => .error .invalidResponse
          | some length =>
            if length.isSome && hasTransferEncoding headers then .error .invalidResponse
            else if length.getD 0 > setup.limits.maxResponseBytes then .error .responseTooLarge
            else
              .ok {
                statusCode := statusCode.toNat, headers, length, responseAddress
                chunks := [], received := 0 }
    | _ => .error .invalidResponse

/-- `Buffer.from` of a chunk. -/
def chunkBytes : Dynamic.Scalar → Option (List UInt8)
  | .string text => some (utf8Bytes text)
  | .bytes bytes => some bytes
  | _ => none

def TransportState.listening? (s : TransportState) (index : Nat) : Option Listening :=
  (s.responses[index]?).join

def TransportState.withListening (s : TransportState) (index : Nat) (listening : Listening) :
    TransportState :=
  { s with responses := s.responses.set index (some listening) }

/-- The `data` callback. -/
def onData (setup : TransportSetup) (s : TransportState) (index : Nat) (listening : Listening)
    (chunk : Dynamic.Scalar) : TransportStep :=
  if s.settled then ([], s)
  else
    match chunkBytes chunk with
    | none => s.fail .invalidResponse
    | some buffer =>
      let received := listening.received + buffer.length
      if received > setup.limits.maxResponseBytes then
        (s.withListening index { listening with received }).fail .responseTooLarge
      else
        ([], s.withListening index
          { listening with received, chunks := listening.chunks ++ [buffer] })

/-- The `end` callback. -/
def onEnd (s : TransportState) (listening : Listening) (complete : Bool) : TransportStep :=
  if s.settled then ([], s)
  else if !complete || (listening.length.isSome && listening.length ≠ some listening.received) then
    s.fail .invalidResponse
  else
    s.settle (.ok {
      statusCode := listening.statusCode
      headers := listening.headers
      body := listening.chunks.flatten
      connectedAddress := listening.responseAddress })

/-- The callback of `connect`, or of `secureConnect`. -/
def onConnect (setup : TransportSetup) (s : TransportState) (remoteAddress : Option String) :
    TransportStep :=
  let s := { s with listener := .used }
  match normalizedAddress remoteAddress, normalizedAddress (some setup.pinnedAddress) with
  | some actual, some expected =>
    if actual ≠ expected then s.fail .pinMismatch
    else ([], { s with connectedAddress := some actual })
  | _, _ => s.fail .pinMismatch

def onResponse (setup : TransportSetup) (s : TransportState) (incoming : IncomingMessage) :
    TransportStep :=
  let s := { s with response := some s.responses.length }
  match acceptResponse setup s.connectedAddress incoming with
  | .error code => { s with responses := s.responses ++ [none] }.fail code
  | .ok listening => ([], { s with responses := s.responses ++ [some listening] })

def transportStep (setup : TransportSetup) (s : TransportState) (event : TransportEvent) :
    TransportStep :=
  match event with
  | .initThrew => s.fail .transportInitFailed
  | .socket =>
    if s.listener = .absent then ([], { s with listener := .waiting }) else ([], s)
  | .connect remoteAddress =>
    if s.listener = .waiting then onConnect setup s remoteAddress else ([], s)
  | .response incoming => onResponse setup s incoming
  | .data index chunk =>
    match s.listening? index with
    | none => ([], s)
    | some listening => onData setup s index listening chunk
  | .aborted index | .responseError index =>
    match s.listening? index with
    | none => ([], s)
    | some _ => s.fail .transportError
  | .ended index complete =>
    match s.listening? index with
    | none => ([], s)
    | some listening => onEnd s listening complete
  | .requestError => s.fail .transportError
  | .timeout => s.fail .timeout

/-! ### The request -/

def PinnedRequestRejection.failure : PinnedRequestRejection → PinnedTransportFailure
  | .destinationPolicyRejected => .destinationPolicyRejected
  | .invalidTarget => .invalidTarget
  | .invalidRequest => .invalidRequest
  | .staleResolution => .staleResolution
  | .pinNotApproved => .pinNotApproved

/-- The `pinned_address` of a request, read once more. -/
def pinnedAddressOf : Dynamic.Value Dynamic.Scalar → String
  | .record record => ((textOf (record.get .other "pinned_address"))).getD ""
  | .other => ""

def pinnedSetup (node : NodeRuntime) (targetInput : Dynamic.Value TargetField)
    (requestInput limitsInput : Dynamic.Value Dynamic.Scalar)
    (configuredInternalCidrs : UnknownList) (hasDispatcher : Bool) :
    Except PinnedTransportFailure TransportSetup :=
  match parsePinnedTransportLimits limitsInput with
  | none => .error .invalidLimits
  | some limits =>
    match createPinnedRequestOptions node targetInput requestInput configuredInternalCidrs with
    | .error code => .error code.failure
    | .ok _ =>
      if hasDispatcher then .ok { limits, pinnedAddress := pinnedAddressOf requestInput }
      else .error .transportInitFailed

/-- All that `executePinnedRequest` does, when these events come after the dispatch. -/
def executePinnedRequest (node : NodeRuntime) (targetInput : Dynamic.Value TargetField)
    (requestInput limitsInput : Dynamic.Value Dynamic.Scalar)
    (configuredInternalCidrs : UnknownList) (hasDispatcher : Bool)
    (events : List TransportEvent) : List TransportEffect :=
  match pinnedSetup node targetInput requestInput limitsInput configuredInternalCidrs
      hasDispatcher with
  | .error code => [.resolve (.error code)]
  | .ok setup => (Machine.answers (transportStep setup) TransportState.initial events).flatten

end Outscan

import Outscan.Target.IpPolicy

/-! Requests to one approved address: their parts, and the checks that a flow of
requests makes on them. -/
namespace Outscan

inductive Protocol where
  | http | https
deriving DecidableEq, Repr

def Protocol.text : Protocol → String
  | .http => "http:"
  | .https => "https:"

inductive HttpMethod where
  | get | head
deriving DecidableEq, Repr

structure PinnedRequestSpec where
  protocol : Protocol
  method : HttpMethod
  path : String
  pinnedAddress : String
  nowUnixMs : Nat
deriving DecidableEq, Repr

/-- Forms a path a request can be sent with: `/…`, printable, no second leading
slash, no `#` and no backslash. -/
def isValidOriginFormPath (path : String) : Bool :=
  let chars := path.toList
  decide (0 < utf16Length chars) && decide (utf16Length chars ≤ 2048) &&
    chars.head? == some '/' && chars.take 2 != ['/', '/'] &&
    !(chars.any fun c => c == '#' || c == '\\') &&
    chars.all fun c => decide (0x21 ≤ c.toNat) && decide (c.toNat ≤ 0x7e)

structure PinnedTransportLimits where
  timeoutMs : Nat
  maxResponseBytes : Nat
  maxHeaderPairs : Nat
  maxHeaderBytes : Nat
deriving DecidableEq, Repr

/-- `boundedInteger`, with the number it lets through. -/
def boundedInteger (value : Dynamic.Scalar) (minimum maximum : Nat) : Option Nat :=
  match value with
  | .number (some number) =>
    if (minimum : Int) ≤ number ∧ number ≤ (maximum : Int) then some number.toNat else none
  | _ => none

def transportLimitKeys : List String :=
  ["timeout_ms", "max_response_bytes", "max_header_pairs", "max_header_bytes"]

def parsePinnedTransportLimits (input : Dynamic.Value Dynamic.Scalar) :
    Option PinnedTransportLimits :=
  match input with
  | .other => none
  | .record record =>
    if !record.hasExactKeys transportLimitKeys then none
    else do
      let timeoutMs ← boundedInteger (record.get .other "timeout_ms") 100 30000
      let maxResponseBytes ←
        boundedInteger (record.get .other "max_response_bytes") 1 (2 * 1024 * 1024)
      let maxHeaderPairs ← boundedInteger (record.get .other "max_header_pairs") 1 100
      let maxHeaderBytes ← boundedInteger (record.get .other "max_header_bytes") 1 (64 * 1024)
      return { timeoutMs, maxResponseBytes, maxHeaderPairs, maxHeaderBytes }

structure SafeResponseHeader where
  name : String
  value : String
deriving DecidableEq, Repr

structure PinnedTransportResponse where
  statusCode : Nat
  headers : List SafeResponseHeader
  body : List UInt8
  connectedAddress : String
deriving DecidableEq, Repr

inductive PinnedTransportFailure where
  | invalidLimits | transportInitFailed | transportError | timeout | pinMismatch
  | invalidResponse | responseHeadersRejected | responseTooLarge
  | invalidTarget | staleResolution | invalidRequest | pinNotApproved | destinationPolicyRejected
deriving DecidableEq, Repr

abbrev PinnedTransportResult := Except PinnedTransportFailure PinnedTransportResponse

end Outscan

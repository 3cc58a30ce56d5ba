import Outscan.Library.Datum
import Outscan.Library.Dialogue
import Outscan.Library.Json.Bytes
import Outscan.YandexMetrika.ParseCounters

/-! The client of the management interface, against any upstream. -/
namespace Outscan

open Json

inductive YandexMetrikaError where
  | invalidConfiguration | invalidCounterResponse | responseTooLarge | tokenRejected | accessDenied
  | rateLimited | upstreamRejected | upstreamUnavailable | requestCancelled
  | paginationInconsistent
  /-- What `sleep` rejects with. -/
  | sleepFailed
deriving DecidableEq, Repr

def perPage : Nat := 1000
def maxPages : Nat := 100
def maxResponseBytes : Nat := 4 * 1024 * 1024

structure YandexMetrikaClientOptions where
  accessToken : String
  requestTimeoutMs : Option Dynamic.Number
  maxAttempts : Option Dynamic.Number

structure ClientDependencies where
  requestTimeoutMs : Nat
  maxAttempts : Nat

structure MetrikaBody where
  chunks : List (List UInt8)
  fails : Bool
  cancelFails : Bool

structure MetrikaResponse where
  status : Nat
  retryAfter : Option String
  contentLength : Option String
  body : Option MetrikaBody

/-- What the client asks for: the state of its signal, a page, `Math.floor(random() * 250)`
and a pause. -/
inductive MetrikaCall where
  | aborted
  | fetch (offset perPage : Nat)
  | random
  | sleep (milliseconds : Nat)

/-- A call of `fetch` may reject, `random` may give what is not in `[0, 1)`, and `sleep`
may reject. -/
def MetrikaCall.Answer : MetrikaCall → Type
  | .aborted => Bool
  | .fetch .. => Option MetrikaResponse
  | .random => Option Nat
  | .sleep _ => Bool

abbrev MetrikaDialogue := Dialogue MetrikaCall MetrikaCall.Answer

abbrev MetrikaExchange := Dialogue.Exchange MetrikaCall MetrikaCall.Answer

def readAborted : MetrikaDialogue Bool := Dialogue.question MetrikaCall.aborted

def fetchUpstream (offset perPage : Nat) : MetrikaDialogue (Option MetrikaResponse) :=
  Dialogue.question (MetrikaCall.fetch offset perPage)

def readRandom : MetrikaDialogue (Option Nat) := Dialogue.question MetrikaCall.random

def sleep (milliseconds : Nat) : MetrikaDialogue Bool :=
  Dialogue.question (MetrikaCall.sleep milliseconds)

/-- `ACCESS_TOKEN_PATTERN`. -/
def isAccessToken (token : String) : Bool :=
  decide (20 ≤ token.toList.length) && decide (token.toList.length ≤ 4096) &&
    token.toList.all fun c => c.isAlphanum || ['.', '_', '~', '-'].contains c

def boundedOption (value : Option Dynamic.Number) (default minimum maximum : Nat) : Option Nat :=
  match value with
  | none => some default
  | some (.whole n) => if minimum ≤ n ∧ n ≤ maximum then some n.toNat else none
  | some _ => none

def snapshotOptions (options : YandexMetrikaClientOptions) : Option ClientDependencies := do
  guard (isAccessToken options.accessToken)
  let requestTimeoutMs ← boundedOption options.requestTimeoutMs 10000 100 60000
  let maxAttempts ← boundedOption options.maxAttempts 3 1 5
  some { requestTimeoutMs, maxAttempts }

theorem maxAttempts_le {options : YandexMetrikaClientOptions} {dependencies : ClientDependencies}
    (h : snapshotOptions options = some dependencies) : dependencies.maxAttempts ≤ 5 := by
  simp only [snapshotOptions, Option.bind_eq_bind, Option.bind_eq_some_iff] at h
  obtain ⟨_, -, _, -, maxAttempts, hbounded, h⟩ := h
  cases h
  unfold boundedOption at hbounded
  split at hbounded
  · cases hbounded
    exact Nat.le_of_ble_eq_true rfl
  · split at hbounded
    · cases hbounded
      dsimp only
      omega
    · cases hbounded
  · cases hbounded

def retryDelay (response : Option MetrikaResponse) (attempt : Nat) :
    MetrikaDialogue (Except YandexMetrikaError Nat) :=
  let retryAfter := ((response.bind (·.retryAfter)).getD "").toList
  if 0 < retryAfter.length ∧ retryAfter.length ≤ 3 ∧ retryAfter.all Char.isDigit then
    pure (.ok (min (Numeral.value 10 retryAfter * 1000) 60000))
  else do
    match ← readRandom with
    | none => pure (.error .invalidConfiguration)
    | some jitter => pure (.ok (min (250 * 2 ^ (attempt - 1) + jitter) 5000))

def decodeText (bytes : List UInt8) : Option Text :=
  textOfBytes (if bytes.take 3 = [0xef, 0xbb, 0xbf] then bytes.drop 3 else bytes)

def readChunks (receivedBytes : Nat) (body : MetrikaBody) :
    List (List UInt8) → Except YandexMetrikaError (List UInt8)
  | [] => if body.fails then .error .invalidCounterResponse else .ok []
  | chunk :: rest =>
    if receivedBytes + chunk.length > maxResponseBytes then
      .error (if body.cancelFails then .invalidCounterResponse else .responseTooLarge)
    else (readChunks (receivedBytes + chunk.length) body rest).map (chunk ++ ·)

def readPagePayload (response : MetrikaResponse) : Except YandexMetrikaError Json.Value :=
  let declaredLength := (response.contentLength.getD "").toList
  if !declaredLength.isEmpty && (!declaredLength.all Char.isDigit ||
      decide (Numeral.value 10 declaredLength > maxResponseBytes)) then .error .responseTooLarge
  else
    match response.body with
    | none => .error .invalidCounterResponse
    | some body =>
      match readChunks 0 body body.chunks with
      | .error error => .error error
      | .ok bytes =>
        match (decodeText bytes).bind Json.parse with
        | none => .error .invalidCounterResponse
        | some payload => .ok payload

def readPageResponse (response : MetrikaResponse) (perPage : Nat) :
    Except YandexMetrikaError YandexMetrikaCounterPage :=
  match readPagePayload response with
  | .error error => .error error
  | .ok payload =>
    match parseYandexMetrikaCounterPage payload perPage with
    | none => .error .invalidCounterResponse
    | some page => .ok page

/-- The attempts that are left, of `maxAttempts`. -/
def fetchAttempts (maxAttempts offset : Nat) :
    Nat → MetrikaDialogue (Except YandexMetrikaError YandexMetrikaCounterPage)
  | 0 => pure (.error .upstreamUnavailable)
  | left + 1 =>
    let retry (response : Option MetrikaResponse) :
        MetrikaDialogue (Except YandexMetrikaError YandexMetrikaCounterPage) := do
      match ← retryDelay response (maxAttempts - left) with
      | .error error => pure (.error error)
      | .ok milliseconds =>
        if ← sleep milliseconds then fetchAttempts maxAttempts offset left
        else pure (.error .sleepFailed)
    do
      if ← readAborted then pure (.error .requestCancelled)
      else
        match ← fetchUpstream offset perPage with
        | none =>
          if ← readAborted then pure (.error .requestCancelled)
          else if left = 0 then pure (.error .upstreamUnavailable)
          else retry none
        | some response =>
          if response.status = 200 then pure (readPageResponse response perPage)
          else if response.status = 401 then pure (.error .tokenRejected)
          else if response.status = 403 then pure (.error .accessDenied)
          else if response.status ≠ 429 ∧ response.status < 500 then
            pure (.error .upstreamRejected)
          else if left = 0 then
            pure (.error (if response.status = 429 then .rateLimited else .upstreamUnavailable))
          else retry (some response)

def fetchPage (dependencies : ClientDependencies) (offset : Nat) :
    MetrikaDialogue (Except YandexMetrikaError YandexMetrikaCounterPage) :=
  fetchAttempts dependencies.maxAttempts offset dependencies.maxAttempts

end Outscan

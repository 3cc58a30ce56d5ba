import Outscan.GuestAbuse.SignalKeyring
import Outscan.GuestAbuse.TrustedIngress
import Outscan.GuestCrypto.GuestSessionHttp
import Outscan.GuestResult.View
import Outscan.GuestScan.RequestHash

/-! The service behind `POST /v1/public/scans`: it checks the request, lets the
store admit it, and shows the result token once the queue has the scan. -/
namespace Outscan

open Dynamic

def scanRequestKeys : List String :=
  ["body", "cookie_header", "idempotency_key_header", "socket_remote_address", "x_forwarded_for"]

def maxRetryAfterSeconds : Nat := 86400

inductive GuestScanCreationErrorCode where
  | invalidScanRequest | guestSessionRequired | guestSessionInvalid | idempotencyKeyReused
  | guestScanLimitExceeded | guestScanningUnavailable | guestScanUnavailable
deriving DecidableEq, Repr

def GuestScanCreationErrorCode.text : GuestScanCreationErrorCode → String
  | .invalidScanRequest => "INVALID_SCAN_REQUEST"
  | .guestSessionRequired => "GUEST_SESSION_REQUIRED"
  | .guestSessionInvalid => "GUEST_SESSION_INVALID"
  | .idempotencyKeyReused => "IDEMPOTENCY_KEY_REUSED"
  | .guestScanLimitExceeded => "GUEST_SCAN_LIMIT_EXCEEDED"
  | .guestScanningUnavailable => "GUEST_SCANNING_UNAVAILABLE"
  | .guestScanUnavailable => "GUEST_SCAN_UNAVAILABLE"

/-- `status` is QUEUED in every body. -/
structure GuestScanCreationSuccessBody where
  scanId : String
  resultToken : String
  resultAccessExpiresAt : String
  resultTokenExpiresInSeconds : Nat
deriving DecidableEq, Repr

inductive GuestScanCreationResult where
  | ok (statusCode : Nat) (body : GuestScanCreationSuccessBody)
  | failure (statusCode : Nat) (code : GuestScanCreationErrorCode)
      (retryAfterSeconds : Option Nat)
deriving DecidableEq, Repr

def GuestScanCreationSuccessBody.toDatum (body : GuestScanCreationSuccessBody) : Datum :=
  .object [
    ("scanId", .string body.scanId),
    ("resultToken", .string body.resultToken),
    ("status", .string "QUEUED"),
    ("resultAccessExpiresAt", .string body.resultAccessExpiresAt),
    ("resultTokenExpiresInSeconds", .number (.whole body.resultTokenExpiresInSeconds))]

/-- `BASE_HEADERS`, as fields. -/
def baseHeaders : List (String × Datum) :=
  [("cache-control", .string "no-store"), ("referrer-policy", .string "no-referrer")]

/-- `String(retryAfterSeconds)`. -/
def retryAfterText (seconds : Nat) : String := String.ofList (Nat.toDigits 10 seconds)

def failureHeaders : Option Nat → Datum
  | none => .object baseHeaders
  | some seconds => .object (baseHeaders ++ [("retry-after", .string (retryAfterText seconds))])

def GuestScanCreationResult.toDatum : GuestScanCreationResult → Datum
  | .ok statusCode body =>
    .object [("ok", .bool true), ("status_code", .number (.whole statusCode)),
      ("headers", .object baseHeaders), ("body", body.toDatum)]
  | .failure statusCode code retryAfterSeconds =>
    .object [("ok", .bool false), ("status_code", .number (.whole statusCode)),
      ("headers", failureHeaders retryAfterSeconds),
      ("body", .object [("error", .object [("code", .string code.text)])])]

/-- `failure(503, "GUEST_SCAN_UNAVAILABLE")`. -/
def scanUnavailable : GuestScanCreationResult := .failure 503 .guestScanUnavailable none

/-! ### The request -/

structure GuestScanCreationRequest where
  domain : Datum
  cookieHeader : Datum
  idempotencyKey : String
  socketRemoteAddress : Datum
  forwardedFor : Datum

/-- `request`. -/
def scanRequest? (value : Datum) : Option GuestScanCreationRequest :=
  if !value.hasExactKeys scanRequestKeys then none
  else
    let body := value.get "body"
    if !body.hasExactKeys ["domain"] then none
    else do
      let idempotencyKey ← (value.get "idempotency_key_header").string?
      if !validIdempotencyKey idempotencyKey then none
      else
        some {
          domain := body.get "domain"
          cookieHeader := value.get "cookie_header"
          idempotencyKey
          socketRemoteAddress := value.get "socket_remote_address"
          forwardedFor := value.get "x_forwarded_for" }

def cookieHeaderOf : Datum → CookieHeader
  | .undefined => .undefined
  | .string header => .text header
  | _ => .other

def ingressFieldOf : Datum → IngressField
  | .string text => .scalar (.string text)
  | _ => .scalar .other

/-! ### What the service is built with, and what it is answered -/

/-- The dependencies that stay the same, as `dependencies` lets them through. -/
structure GuestScanCreationDependencies where
  trustedProxyCidrs : List Scalar
  networkKeyring : SignalKeyring
  activeNetworkKeyVersion : Nat
  cidrs_few : trustedProxyCidrs.length ≤ 64
  active_mem : activeNetworkKeyVersion ∈ networkKeyring.entries.map Prod.fst

structure PersistArguments where
  guestSessionScope : String
  idempotencyKey : String
  requestHash : String
  canonicalTarget : String
  networkSignalDigests : List String
  trustedNow : Nat
deriving DecidableEq, Repr

/-- What the service is answered before it turns to the store. `none` is a call that
throws or rejects. -/
structure GuestScanCreationInputs where
  currentKeys : Option (Dynamic.Value SignalField)
  isRevoked : String → Option Datum
  now : ClockReading

def sessionKeyStateKeys : List String := ["active_key_version", "keys"]

/-- `snapshotGuestSessionKeyState`: the active version and the keys. -/
def snapshotGuestSessionKeyState (value : Dynamic.Value SignalField) :
    Option (Nat × List (Nat × List UInt8)) :=
  match value with
  | .other => none
  | .record fields =>
    if !fields.hasExactKeys sessionKeyStateKeys then none
    else
      let field := fields.get (.scalar .other)
      match field "active_key_version", field "keys" with
      | .scalar activeVersion, .map keys => do
        let active ← keyVersion? activeVersion
        if keys.entries.length < 1 ∨ keys.entries.length > 3 then none
        else
          let entries ← keys.entries.mapM keyEntry?
          if (entries.map Prod.fst).contains active then some (active, entries) else none
      | _, _ => none

/-- A `Map` of keys, read by version. -/
def sessionKeyring (entries : List (Nat × List UInt8)) : GuestSessionKeyring :=
  fun version => entries.lookup version

def EnvelopeRuntime.toSessionRuntime (runtime : EnvelopeRuntime) : SessionRuntime :=
  ⟨runtime.hmacSha256, runtime.sha256⟩

/-! ### Up to the store -/

def canonicalDomain (node : NodeRuntime) (domain : Datum) : Option String :=
  domain.string?.bind fun text => (canonicalizeHostname node text).toOption

def sessionFailure : GuestSessionAuthenticationResult → GuestScanCreationResult
  | .missingGuestSession => .failure 401 .guestSessionRequired none
  | _ => .failure 401 .guestSessionInvalid none

def creationSession (runtime : EnvelopeRuntime) (cookieHeader : Datum)
    (keys : List (Nat × List UInt8)) : GuestSessionAuthenticationResult :=
  authenticateGuestSessionCookieHeader runtime.toSessionRuntime (cookieHeaderOf cookieHeader)
    (sessionKeyring keys) fun _ => some false

def ensureUnrevoked : Option Datum → Except GuestScanCreationResult Unit
  | some (.bool false) => .ok ()
  | some (.bool true) => .error (.failure 401 .guestSessionInvalid none)
  | _ => .error scanUnavailable

/-- What follows an authenticated session: the address, its digests, the hash and
the time. -/
def persistArguments (runtime : EnvelopeRuntime) (dependencies : GuestScanCreationDependencies)
    (now : ClockReading) (input : GuestScanCreationRequest) (host scope : String) :
    Except GuestScanCreationResult PersistArguments :=
  match resolveTrustedIngressAddress (ingressRequest (ingressFieldOf input.socketRemoteAddress)
      (ingressFieldOf input.forwardedFor) (.list dependencies.trustedProxyCidrs)) with
  | .invalidIngressContext => .error (.failure 400 .invalidScanRequest none)
  | .ok _ address _ =>
    match deriveGuestNetworkSignalKeyring runtime.toNodeRuntime
        (keyringRequest address dependencies.networkKeyring.toMap
          dependencies.activeNetworkKeyVersion),
      deriveGuestScanRequestHash runtime host, nowValue now with
    | .ok _ digests, some requestHash, some now =>
      if now > maxUnixSecondsForIso - 86400 then .error scanUnavailable
      else .ok ⟨scope, input.idempotencyKey, requestHash, host, digests, now⟩
    | _, _, _ => .error scanUnavailable

def prepare (runtime : EnvelopeRuntime) (dependencies : GuestScanCreationDependencies)
    (inputs : GuestScanCreationInputs) (value : Datum) :
    Except GuestScanCreationResult PersistArguments :=
  match scanRequest? value with
  | none => .error (.failure 400 .invalidScanRequest none)
  | some input =>
    match canonicalDomain runtime.toNodeRuntime input.domain with
    | none => .error (.failure 400 .invalidScanRequest none)
    | some host =>
      match inputs.currentKeys.bind snapshotGuestSessionKeyState with
      | none => .error scanUnavailable
      | some (_, keys) =>
        match creationSession runtime input.cookieHeader keys with
        | .ok session => do
          ensureUnrevoked (inputs.isRevoked session.guestSessionScope)
          persistArguments runtime dependencies inputs.now input host session.guestSessionScope
        | denied => .error (sessionFailure denied)

/-! ### The answer of the store -/

def persistedKeys : List String :=
  ["ok", "action", "guest_scan_id", "result_token", "result_access_expires_at_unix_seconds",
    "result_token_expires_in_seconds"]

/-- What `persistedSuccess` takes from an answer. `replayed` is the action REPLAY. -/
structure PersistedSuccess where
  replayed : Bool
  guestScanId : String
  resultToken : String
  expiresAt : Nat
  expiresIn : Nat
deriving DecidableEq, Repr

/-- `RESULT_TOKEN`. -/
def validResultToken (token : String) : Bool := isToken43 token.toList

def replayAction? (action : String) : Option Bool :=
  if action = "REPLAY" then some true
  else if action = "CREATE" ∨ action = "REPLACE_EXPIRED" then some false
  else none

def persistedSuccess (value : Datum) (now : Nat) : Option PersistedSuccess :=
  if !value.hasExactKeys persistedKeys then none
  else
    match (value.get "ok").bool? with
    | some true => do
      let replayed ← (value.get "action").string?.bind replayAction?
      let guestScanId ← (value.get "guest_scan_id").string?
      let resultToken ← (value.get "result_token").string?
      let expiresAt ← (value.get "result_access_expires_at_unix_seconds").bigint?
      let expiresIn ← (value.get "result_token_expires_in_seconds").natural?
      if validId guestScanId ∧ validResultToken resultToken ∧ (now : Int) < expiresAt ∧
          expiresAt ≤ (maxUnixSecondsForIso : Int) ∧ 1 ≤ expiresIn ∧ expiresIn ≤ 1800 ∧
          expiresAt - now = expiresIn then
        some ⟨replayed, guestScanId, resultToken, expiresAt.toNat, expiresIn⟩
      else none
    | _ => none

def publicLimitCodes : List String :=
  ["SESSION_CONCURRENCY_LIMIT", "SESSION_BURST_LIMIT", "SESSION_DAILY_LIMIT",
    "NETWORK_CONCURRENCY_LIMIT", "NETWORK_BURST_LIMIT", "NETWORK_DAILY_LIMIT"]

def publicRetryAfter (value : Datum) : Option Nat :=
  value.natural?.filter fun seconds =>
    decide (1 ≤ seconds) && decide (seconds ≤ maxRetryAfterSeconds)

/-- `mapPersistenceFailure` on an answer about the abuse limits. -/
def mapAbuseFailure (value : Datum) (keys : List String) : GuestScanCreationResult :=
  if !keys.contains "abuse_code" || decide (keys.length < 3) || decide (keys.length > 4) ||
      (keys.length == 4 && !keys.contains "retry_after_seconds") then scanUnavailable
  else
    match (value.get "abuse_code").string? with
    | none => scanUnavailable
    | some abuseCode =>
      if abuseCode = "GUEST_SCANNING_PAUSED" then .failure 503 .guestScanningUnavailable none
      else if !publicLimitCodes.contains abuseCode then scanUnavailable
      else .failure 429 .guestScanLimitExceeded (publicRetryAfter (value.get "retry_after_seconds"))

def mapPersistenceFailure (value : Datum) : GuestScanCreationResult :=
  match value with
  | .record _ fields =>
    let keys := fields.map Prod.fst
    match (value.get "ok").bool?, (value.get "code").string? with
    | some false, some code =>
      if !keys.contains "ok" || !keys.contains "code" then scanUnavailable
      else if code = "IDEMPOTENCY_KEY_REUSED" ∧ keys.length = 2 then
        .failure 409 .idempotencyKeyReused none
      else if code ≠ "ABUSE_LIMIT_EXCEEDED" then scanUnavailable
      else mapAbuseFailure value keys
    | _, _ => scanUnavailable
  | _ => scanUnavailable

/-! ### The queue and the answer of the service -/

def matchesQueuedScan (value : Datum) (guestScanId : String) : Bool :=
  value.hasExactKeys ["schema_version", "guest_scan_id"] &&
    (value.get "schema_version").whole? == some 1 &&
    (value.get "guest_scan_id").string? == some guestScanId

def acknowledges (queue : String → Option Datum) (guestScanId : String) : Bool :=
  (queue guestScanId).any fun queued => matchesQueuedScan queued guestScanId

theorem acknowledges_iff {queue : String → Option Datum} {guestScanId : String} :
    acknowledges queue guestScanId = true ↔
      ∃ queued, queue guestScanId = some queued ∧ matchesQueuedScan queued guestScanId = true :=
  Option.any_eq_true _ _

def acceptedResult (accepted : PersistedSuccess) : GuestScanCreationResult :=
  .ok (if accepted.replayed then 200 else 202) {
    scanId := accepted.guestScanId
    resultToken := accepted.resultToken
    resultAccessExpiresAt := isoOfSeconds accepted.expiresAt
    resultTokenExpiresInSeconds := accepted.expiresIn }

def answerStored (queue : String → Option Datum) (stored : Datum) (now : Nat) :
    GuestScanCreationResult :=
  match persistedSuccess stored now with
  | none => mapPersistenceFailure stored
  | some accepted =>
    if acknowledges queue accepted.guestScanId then acceptedResult accepted else scanUnavailable

/-- `createGuestScanCreationService`, for one request. -/
def createGuestScan (runtime : EnvelopeRuntime) (dependencies : GuestScanCreationDependencies)
    (inputs : GuestScanCreationInputs) (persistence : PersistArguments → Option Datum)
    (queue : String → Option Datum) (value : Datum) : GuestScanCreationResult :=
  match prepare runtime dependencies inputs value with
  | .error denied => denied
  | .ok arguments =>
    match persistence arguments with
    | none => scanUnavailable
    | some stored => answerStored queue stored arguments.trustedNow

/-! ### What is known of prepared arguments -/

/-- The way of a request to the store: its host, its keys, its session, and no revocation. -/
structure Prepared (runtime : EnvelopeRuntime) (dependencies : GuestScanCreationDependencies)
    (inputs : GuestScanCreationInputs) (value : Datum) (arguments : PersistArguments)
    (input : GuestScanCreationRequest) (host : String) (keys : List (Nat × List UInt8))
    (session : AuthenticatedGuestSession) : Prop where
  request : scanRequest? value = some input
  canonical : canonicalDomain runtime.toNodeRuntime input.domain = some host
  current : ∃ active, inputs.currentKeys.bind snapshotGuestSessionKeyState = some (active, keys)
  authenticated : creationSession runtime input.cookieHeader keys = .ok session
  unrevoked : inputs.isRevoked session.guestSessionScope = some (.bool false)
  made : persistArguments runtime dependencies inputs.now input host
    session.guestSessionScope = .ok arguments

theorem ensureUnrevoked_ok {revoked : Option Datum} {value : Unit}
    (h : ensureUnrevoked revoked = .ok value) : revoked = some (.bool false) := by
  unfold ensureUnrevoked at h
  split at h
  · rfl
  · cases h
  · cases h

theorem prepare_ok {runtime : EnvelopeRuntime} {dependencies : GuestScanCreationDependencies}
    {inputs : GuestScanCreationInputs} {value : Datum} {arguments : PersistArguments}
    (h : prepare runtime dependencies inputs value = .ok arguments) :
    ∃ input host keys session,
      Prepared runtime dependencies inputs value arguments input host keys session := by
  unfold prepare at h
  split at h
  · cases h
  rename_i input hinput
  split at h
  · cases h
  rename_i host hhost
  split at h
  · cases h
  rename_i active keys hkeys
  split at h
  · rename_i session hsession
    cases hrevoked : ensureUnrevoked (inputs.isRevoked session.guestSessionScope) with
    | error denied =>
      rw [hrevoked] at h
      cases h
    | ok value =>
      rw [hrevoked] at h
      exact ⟨input, host, keys, session, hinput, hhost, ⟨active, hkeys⟩, hsession,
        ensureUnrevoked_ok hrevoked, h⟩
  · cases h

theorem persistArguments_ok {runtime : EnvelopeRuntime}
    {dependencies : GuestScanCreationDependencies} {now : ClockReading}
    {input : GuestScanCreationRequest} {host scope : String} {arguments : PersistArguments}
    (h : persistArguments runtime dependencies now input host scope = .ok arguments) :
    ∃ address policyId,
      deriveGuestNetworkSignalKeyring runtime.toNodeRuntime
        (keyringRequest address dependencies.networkKeyring.toMap
          dependencies.activeNetworkKeyVersion) = .ok policyId arguments.networkSignalDigests ∧
      deriveGuestScanRequestHash runtime host = some arguments.requestHash ∧
      arguments.guestSessionScope = scope ∧ arguments.idempotencyKey = input.idempotencyKey ∧
      arguments.canonicalTarget = host ∧
      arguments.trustedNow + 86400 ≤ maxUnixSecondsForIso := by
  unfold persistArguments at h
  split at h
  · cases h
  rename_i address _ _
  split at h
  · rename_i hdigests hhash _
    split at h
    · cases h
    · rename_i hnow
      cases h
      refine ⟨address, _, hdigests, hhash, rfl, rfl, rfl, ?_⟩
      unfold maxUnixSecondsForIso at hnow ⊢
      dsimp only
      omega
  · cases h

end Outscan

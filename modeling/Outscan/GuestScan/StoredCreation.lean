import Mathlib.Data.Set.List
import Outscan.Creation.Progress
import Outscan.Creation.Replay
import Outscan.GuestScan.Create
import Outscan.Library.Unordered
import Outscan.Quota.RetryAdvice

/-! The creation service over the store of `createPostgresGuestScanPersistence`. -/
namespace Outscan

open Dynamic Transactional Lifecycle Relational

/-! ### The texts of the arguments and the bytes of the store -/

def networkPrefix : List Char := "hmac-sha256:".toList

def networkText (mac : Bytes32) : String := String.ofList (networkPrefix ++ Hex.encode mac.bytes)

/-- The bytes of a text of the form `^hmac-sha256:[0-9a-f]{64}$`. -/
def parseNetworkDigest (text : String) : Option Bytes32 :=
  if text.toList.take networkPrefix.length = networkPrefix then
    (Hex.decode (text.toList.drop networkPrefix.length)).bind Bytes32.ofBytes?
  else none

def PersistArguments.request? (arguments : PersistArguments) : Option PersistGuestScanRequest := do
  let scope ← parseDigest arguments.guestSessionScope
  let requestHash ← parseDigest arguments.requestHash
  let digests ← arguments.networkSignalDigests.mapM parseNetworkDigest
  some ⟨scope, arguments.idempotencyKey, requestHash, arguments.canonicalTarget, digests,
    arguments.trustedNow⟩

def GuestIdempotencyError.text : GuestIdempotencyError → String
  | .invalidRequest => "INVALID_REQUEST"
  | .invalidRecord => "INVALID_RECORD"
  | .idempotencyKeyReused => "IDEMPOTENCY_KEY_REUSED"
  | .resultAccessRevoked => "RESULT_ACCESS_REVOKED"
  | .resultTokenUnavailable => "RESULT_TOKEN_UNAVAILABLE"

def GuestAbuseDenyCode.text : GuestAbuseDenyCode → String
  | .guestScanningPaused => "GUEST_SCANNING_PAUSED"
  | .sessionConcurrencyLimit => "SESSION_CONCURRENCY_LIMIT"
  | .sessionBurstLimit => "SESSION_BURST_LIMIT"
  | .sessionDailyLimit => "SESSION_DAILY_LIMIT"
  | .networkConcurrencyLimit => "NETWORK_CONCURRENCY_LIMIT"
  | .networkBurstLimit => "NETWORK_BURST_LIMIT"
  | .networkDailyLimit => "NETWORK_DAILY_LIMIT"

def actionText : Option CreateAction → String
  | none => "REPLAY"
  | some .create => "CREATE"
  | some .replaceExpired => "REPLACE_EXPIRED"

/-- The field `retry_after_seconds`, which is left out without a wait. -/
def retryField : Option Nat → List (String × Datum)
  | none => []
  | some seconds => [("retry_after_seconds", .number (.whole seconds))]

def PersistGuestScanResult.toDatum : PersistGuestScanResult → Datum
  | .ok action guestScanId resultToken expiresAt expiresIn =>
    .object [("ok", .bool true), ("action", .string (actionText action)),
      ("guest_scan_id", .string guestScanId), ("result_token", .string resultToken),
      ("result_access_expires_at_unix_seconds", .bigint expiresAt),
      ("result_token_expires_in_seconds", .number (.whole expiresIn))]
  | .failure code => .object [("ok", .bool false), ("code", .string code.text)]
  | .unavailable =>
    .object [("ok", .bool false), ("code", .string "GUEST_PERSISTENCE_UNAVAILABLE")]
  | .abuseLimitExceeded abuseCode retryAfterSeconds =>
    .object ([("ok", .bool false), ("code", .string "ABUSE_LIMIT_EXCEEDED"),
      ("abuse_code", .string abuseCode.text)] ++ retryField retryAfterSeconds)

/-- `createOrReplay` on the arguments of the service. -/
def storedOutcome (node : NodeRuntime) (postgres : GuestPersistenceDependencies) (db : Database)
    (arguments : PersistArguments) : PersistGuestScanResult :=
  match arguments.request? with
  | none => .failure .invalidRequest
  | some request => (createOrReplay node postgres request db).1

/-- The store as a dependency of the service; it does not throw. -/
def postgresPersistence (node : NodeRuntime) (postgres : GuestPersistenceDependencies)
    (db : Database) (arguments : PersistArguments) : Option Datum :=
  some (storedOutcome node postgres db arguments).toDatum

theorem parseNetworkDigest_text (mac : Bytes32) :
    parseNetworkDigest (networkText mac) = some mac := by
  have htext : (networkText mac).toList = networkPrefix ++ Hex.encode mac.bytes := by
    rw [networkText, String.toList_ofList]
  rw [parseNetworkDigest, htext, List.take_left, if_pos rfl, List.drop_left,
    Hex.decode_encode, Option.bind_some, Bytes32.ofBytes?, dif_pos mac.size]

/-! ### The store accepts what the service prepares -/

theorem deriveNetworkDigest_text {node : NodeRuntime} {address text : String} {key : List UInt8}
    (h : deriveNetworkDigest node address key = some text) : ∃ mac, networkText mac = text := by
  unfold deriveNetworkDigest at h
  split at h
  · cases h
  split at h
  · cases h
  · exact ⟨_, Option.some.inj h⟩

theorem deriveKeyringDigests_ok {node : NodeRuntime} {address policyId : String} {keyring : KeyMap}
    {activeVersion : Scalar} {digests : List String}
    (h : deriveKeyringDigests node address keyring activeVersion = .ok policyId digests) :
    ∃ macs : List Bytes32, macs.map networkText = digests ∧ macs ≠ [] ∧ macs.length ≤ 3 ∧
      macs.Nodup := by
  unfold deriveKeyringDigests at h
  split at h
  · cases h
  rename_i active _
  split at h
  · cases h
  rename_i hlength
  split at h
  · cases h
  rename_i entries hentries
  split at h
  · cases h
  split at h
  · cases h
  rename_i found hfound
  split at h
  · rename_i hnodup
    cases h
    have hread := Unordered.mapM_eq_some.mp hfound
    have htexts : digests ∈ Set.range (List.map networkText) := by
      rw [Set.range_list_map]
      intro text htext
      obtain ⟨entry, -, hentry⟩ := Unordered.mem_of_forall₂ hread htext
      exact deriveNetworkDigest_text hentry
    obtain ⟨macs, rfl⟩ := htexts
    have hcount : macs.length = keyring.entries.length := by
      have hsame := hread.length_eq
      rw [List.length_insertionSort, List.length_map,
        (Unordered.mapM_eq_some.mp hentries).length_eq.symm] at hsame
      exact hsame.symm
    unfold maxNetworkSignalKeys at hlength
    refine ⟨macs, rfl, ?_, by omega, List.Nodup.of_map _ hnodup⟩
    rintro rfl
    rw [List.length_nil] at hcount
    omega
  · cases h

theorem creationSession_scope {runtime : EnvelopeRuntime} {cookieHeader : Datum}
    {keys : List (Nat × List UInt8)} {session : AuthenticatedGuestSession}
    (h : creationSession runtime cookieHeader keys = .ok session) :
    ∃ digest, session.guestSessionScope = digestText digest := by
  unfold creationSession authenticateGuestSessionCookieHeader at h
  split at h
  · cases h
  · cases h
  · cases h
  · unfold authenticateCookieValue at h
    split at h
    · cases h
    · rename_i principal hprincipal
      cases h
      obtain ⟨key, -, -, hscope⟩ := verifyGuestSessionCookie_eq_some.mp hprincipal
      obtain ⟨message, -, hdigest⟩ := Option.map_eq_some_iff.mp hscope
      exact ⟨_, hdigest.symm⟩

theorem deriveGuestScanRequestHash_eq_some {runtime : EnvelopeRuntime} {host hash : String}
    (h : deriveGuestScanRequestHash runtime host = some hash) :
    canonicalizeHostname runtime.toNodeRuntime host = .ok host ∧
      ∃ digest, hash = digestText digest := by
  obtain ⟨message, hmessage, rfl⟩ := Option.map_eq_some_iff.mp h
  refine ⟨?_, _, rfl⟩
  unfold guestScanRequestMessage at hmessage
  split at hmessage
  · cases hmessage
  · rename_i canonical hcanonical
    split at hmessage
    · cases hmessage
    · rename_i hsame
      rw [hcanonical, not_not.mp hsame]

theorem scanRequest?_key {value : Datum} {input : GuestScanCreationRequest}
    (h : scanRequest? value = some input) : validIdempotencyKey input.idempotencyKey = true := by
  unfold scanRequest? at h
  split at h
  · cases h
  dsimp only at h
  split at h
  · cases h
  obtain ⟨key, -, h⟩ := Option.bind_eq_some_iff.mp h
  split at h
  · cases h
  · rename_i hvalid
    cases h
    simpa using hvalid

theorem prepare_persist {runtime : EnvelopeRuntime} {dependencies : GuestScanCreationDependencies}
    {inputs : GuestScanCreationInputs} {value : Datum} {arguments : PersistArguments}
    (h : prepare runtime dependencies inputs value = .ok arguments) :
    ∃ snapshot : SnapshotRequest, snapshot.WellFormed runtime.toNodeRuntime ∧
      arguments.request? = some snapshot.persist ∧ snapshot.now = arguments.trustedNow := by
  obtain ⟨input, host, keys, session, hprepared⟩ := prepare_ok h
  obtain ⟨address, policyId, hdigests, hhash, hscope, hkey, htarget, hnow⟩ :=
    persistArguments_ok hprepared.made
  obtain ⟨scope, hscope'⟩ := creationSession_scope hprepared.authenticated
  obtain ⟨hcanonical, hash, hhash'⟩ := deriveGuestScanRequestHash_eq_some hhash
  obtain ⟨macs, hmacs, hne, hfew, hnodup⟩ := deriveKeyringDigests_ok hdigests
  have hparsed : (macs.map networkText).mapM parseNetworkDigest = some (macs.map id) :=
    mapM_eq_some_map fun mac _ => parseNetworkDigest_text mac
  rw [hmacs, List.map_id] at hparsed
  refine ⟨⟨scope, arguments.idempotencyKey, hash, arguments.canonicalTarget, macs,
    arguments.trustedNow⟩, ⟨?_, hne, hfew, hnodup, ?_, ?_⟩, ?_, rfl⟩
  · rw [hkey]
    exact scanRequest?_key hprepared.request
  · exact hnow
  · rw [htarget]
    exact hcanonical
  · rw [PersistArguments.request?, parseDigest_eq_some.mpr (hscope.trans hscope'),
      parseDigest_eq_some.mpr hhash', hparsed]
    rfl

/-! ### What the client is told -/

def prescribed (queue : String → Option Datum) : PersistGuestScanResult → GuestScanCreationResult
  | .ok action guestScanId resultToken expiresAt expiresIn =>
    if acknowledges queue guestScanId then
      .ok (if action.isNone then 200 else 202)
        ⟨guestScanId, resultToken, isoOfSeconds expiresAt, expiresIn⟩
    else scanUnavailable
  | .failure .idempotencyKeyReused => .failure 409 .idempotencyKeyReused none
  | .failure _ => scanUnavailable
  | .unavailable => scanUnavailable
  | .abuseLimitExceeded .guestScanningPaused _ => .failure 503 .guestScanningUnavailable none
  | .abuseLimitExceeded _ retryAfterSeconds =>
    .failure 429 .guestScanLimitExceeded retryAfterSeconds

theorem replayAction?_text (action : Option CreateAction) :
    replayAction? (actionText action) = some action.isNone := by
  match action with
  | none => rfl
  | some .create => rfl
  | some .replaceExpired => rfl

section Success

variable {action : Option CreateAction} {guestScanId resultToken : String}
  {expiresAt expiresIn now : Nat}

theorem persistedSuccess_ok :
    persistedSuccess
        (PersistGuestScanResult.ok action guestScanId resultToken expiresAt expiresIn).toDatum now =
      if validId guestScanId ∧ validResultToken resultToken ∧ (now : Int) < (expiresAt : Int) ∧
          (expiresAt : Int) ≤ (maxUnixSecondsForIso : Int) ∧ 1 ≤ expiresIn ∧ expiresIn ≤ 1800 ∧
          (expiresAt : Int) - now = expiresIn then
        some ⟨action.isNone, guestScanId, resultToken, expiresAt, expiresIn⟩
      else none := by
  have hkeys : (PersistGuestScanResult.ok action guestScanId resultToken expiresAt
      expiresIn).toDatum.hasExactKeys persistedKeys = true := rfl
  rw [persistedSuccess, hkeys]
  simp only [PersistGuestScanResult.toDatum, Datum.get_object_cons, String.reduceEq, if_true,
    if_false, Bool.not_true, Bool.false_eq_true, Datum.bool?, Datum.string?, Datum.bigint?,
    Datum.natural?, Int.natCast_nonneg, Int.toNat_natCast, Option.bind_eq_bind, Option.bind_some,
    replayAction?_text]

theorem persistedSuccess_toDatum (hid : validId guestScanId = true)
    (htoken : validResultToken resultToken = true) (hexpires : expiresAt = now + expiresIn)
    (hmax : expiresAt ≤ maxUnixSecondsForIso) (hpos : 1 ≤ expiresIn) (hwindow : expiresIn ≤ 1800) :
    persistedSuccess
        (PersistGuestScanResult.ok action guestScanId resultToken expiresAt expiresIn).toDatum now =
      some ⟨action.isNone, guestScanId, resultToken, expiresAt, expiresIn⟩ := by
  rw [persistedSuccess_ok]
  exact if_pos ⟨hid, htoken, by omega, by omega, hpos, hwindow, by omega⟩

theorem persistedSuccess_late (hlate : 1800 < expiresIn) :
    persistedSuccess
        (PersistGuestScanResult.ok action guestScanId resultToken expiresAt expiresIn).toDatum now =
      none := by
  rw [persistedSuccess_ok, if_neg]
  rintro ⟨-, -, -, -, -, hwindow, -⟩
  omega

theorem answerStored_granted (queue : String → Option Datum) (hid : validId guestScanId = true)
    (htoken : validResultToken resultToken = true) (hexpires : expiresAt = now + expiresIn)
    (hmax : expiresAt ≤ maxUnixSecondsForIso) (hpos : 1 ≤ expiresIn) (hwindow : expiresIn ≤ 1800) :
    answerStored queue
        (PersistGuestScanResult.ok action guestScanId resultToken expiresAt expiresIn).toDatum now =
      prescribed queue (.ok action guestScanId resultToken expiresAt expiresIn) := by
  rw [answerStored, persistedSuccess_toDatum hid htoken hexpires hmax hpos hwindow]
  rfl

theorem answerStored_late (queue : String → Option Datum) (hlate : 1800 < expiresIn) :
    answerStored queue
        (PersistGuestScanResult.ok action guestScanId resultToken expiresAt expiresIn).toDatum now =
      scanUnavailable := by
  rw [answerStored, persistedSuccess_late hlate]
  rfl

end Success

theorem persistedSuccess_of_not_ok {stored : Datum} (h : stored.get "ok" = .bool false) (now : Nat) :
    persistedSuccess stored now = none := by
  unfold persistedSuccess
  rw [h]
  split <;> rfl

theorem answerStored_failure (queue : String → Option Datum) (code : GuestIdempotencyError)
    (now : Nat) :
    answerStored queue (PersistGuestScanResult.failure code).toDatum now =
      prescribed queue (.failure code) := by
  rw [answerStored, persistedSuccess_of_not_ok rfl]
  cases code <;> rfl

theorem answerStored_unavailable (queue : String → Option Datum) (now : Nat) :
    answerStored queue PersistGuestScanResult.unavailable.toDatum now =
      prescribed queue .unavailable := by
  rw [answerStored, persistedSuccess_of_not_ok rfl]
  rfl

theorem publicRetryAfter_natCast {seconds : Nat} (hpos : 1 ≤ seconds)
    (hday : seconds ≤ maxRetryAfterSeconds) :
    publicRetryAfter (.number (.whole seconds)) = some seconds := by
  simp [publicRetryAfter, Datum.natural?, hpos, hday]

theorem mapAbuseFailure_toDatum {value : Datum} {keys : List String} {code : GuestAbuseDenyCode}
    (hkeys : keys = ["ok", "code", "abuse_code"] ∨
      keys = ["ok", "code", "abuse_code", "retry_after_seconds"])
    (hcode : value.get "abuse_code" = .string code.text) :
    mapAbuseFailure value keys =
      if code = .guestScanningPaused then .failure 503 .guestScanningUnavailable none
      else .failure 429 .guestScanLimitExceeded
        (publicRetryAfter (value.get "retry_after_seconds")) := by
  unfold mapAbuseFailure
  rw [hcode]
  rcases hkeys with rfl | rfl <;> cases code <;> rfl

theorem answerStored_abuse (queue : String → Option Datum) {code : GuestAbuseDenyCode}
    {retryAfterSeconds : Option Nat}
    (hretry : ∀ seconds ∈ retryAfterSeconds, 1 ≤ seconds ∧ seconds ≤ maxRetryAfterSeconds)
    (now : Nat) :
    answerStored queue (PersistGuestScanResult.abuseLimitExceeded code retryAfterSeconds).toDatum
        now =
      prescribed queue (.abuseLimitExceeded code retryAfterSeconds) := by
  rw [answerStored, persistedSuccess_of_not_ok rfl]
  cases retryAfterSeconds with
  | none =>
    have hmapped : mapPersistenceFailure
        (PersistGuestScanResult.abuseLimitExceeded code none).toDatum = mapAbuseFailure
          (PersistGuestScanResult.abuseLimitExceeded code none).toDatum
          ["ok", "code", "abuse_code"] := rfl
    dsimp only
    rw [hmapped, mapAbuseFailure_toDatum (.inl rfl) rfl]
    cases code <;> rfl
  | some seconds =>
    obtain ⟨hpos, hday⟩ := hretry seconds rfl
    have hmapped : mapPersistenceFailure
        (PersistGuestScanResult.abuseLimitExceeded code (some seconds)).toDatum = mapAbuseFailure
          (PersistGuestScanResult.abuseLimitExceeded code (some seconds)).toDatum
          ["ok", "code", "abuse_code", "retry_after_seconds"] := rfl
    have hwait : (PersistGuestScanResult.abuseLimitExceeded code
        (some seconds)).toDatum.get "retry_after_seconds" = .number (.whole seconds) := rfl
    dsimp only
    rw [hmapped, mapAbuseFailure_toDatum (.inr rfl) rfl, hwait, publicRetryAfter_natCast hpos hday]
    cases code <;> rfl

/-! ### What the store answers -/

theorem createOrReplay_retry {node : NodeRuntime} {postgres : GuestPersistenceDependencies}
    {request : PersistGuestScanRequest} {db : Database} {code : GuestAbuseDenyCode} {wait : Nat}
    (h : (createOrReplay node postgres request db).1 = .abuseLimitExceeded code (some wait)) :
    1 ≤ wait ∧ wait ≤ maxRetryAfterSeconds := (retry_after_window node h).1

theorem validResultToken_derived {node : NodeRuntime} {metadata : GuestResultTokenMetadata}
    {key : List UInt8} {token : String} (h : deriveGuestResultToken node metadata key = some token) :
    validResultToken token = true := by
  unfold deriveGuestResultToken at h
  split at h
  · cases h
  split at h
  · cases h
  obtain ⟨message, -, rfl⟩ := Option.map_eq_some_iff.mp h
  rw [validResultToken, encodeBase64Url, String.toList_ofList]
  exact isToken43_base64UrlChars (node.hmacSha256 key message).size

theorem Granted.validResultToken {node : NodeRuntime} {ring : GuestResultTokenKeyring}
    {row : GuestScan} {guestScanId token : String} {expiresAt : Nat}
    (h : Granted node ring row guestScanId token expiresAt) :
    Outscan.validResultToken token = true := by
  obtain ⟨key, -, htoken⟩ := Option.bind_eq_some_iff.mp h.token
  exact validResultToken_derived htoken

/-! ### A stored scan ahead of the request clock -/

def StoredAhead (node : NodeRuntime) (postgres : GuestPersistenceDependencies)
    (request : PersistGuestScanRequest) (t : Tables) : Prop :=
  ∃ row, t.lookup request.guestSessionScope request.idempotencyKey = some row ∧
    row.requestHash = request.requestHash ∧ row.resultAccessRevokedAt = none ∧
    ((postgres.tokenKeyring row.resultTokenKeyVersion).bind
      (deriveGuestResultToken node row.record.tokenMetadata)).isSome = true ∧
    request.trustedNow < row.createdAt

theorem replay_remaining {node : NodeRuntime} {request : GuestIdempotencyRequest}
    {existing : ExistingRecord} {ring : GuestResultTokenKeyring} {guestScanId token : String}
    {expiresAt expiresIn : Nat}
    (h : decideGuestScanIdempotency node request existing ring =
      .replay guestScanId token expiresAt expiresIn) : expiresIn = expiresAt - request.now := by
  unfold decideGuestScanIdempotency createDecision at h
  split at h
  · cases h
  split at h
  · split at h <;> cases h
  · cases h
  split at h
  · cases h
  split at h
  · cases h
  split at h
  · split at h <;> cases h
  split at h
  · cases h
  split at h
  · cases h
  split at h
  · cases h
  split at h
  · cases h
  · cases h
    rfl

section Mapped

variable {node : NodeRuntime} {postgres : GuestPersistenceDependencies} {db : Database}
  {snapshot : SnapshotRequest}

theorem answerStored_fails (queue : String → Option Datum) {request : PersistGuestScanRequest}
    (h : (createOrReplay node postgres request db).1.Fails) (now : Nat) :
    answerStored queue (createOrReplay node postgres request db).1.toDatum now =
      prescribed queue (createOrReplay node postgres request db).1 := by
  cases hanswer : (createOrReplay node postgres request db).1 with
  | ok => rw [hanswer] at h; exact h.elim
  | failure code => exact answerStored_failure queue code now
  | unavailable => exact answerStored_unavailable queue now
  | abuseLimitExceeded code retryAfterSeconds =>
    apply answerStored_abuse
    intro seconds hseconds
    cases hseconds
    exact createOrReplay_retry hanswer

theorem answerStored_replayed (queue : String → Option Datum)
    (hwell : snapshot.WellFormed node)
    (hahead : ¬ StoredAhead node postgres snapshot.persist db.val) {guestScanId token : String}
    {expiresAt expiresIn : Nat}
    (h : decideGuestScanIdempotency node snapshot.idempotency
      (existingRecord (db.val.lookup snapshot.guestSessionScope snapshot.idempotencyKey))
      postgres.tokenKeyring = .replay guestScanId token expiresAt expiresIn) :
    answerStored queue
        (PersistGuestScanResult.ok none guestScanId token expiresAt expiresIn).toDatum
        snapshot.now = prescribed queue (.ok none guestScanId token expiresAt expiresIn) := by
  obtain ⟨row, hlookup, hhash, hfresh, hgranted⟩ := replay_granted hwell h
  have hremaining : expiresIn = expiresAt - snapshot.now := replay_remaining h
  obtain ⟨hmem, -, -⟩ := lookup_eq_some.mp hlookup
  have hchecked := db.val.guestScans.checked row hmem
  have hidempotency := hchecked.time.idempotency
  have hexpires := hgranted.expires
  have htoken : ((postgres.tokenKeyring row.resultTokenKeyVersion).bind
      (deriveGuestResultToken node row.record.tokenMetadata)).isSome = true := by
    rw [hgranted.token]
    rfl
  have hcreated : row.createdAt ≤ snapshot.now := by
    by_contra hlater
    apply hahead
    refine ⟨row, hlookup, hhash, hgranted.unrevoked, htoken, ?_⟩
    exact Int.ofNat_lt.mpr (Nat.lt_of_not_le hlater)
  have hnow := hwell.now_le
  simp only [retentionSeconds, maxPostgresUnixSeconds] at hnow
  have hid : validId guestScanId = true := hgranted.id ▸ hchecked.id_valid
  apply answerStored_granted queue hid hgranted.validResultToken
  · omega
  · unfold maxUnixSecondsForIso
    omega
  · omega
  · omega

theorem answerStored_outcome (queue : String → Option Datum) (hwell : snapshot.WellFormed node)
    (hahead : ¬ StoredAhead node postgres snapshot.persist db.val) {t' : Tables}
    {answer : PersistGuestScanResult}
    (h : CreateOutcome node postgres snapshot db.val answer t') :
    answerStored queue answer.toDatum snapshot.now = prescribed queue answer := by
  cases h with
  | denied code decision => exact answerStored_failure queue code snapshot.now
  | replayed guestScanId token expiresAt expiresIn decision =>
    exact answerStored_replayed queue hwell hahead decision
  | admitted action guestScanId token nonce network rest cleared t' decision material networks
      clear admission =>
    have hnow := hwell.now_le
    simp only [retentionSeconds, maxPostgresUnixSeconds] at hnow
    apply answerStored_granted queue (validId_of_material material)
      (tokenMaterial_granted material).validResultToken rfl
    · unfold maxUnixSecondsForIso guestIdempotencyWindowSeconds
      omega
    · decide
    · decide

def willingQueue (guestScanId : String) : Option Datum :=
  some (.object [("schema_version", .number (.whole 1)), ("guest_scan_id", .string guestScanId)])

theorem acknowledges_willingQueue (guestScanId : String) :
    acknowledges willingQueue guestScanId = true := by
  have hkeys : (Datum.object [("schema_version", .number (.whole 1)),
      ("guest_scan_id", .string guestScanId)]).hasExactKeys ["schema_version", "guest_scan_id"] =
      true := rfl
  simp [acknowledges, willingQueue, matchesQueuedScan, hkeys, Datum.get_object_cons, Datum.whole?,
    Datum.string?]

theorem answerStored_ahead (hwell : snapshot.WellFormed node)
    (hahead : StoredAhead node postgres snapshot.persist db.val) :
    answerStored willingQueue (createOrReplay node postgres snapshot.persist db).1.toDatum
        snapshot.now ≠
      prescribed willingQueue (createOrReplay node postgres snapshot.persist db).1 := by
  obtain ⟨row, hlookup, hhash, hunrevoked, htoken, hlater⟩ := hahead
  obtain ⟨token, htoken⟩ := Option.isSome_iff_exists.mp htoken
  obtain ⟨hmem, -, -⟩ := lookup_eq_some.mp hlookup
  have hidempotency := (db.val.guestScans.checked row hmem).time.idempotency
  have hlater' : snapshot.now < row.createdAt := Int.ofNat_lt.mp hlater
  have hsnapshot : (snapshotPersistGuestScanRequest node snapshot.persist).isSome = true := by
    rw [snapshotPersistGuestScanRequest_eq_some.mpr ⟨hwell, rfl⟩]
    rfl
  have hnow : snapshot.persist.trustedNow.toNat = snapshot.now := Int.toNat_natCast snapshot.now
  have hanswer := createOrReplay_stored hsnapshot hlookup (by rw [hnow]; omega)
    ⟨rfl, rfl, hunrevoked, htoken⟩
  rw [if_pos hhash, hnow] at hanswer
  rw [hanswer]
  dsimp only
  rw [answerStored_late willingQueue (by omega), prescribed, acknowledges_willingQueue, if_pos rfl]
  intro heq
  cases heq

/-- Every outcome of the store reaches the client as prescribed, exactly when no stored
scan is ahead of the request. -/
theorem answerStored_prescribed_iff (hwell : snapshot.WellFormed node) :
    (∀ queue, answerStored queue (createOrReplay node postgres snapshot.persist db).1.toDatum
        snapshot.now =
      prescribed queue (createOrReplay node postgres snapshot.persist db).1) ↔
      ¬ StoredAhead node postgres snapshot.persist db.val := by
  constructor
  · intro hall hahead
    exact answerStored_ahead hwell hahead (hall willingQueue)
  · intro hahead queue
    rcases createOrReplay_outcome node postgres snapshot.persist db with
      ⟨hfails, -⟩ | ⟨snapshot', hwell', hsame, hout⟩
    · exact answerStored_fails queue hfails snapshot.now
    · have hfields := snapshotPersistGuestScanRequest_eq_some.mpr ⟨hwell', hsame⟩
      rw [snapshotPersistGuestScanRequest_eq_some.mpr ⟨hwell, rfl⟩] at hfields
      cases hfields
      exact answerStored_outcome queue hwell hahead hout

end Mapped

end Outscan

import Outscan.GuestHttp.Faithful
import Outscan.GuestHttp.ScanRoute
import Outscan.GuestScan.StoredCreation

/-! The creation service and its route agree: the route passes every result of the
service, and what the store decides reaches the client. -/
namespace Outscan

open Dynamic Transactional Lifecycle

/-! ### The route passes closed results -/

theorem isIsoMoment_isoOfSeconds {moment : Nat} (h : moment ≤ maxUnixSecondsForIso) :
    isIsoMoment (isoOfSeconds moment) = true := by
  have hms : moment * 1000 < 253402300800000 := by
    unfold maxUnixSecondsForIso at h
    omega
  rw [isIsoMoment, isoOfSeconds, String.toList_ofList,
    Calendar.parseIso_of_fits (Calendar.ofUnixMs_fits hms)]
  exact decide_eq_true (Calendar.ofUnixMs_toUnixMs_later (moment * 1000) 5)

theorem successBody_of_closed {body : GuestScanCreationSuccessBody} (h : body.Closed) :
    successBody body.toDatum = some body := by
  obtain ⟨hid, htoken, ⟨moment, hmoment, hexpires⟩, hpos, hwindow⟩ := h
  have hkeys : body.toDatum.hasExactKeys successBodyKeys = true := rfl
  have hiso := isIsoMoment_isoOfSeconds hmoment
  have hlength := utf16Length_isoOfSeconds hmoment
  rw [← hexpires] at hiso hlength
  rw [successBody, hkeys]
  simp only [GuestScanCreationSuccessBody.toDatum, Datum.get_object_cons, String.reduceEq, if_true,
    if_false, Bool.not_true, Bool.false_eq_true, Datum.string?, Datum.natural?,
    Int.natCast_nonneg, Int.toNat_natCast, Option.bind_eq_bind, Option.bind_some]
  rw [if_pos ⟨hid, htoken, trivial, hlength, hiso, hpos, hwindow⟩]

theorem validServiceHeaders_base (allowRetryAfter : Bool) :
    validServiceHeaders (.object baseHeaders) allowRetryAfter = some none := by
  cases allowRetryAfter <;> rfl

theorem validServiceHeaders_retry {seconds : Nat} (hpos : 1 ≤ seconds)
    (hday : seconds ≤ maxRetryAfterSeconds) :
    validServiceHeaders (failureHeaders (some seconds)) true =
      some (some (retryAfterText seconds)) := by
  have hbase : (failureHeaders (some seconds)).hasExactKeys
      ["cache-control", "referrer-policy"] = false := rfl
  have hretry : (failureHeaders (some seconds)).hasExactKeys
      ["cache-control", "referrer-policy", "retry-after"] = true := rfl
  rw [validServiceHeaders, hbase, hretry]
  simp only [failureHeaders, baseHeaders, List.cons_append, List.nil_append, Datum.get_object_cons,
    String.reduceEq, if_true, if_false, Bool.not_true, Bool.and_self, Bool.false_eq_true,
    Bool.and_false, Datum.string?, ne_eq, not_true, or_self, isRetryAfter_text hpos hday]

theorem failureDecision_of {code : GuestScanCreationErrorCode} {headers : Datum}
    {retryAfter : Option String}
    (h : validServiceHeaders headers (errorStatus code == 429) = some retryAfter) :
    failureDecision (.number (.whole (errorStatus code))) headers
        (.object [("error", .object [("code", .string code.text)])]) =
      some (.failure (errorStatus code) code retryAfter) := by
  have hbody : (Datum.object [("error", .object [("code", .string code.text)])]).hasExactKeys
      ["error"] = true := rfl
  have herror : (Datum.object [("code", .string code.text)]).hasExactKeys ["code"] = true := rfl
  rw [failureDecision, hbody]
  simp only [Datum.get_object_cons, herror, if_true, Bool.not_true, Bool.false_eq_true, if_false,
    Datum.string?, Option.bind_some, errorCode?_text, Option.bind_eq_bind, Datum.whole?, ne_eq,
    not_true, h]

theorem decisionSnapshot_of_closed {result : GuestScanCreationResult} (h : result.Closed) :
    decisionSnapshot result.toDatum = some result.decision := by
  cases h with
  | @ok statusCode body hstatus hclosed =>
    have hbody := successBody_of_closed hclosed
    have hmade : decisionSnapshot (GuestScanCreationResult.ok statusCode body).toDatum =
        successDecision (.number (.whole statusCode)) (.object baseHeaders) body.toDatum := rfl
    rw [hmade, successDecision, hbody, validServiceHeaders_base]
    rcases hstatus with rfl | rfl <;> rfl
  | failure code => exact failureDecision_of (validServiceHeaders_base _)
  | @limited seconds hpos hday =>
    exact @failureDecision_of .guestScanLimitExceeded _ _ (validServiceHeaders_retry hpos hday)

/-! ### Every result of the service is closed -/

def PlainFailure (result : GuestScanCreationResult) : Prop :=
  ∃ code, result = .failure (errorStatus code) code none

theorem PlainFailure.closed {result : GuestScanCreationResult} (h : PlainFailure result) :
    result.Closed := by
  obtain ⟨code, rfl⟩ := h
  exact .failure code

theorem plainFailure_scanUnavailable : PlainFailure scanUnavailable := ⟨.guestScanUnavailable, rfl⟩

theorem plainFailure_sessionFailure (denied : GuestSessionAuthenticationResult) :
    PlainFailure (sessionFailure denied) := by
  cases denied with
  | missingGuestSession => exact ⟨.guestSessionRequired, rfl⟩
  | _ => exact ⟨.guestSessionInvalid, rfl⟩

theorem plainFailure_invalid : PlainFailure (.failure 400 .invalidScanRequest none) :=
  ⟨.invalidScanRequest, rfl⟩

theorem plainFailure_ensureUnrevoked {revoked : Option Datum} {denied : GuestScanCreationResult}
    (h : ensureUnrevoked revoked = .error denied) : PlainFailure denied := by
  unfold ensureUnrevoked at h
  split at h
  · cases h
  · cases h
    exact ⟨.guestSessionInvalid, rfl⟩
  · cases h
    exact plainFailure_scanUnavailable

section Prepare

variable {runtime : EnvelopeRuntime} {dependencies : GuestScanCreationDependencies}
  {inputs : GuestScanCreationInputs} {value : Datum}

theorem plainFailure_persistArguments {now : ClockReading} {input : GuestScanCreationRequest}
    {host scope : String} {denied : GuestScanCreationResult}
    (h : persistArguments runtime dependencies now input host scope = .error denied) :
    PlainFailure denied := by
  unfold persistArguments at h
  split at h
  · cases h
    exact plainFailure_invalid
  · split at h
    · split at h
      · cases h
        exact plainFailure_scanUnavailable
      · cases h
    · cases h
      exact plainFailure_scanUnavailable

theorem plainFailure_prepare {denied : GuestScanCreationResult}
    (h : prepare runtime dependencies inputs value = .error denied) : PlainFailure denied := by
  unfold prepare at h
  split at h
  · cases h
    exact plainFailure_invalid
  split at h
  · cases h
    exact plainFailure_invalid
  split at h
  · cases h
    exact plainFailure_scanUnavailable
  split at h
  · rename_i session _
    cases hrevoked : ensureUnrevoked (inputs.isRevoked session.guestSessionScope) with
    | error failed =>
      rw [hrevoked] at h
      cases h
      exact plainFailure_ensureUnrevoked hrevoked
    | ok _ =>
      rw [hrevoked] at h
      exact plainFailure_persistArguments h
  · cases h
    exact plainFailure_sessionFailure _

end Prepare

theorem publicRetryAfter_eq_some {value : Datum} {seconds : Nat}
    (h : publicRetryAfter value = some seconds) :
    1 ≤ seconds ∧ seconds ≤ maxRetryAfterSeconds := by
  obtain ⟨-, hrange⟩ := Option.filter_eq_some_iff.mp h
  simpa using hrange

theorem closed_mapAbuseFailure (value : Datum) (keys : List String) :
    (mapAbuseFailure value keys).Closed := by
  unfold mapAbuseFailure
  split
  · exact plainFailure_scanUnavailable.closed
  split
  · exact plainFailure_scanUnavailable.closed
  split
  · exact .failure .guestScanningUnavailable
  split
  · exact plainFailure_scanUnavailable.closed
  cases hretry : publicRetryAfter (value.get "retry_after_seconds") with
  | none => exact .failure .guestScanLimitExceeded
  | some seconds =>
    obtain ⟨hpos, hday⟩ := publicRetryAfter_eq_some hretry
    exact .limited hpos hday

theorem closed_mapPersistenceFailure (value : Datum) : (mapPersistenceFailure value).Closed := by
  unfold mapPersistenceFailure
  split
  · dsimp only
    split
    · split
      · exact plainFailure_scanUnavailable.closed
      split
      · exact .failure .idempotencyKeyReused
      split
      · exact plainFailure_scanUnavailable.closed
      exact closed_mapAbuseFailure _ _
    · exact plainFailure_scanUnavailable.closed
  · exact plainFailure_scanUnavailable.closed

structure PersistedSuccess.Fits (accepted : PersistedSuccess) (stored : Datum) (now : Nat) :
    Prop where
  ok : stored.get "ok" = .bool true
  id : stored.get "guest_scan_id" = .string accepted.guestScanId
  token : stored.get "result_token" = .string accepted.resultToken
  id_valid : validId accepted.guestScanId = true
  token_valid : validResultToken accepted.resultToken = true
  expires : accepted.expiresAt = now + accepted.expiresIn
  expires_le : accepted.expiresAt ≤ maxUnixSecondsForIso
  positive : 1 ≤ accepted.expiresIn
  window : accepted.expiresIn ≤ 1800

theorem persistedSuccess_fits {stored : Datum} {now : Nat} {accepted : PersistedSuccess}
    (h : persistedSuccess stored now = some accepted) : accepted.Fits stored now := by
  unfold persistedSuccess at h
  split at h
  · cases h
  split at h
  · rename_i hok
    simp only [Option.bind_eq_bind, Option.bind_eq_some_iff] at h
    obtain ⟨_, -, _, hid, _, htoken, expiresAt, -, expiresIn, -, h⟩ := h
    split at h
    · rename_i hvalid
      obtain ⟨hidValid, htokenValid, hlive, hmax, hpos, hwindow, hremaining⟩ := hvalid
      cases h
      refine ⟨Datum.bool?_eq_some.mp hok, Datum.string?_eq_some.mp hid,
        Datum.string?_eq_some.mp htoken, hidValid, htokenValid, ?_, ?_, hpos, hwindow⟩
      · dsimp only
        omega
      · dsimp only
        omega
    · cases h
  · cases h

theorem PersistedSuccess.Fits.closed {accepted : PersistedSuccess} {stored : Datum} {now : Nat}
    (h : accepted.Fits stored now) : (acceptedResult accepted).Closed := by
  refine .ok ?_ ⟨h.id_valid, h.token_valid, ⟨_, h.expires_le, rfl⟩, h.positive, h.window⟩
  cases accepted.replayed
  · exact .inr rfl
  · exact .inl rfl

theorem closed_answerStored (queue : String → Option Datum) (stored : Datum) (now : Nat) :
    (answerStored queue stored now).Closed := by
  unfold answerStored
  split
  · exact closed_mapPersistenceFailure stored
  · rename_i accepted haccepted
    split
    · exact (persistedSuccess_fits haccepted).closed
    · exact plainFailure_scanUnavailable.closed

theorem createGuestScan_closed (runtime : EnvelopeRuntime)
    (dependencies : GuestScanCreationDependencies) (inputs : GuestScanCreationInputs)
    (persistence : PersistArguments → Option Datum) (queue : String → Option Datum)
    (value : Datum) :
    (createGuestScan runtime dependencies inputs persistence queue value).Closed := by
  unfold createGuestScan
  split
  · rename_i hprepare
    exact (plainFailure_prepare hprepare).closed
  split
  · exact plainFailure_scanUnavailable.closed
  · exact closed_answerStored queue _ _

/-! ### Tokens -/

/-- Why a body may be shown: for the authenticated, unrevoked session the store answered with
exactly its scan and its token, and the queue took exactly that scan. -/
structure Entitled (runtime : EnvelopeRuntime) (dependencies : GuestScanCreationDependencies)
    (inputs : GuestScanCreationInputs) (persistence : PersistArguments → Option Datum)
    (queue : String → Option Datum) (value : Datum) (body : GuestScanCreationSuccessBody)
    (session : AuthenticatedGuestSession) (arguments : PersistArguments) (stored queued : Datum) :
    Prop where
  authenticated : ∃ input host keys,
    Prepared runtime dependencies inputs value arguments input host keys session
  scope : arguments.guestSessionScope = session.guestSessionScope
  answered : persistence arguments = some stored
  ok : stored.get "ok" = .bool true
  id : stored.get "guest_scan_id" = .string body.scanId
  token : stored.get "result_token" = .string body.resultToken
  taken : queue body.scanId = some queued
  acknowledged : matchesQueuedScan queued body.scanId = true

theorem mapPersistenceFailure_ne_ok (value : Datum) (statusCode : Nat)
    (body : GuestScanCreationSuccessBody) : mapPersistenceFailure value ≠ .ok statusCode body := by
  have habuse : ∀ keys, mapAbuseFailure value keys ≠ .ok statusCode body := by
    intro keys h
    unfold mapAbuseFailure scanUnavailable at h
    split at h
    · cases h
    split at h
    · cases h
    split at h
    · cases h
    split at h <;> cases h
  intro h
  unfold mapPersistenceFailure scanUnavailable at h
  split at h
  · dsimp only at h
    split at h
    · split at h
      · cases h
      split at h
      · cases h
      split at h
      · cases h
      exact habuse _ h
    · cases h
  · cases h

theorem answerStored_ok {queue : String → Option Datum} {stored : Datum} {now statusCode : Nat}
    {body : GuestScanCreationSuccessBody} (h : answerStored queue stored now = .ok statusCode body) :
    ∃ accepted, accepted.Fits stored now ∧ acceptedResult accepted = .ok statusCode body ∧
      acknowledges queue accepted.guestScanId = true := by
  unfold answerStored at h
  split at h
  · exact absurd h (mapPersistenceFailure_ne_ok stored statusCode body)
  · rename_i accepted haccepted
    split at h
    · rename_i hqueue
      exact ⟨accepted, persistedSuccess_fits haccepted, h, hqueue⟩
    · cases h

/-- A token is shown only to whom it belongs, for a scan that is queued. -/
theorem createGuestScan_entitled {runtime : EnvelopeRuntime}
    {dependencies : GuestScanCreationDependencies} {inputs : GuestScanCreationInputs}
    {persistence : PersistArguments → Option Datum} {queue : String → Option Datum} {value : Datum}
    {statusCode : Nat} {body : GuestScanCreationSuccessBody}
    (h : createGuestScan runtime dependencies inputs persistence queue value =
      .ok statusCode body) :
    ∃ session arguments stored queued, Entitled runtime dependencies inputs persistence queue value
      body session arguments stored queued := by
  unfold createGuestScan at h
  split at h
  · rename_i denied hprepare
    obtain ⟨code, rfl⟩ := plainFailure_prepare hprepare
    cases h
  rename_i arguments hprepare
  split at h
  · cases h
  rename_i stored hstored
  obtain ⟨accepted, hfits, hresult, hqueue⟩ := answerStored_ok h
  cases hresult
  obtain ⟨queued, hqueued, hmatches⟩ := acknowledges_iff.mp hqueue
  obtain ⟨input, host, keys, session, hprepared⟩ := prepare_ok hprepare
  obtain ⟨_, _, -, -, hscope, -, -, -⟩ := persistArguments_ok hprepared.made
  exact ⟨session, arguments, stored, queued, ⟨input, host, keys, hprepared⟩, hscope, hstored,
    hfits.ok, hfits.id, hfits.token, hqueued, hmatches⟩

/-! ### Service, store and route -/

/-- The service agrees with its route and its store on one request: the route passes every
result unchanged, a token is shown only to whom it belongs, and what the store decides is
answered as prescribed. -/
structure CreationAgrees (runtime : EnvelopeRuntime) (dependencies : GuestScanCreationDependencies)
    (inputs : GuestScanCreationInputs) (postgres : GuestPersistenceDependencies) (db : Database)
    (value : Datum) : Prop where
  passes : ∀ persistence queue,
    decisionSnapshot (createGuestScan runtime dependencies inputs persistence queue value).toDatum =
      some (createGuestScan runtime dependencies inputs persistence queue value).decision
  discloses : ∀ persistence queue statusCode body,
    createGuestScan runtime dependencies inputs persistence queue value = .ok statusCode body →
      ∃ session arguments stored queued, Entitled runtime dependencies inputs persistence queue
        value body session arguments stored queued
  mapped : ∀ queue arguments, prepare runtime dependencies inputs value = .ok arguments →
    createGuestScan runtime dependencies inputs
        (postgresPersistence runtime.toNodeRuntime postgres db) queue value =
      prescribed queue (storedOutcome runtime.toNodeRuntime postgres db arguments)

/-- The request reaches the store, which has a scan to replay that was created after it. -/
def ReplayedBehind (runtime : EnvelopeRuntime) (dependencies : GuestScanCreationDependencies)
    (inputs : GuestScanCreationInputs) (postgres : GuestPersistenceDependencies) (db : Database)
    (value : Datum) : Prop :=
  ∃ arguments request, prepare runtime dependencies inputs value = .ok arguments ∧
    arguments.request? = some request ∧
    StoredAhead runtime.toNodeRuntime postgres request db.val

/-- The answers over the store, exactly when no stored scan is ahead. -/
theorem createGuestScan_mapped_iff {runtime : EnvelopeRuntime}
    {dependencies : GuestScanCreationDependencies} {inputs : GuestScanCreationInputs}
    {postgres : GuestPersistenceDependencies} {db : Database} {value : Datum} :
    (∀ queue arguments, prepare runtime dependencies inputs value = .ok arguments →
      createGuestScan runtime dependencies inputs
          (postgresPersistence runtime.toNodeRuntime postgres db) queue value =
        prescribed queue (storedOutcome runtime.toNodeRuntime postgres db arguments)) ↔
      ¬ ReplayedBehind runtime dependencies inputs postgres db value := by
  cases hprepare : prepare runtime dependencies inputs value with
  | error denied =>
    constructor
    · rintro - ⟨arguments, request, hprepare', -⟩
      rw [hprepare] at hprepare'
      cases hprepare'
    · intro _ queue arguments harguments
      cases harguments
  | ok arguments =>
    obtain ⟨snapshot, hwell, hrequest, hnow⟩ := prepare_persist hprepare
    have hstored : storedOutcome runtime.toNodeRuntime postgres db arguments =
        (createOrReplay runtime.toNodeRuntime postgres snapshot.persist db).1 := by
      rw [storedOutcome, hrequest]
    have hservice : ∀ queue, createGuestScan runtime dependencies inputs
        (postgresPersistence runtime.toNodeRuntime postgres db) queue value =
        answerStored queue
          (createOrReplay runtime.toNodeRuntime postgres snapshot.persist db).1.toDatum
          snapshot.now := by
      intro queue
      rw [createGuestScan, hprepare, hnow]
      dsimp only [postgresPersistence]
      rw [hstored]
    have hbehind : ReplayedBehind runtime dependencies inputs postgres db value ↔
        StoredAhead runtime.toNodeRuntime postgres snapshot.persist db.val := by
      constructor
      · rintro ⟨arguments', request, hprepare', hrequest', hahead⟩
        rw [hprepare] at hprepare'
        cases hprepare'
        rw [hrequest] at hrequest'
        cases hrequest'
        exact hahead
      · intro hahead
        exact ⟨arguments, snapshot.persist, hprepare, hrequest, hahead⟩
    rw [hbehind, ← answerStored_prescribed_iff hwell]
    constructor
    · intro hall queue
      rw [← hservice, ← hstored]
      exact hall queue arguments rfl
    · intro hall queue arguments' harguments
      cases harguments
      rw [hservice, hstored]
      exact hall queue

/-- Service, store and route agree on a request exactly when the store has no scan to
replay that was created after it. -/
theorem creation_agrees_iff (runtime : EnvelopeRuntime)
    (dependencies : GuestScanCreationDependencies) (inputs : GuestScanCreationInputs)
    (postgres : GuestPersistenceDependencies) (db : Database) (value : Datum) :
    CreationAgrees runtime dependencies inputs postgres db value ↔
      ¬ ReplayedBehind runtime dependencies inputs postgres db value := by
  rw [← createGuestScan_mapped_iff]
  constructor
  · intro h
    exact h.mapped
  · intro hmapped
    refine ⟨fun persistence queue => ?_, fun persistence queue statusCode body h => ?_, hmapped⟩
    · exact decisionSnapshot_of_closed
        (createGuestScan_closed runtime dependencies inputs persistence queue value)
    · exact createGuestScan_entitled h

/-! ### A clock that is one second behind -/

def sampleRuntime : EnvelopeRuntime where
  toNodeRuntime := sampleNode
  sha256 := fun message =>
    if scopeDomain.isPrefixOf message then Bytes32.fill 1 else Bytes32.fill 2

def sampleNetworkKeyring : SignalKeyring where
  entries := [(1, List.replicate 32 9)]
  nonempty := by decide
  few := by decide
  unique := by decide
  versions := by decide
  keys := by decide

def sampleCreation : GuestScanCreationDependencies where
  trustedProxyCidrs := []
  networkKeyring := sampleNetworkKeyring
  activeNetworkKeyVersion := 1
  cidrs_few := by decide
  active_mem := by decide

def sampleInputs (now : Int) : GuestScanCreationInputs where
  currentKeys := some (.record ⟨[("active_key_version", .scalar (.number (some 7))),
    ("keys", .map ⟨[(.number (some 7), .bytes (List.replicate 32 5))], by decide⟩)], by decide⟩)
  isRevoked := fun _ => some (.bool false)
  now := some now

/-- A request for `example.com` with the cookie of the session. -/
def sampleScanRequest : Datum :=
  .object [
    ("body", .object [("domain", .string "example.com")]),
    ("cookie_header", .string (String.ofList
      (guestSessionCookieName ++ '=' :: cookieText 7 (List.replicate 32 0) (List.replicate 32 0)))),
    ("idempotency_key_header", .string "key"),
    ("socket_remote_address", .string "203.0.113.9"),
    ("x_forwarded_for", .undefined)]

def sampleArguments (now : Nat) : PersistArguments where
  guestSessionScope := digestText (Bytes32.fill 1)
  idempotencyKey := "key"
  requestHash := digestText (Bytes32.fill 2)
  canonicalTarget := "example.com"
  networkSignalDigests := [networkText (Bytes32.fill 0)]
  trustedNow := now

/-- `scan-1` was created at 1000. At 999 the store replays it for 1801 seconds, and the
service answers that it is unavailable, although the queue takes the scan. -/
theorem creation_disagrees :
    storedOutcome sampleNode (sampleDependencies "scan-2") sampleDatabase (sampleArguments 999) =
        .ok none "scan-1" "eX192PSOJCXEzIbupUfNmcEvXyhFqIGEGXkxLrN_Cak" 2800 1801 ∧
      createGuestScan sampleRuntime sampleCreation (sampleInputs 999)
          (postgresPersistence sampleNode (sampleDependencies "scan-2") sampleDatabase)
          willingQueue sampleScanRequest = .failure 503 .guestScanUnavailable none ∧
      ¬ CreationAgrees sampleRuntime sampleCreation (sampleInputs 999) (sampleDependencies "scan-2")
        sampleDatabase sampleScanRequest := by
  have hprepare : prepare sampleRuntime sampleCreation (sampleInputs 999) sampleScanRequest =
      .ok (sampleArguments 999) := by decide +kernel
  have hstored : storedOutcome sampleNode (sampleDependencies "scan-2") sampleDatabase
      (sampleArguments 999) =
        .ok none "scan-1" "eX192PSOJCXEzIbupUfNmcEvXyhFqIGEGXkxLrN_Cak" 2800 1801 := by
    decide +kernel
  have hanswer : createGuestScan sampleRuntime sampleCreation (sampleInputs 999)
      (postgresPersistence sampleNode (sampleDependencies "scan-2") sampleDatabase)
      willingQueue sampleScanRequest = .failure 503 .guestScanUnavailable none := by
    decide +kernel
  refine ⟨hstored, hanswer, fun h => ?_⟩
  have hmapped := h.mapped willingQueue (sampleArguments 999) hprepare
  have hnode : sampleRuntime.toNodeRuntime = sampleNode := rfl
  rw [hnode, hanswer, hstored, prescribed, acknowledges_willingQueue, if_pos rfl] at hmapped
  cases hmapped

end Outscan

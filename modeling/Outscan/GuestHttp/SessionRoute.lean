import Outscan.GuestHttp.RawHeaders
import Outscan.GuestSession.Bootstrap

/-! `POST /v1/public/guest-session`: a session that is set, and what becomes of it when it comes
back to the service. -/
namespace Outscan

open Dynamic Relational

structure SessionRouteRequest where
  rawHeaders : List String
  query : Datum
  body : Datum

inductive SessionRouteErrorCode where
  | invalidGuestSessionRequest | guestSessionUnavailable
deriving DecidableEq, Repr

inductive SessionReply where
  | noContent (setCookie : Option String)
  | error (statusCode : Nat) (code : SessionRouteErrorCode)
deriving DecidableEq

/-- The two replies of `error`. -/
def invalidSessionRequest : SessionReply := .error 400 .invalidGuestSessionRequest
def sessionUnavailable : SessionReply := .error 503 .guestSessionUnavailable

def emptyObject : Datum → Bool
  | .record _ fields => fields.isEmpty
  | .bytes value => value.isEmpty
  | _ => false

/-- `validDecision`, with the decision it lets through. -/
def validDecision (value : Datum) : Option GuestSessionBootstrapDecision :=
  match (value.get "ok").bool? with
  | some false =>
    if value.hasExactKeys ["ok", "code"] ∧
        (value.get "code").string? = some "GUEST_SESSION_UNAVAILABLE" then some .unavailable
    else none
  | some true =>
    if (value.get "action").string? = some "REUSED" then
      if value.hasExactKeys ["ok", "action"] then some .reused else none
    else if (value.get "action").string? = some "ISSUED" ∧
        value.hasExactKeys ["ok", "action", "set_cookie"] ∧
        isGuestSessionSetCookieHeader (cookieHeaderOf (value.get "set_cookie")) then
      (value.get "set_cookie").string?.map .issued
    else none
  | none => none

def sessionRouteInput (cookie : Option String) : Datum :=
  .object [("cookie_header", (cookie.map Datum.string).getD .undefined)]

theorem sessionRouteInput_some (header : String) :
    sessionRouteInput (some header) = sessionRequest header := rfl

/-- `request.body !== undefined`. -/
def hasBody : Datum → Bool
  | .undefined => false
  | _ => true

/-- The handler. A bootstrapper that rejects gives `none`. -/
def sessionRoute (allowedOrigin : String) (bootstrapSession : Datum → Option Datum)
    (request : SessionRouteRequest) : SessionReply :=
  match singleRawHeader request.rawHeaders "origin", singleRawHeader request.rawHeaders "cookie" with
  | .ok origin, .ok cookie =>
    if origin ≠ some allowedOrigin ∨ emptyObject request.query = false ∨
        hasBody request.body = true then invalidSessionRequest
    else
      match (bootstrapSession (sessionRouteInput cookie)).bind validDecision with
      | none => sessionUnavailable
      | some .unavailable => sessionUnavailable
      | some .reused => .noContent none
      | some (.issued setCookie) => .noContent (some setCookie)
  | _, _ => invalidSessionRequest

def sessionService (runtime : EnvelopeRuntime) (allowedOrigin : String) (randomBytes : Bytes32)
    (currentKeys : Option (Dynamic.Value SignalField)) (table : Revocations) (now : Nat)
    (request : SessionRouteRequest) : SessionReply :=
  sessionRoute allowedOrigin (fun input =>
    some (bootstrapGuestSession runtime randomBytes currentKeys (revocationCheck table now)
      input).toDatum) request

/-! ### The route adds nothing to the service -/

/-- A decision of the service whose cookie, if any, has the issued form. -/
def GuestSessionBootstrapDecision.WellFormed : GuestSessionBootstrapDecision → Prop
  | .issued setCookie => isGuestSessionSetCookieHeader (.text setCookie) = true
  | _ => True

theorem validDecision_toDatum {decision : GuestSessionBootstrapDecision}
    (h : decision.WellFormed) : validDecision decision.toDatum = some decision := by
  cases decision with
  | reused => decide
  | unavailable => decide
  | issued setCookie =>
    have hheader : isGuestSessionSetCookieHeader (.text setCookie) = true := h
    simp [validDecision, GuestSessionBootstrapDecision.toDatum, Datum.get_object_cons, Datum.bool?,
      Datum.string?, Datum.hasExactKeys_object, cookieHeaderOf, hheader]

theorem issueSession_wellFormed (runtime : EnvelopeRuntime) (randomBytes : Bytes32) (active : Nat)
    (keys : List (Nat × List UInt8)) :
    (issueSession runtime randomBytes active keys).WellFormed := by
  rw [issueSession]
  split
  · trivial
  · split
    · rename_i setCookie hissue
      exact isGuestSessionSetCookieHeader_issue hissue
    · trivial

theorem bootstrapGuestSession_wellFormed (runtime : EnvelopeRuntime) (randomBytes : Bytes32)
    (currentKeys : Option (Dynamic.Value SignalField)) (isRevoked : String → Option Datum)
    (request : Datum) :
    (bootstrapGuestSession runtime randomBytes currentKeys isRevoked request).WellFormed := by
  rw [bootstrapGuestSession]
  split
  · trivial
  split
  · trivial
  split
  · split
    · exact issueSession_wellFormed ..
    · trivial
    · trivial
  · exact issueSession_wellFormed ..

def GuestSessionBootstrapDecision.reply : GuestSessionBootstrapDecision → SessionReply
  | .reused => .noContent none
  | .issued setCookie => .noContent (some setCookie)
  | .unavailable => sessionUnavailable

/-- The reply is that of the decision, to a request that the route lets through. -/
theorem sessionService_cases (runtime : EnvelopeRuntime) (allowedOrigin : String)
    (randomBytes : Bytes32) (currentKeys : Option (Dynamic.Value SignalField)) (table : Revocations)
    (now : Nat) (request : SessionRouteRequest) :
    sessionService runtime allowedOrigin randomBytes currentKeys table now request =
        invalidSessionRequest ∨
      ∃ cookie, sessionService runtime allowedOrigin randomBytes currentKeys table now request =
        (bootstrapGuestSession runtime randomBytes currentKeys (revocationCheck table now)
          (sessionRouteInput cookie)).reply := by
  rw [sessionService, sessionRoute]
  split
  · rename_i origin cookie horigin hcookie
    split
    · exact .inl rfl
    · refine .inr ⟨cookie, ?_⟩
      rw [Option.bind_some, validDecision_toDatum (bootstrapGuestSession_wellFormed ..)]
      cases bootstrapGuestSession runtime randomBytes currentKeys (revocationCheck table now)
        (sessionRouteInput cookie) <;> rfl
  · exact .inl rfl

/-- A request from the origin, with at most this Cookie header and nothing else. -/
structure Presenting (allowedOrigin : String) (cookie : Option String)
    (request : SessionRouteRequest) : Prop where
  headers : ∃ headers, request.rawHeaders = rawHeadersOf headers ∧
    headerValues headers "origin" = [allowedOrigin] ∧ headerValues headers "cookie" = cookie.toList
  query : emptyObject request.query = true
  body : hasBody request.body = false

theorem singleRawHeader_of_toList {headers : List (String × String)} {name : String}
    {value : Option String} (h : headerValues headers name = value.toList) :
    singleRawHeader (rawHeadersOf headers) name = .ok value := by
  rw [singleRawHeader_eq, h]
  cases value <;> rfl

theorem sessionService_presenting {runtime : EnvelopeRuntime} {allowedOrigin : String}
    {cookie : Option String} {randomBytes : Bytes32}
    {currentKeys : Option (Dynamic.Value SignalField)} {table : Revocations} {now : Nat}
    {request : SessionRouteRequest} (h : Presenting allowedOrigin cookie request) :
    sessionService runtime allowedOrigin randomBytes currentKeys table now request =
      (bootstrapGuestSession runtime randomBytes currentKeys (revocationCheck table now)
        (sessionRouteInput cookie)).reply := by
  obtain ⟨headers, hraw, horigin, hcookie⟩ := h.headers
  have hpass : ¬(some allowedOrigin ≠ some allowedOrigin ∨ emptyObject request.query = false ∨
      hasBody request.body = true) := by
    simp [h.query, h.body]
  rw [sessionService, sessionRoute, hraw, singleRawHeader_eq_some.mpr horigin,
    singleRawHeader_of_toList hcookie]
  dsimp only
  rw [if_neg hpass, Option.bind_some, validDecision_toDatum (bootstrapGuestSession_wellFormed ..)]
  cases bootstrapGuestSession runtime randomBytes currentKeys (revocationCheck table now)
    (sessionRouteInput cookie) <;> rfl

/-! ### What becomes of a session -/

theorem issueSession_issued {runtime : EnvelopeRuntime} {randomBytes : Bytes32} {active : Nat}
    {keys : List (Nat × List UInt8)} {setCookie : String}
    (h : issueSession runtime randomBytes active keys = .issued setCookie) :
    ∃ key value, sessionKeyring keys active = some key ∧
      createGuestSessionCookie runtime.toSessionRuntime active key randomBytes.bytes = some value ∧
      setCookie = sessionSetCookie value := by
  rw [issueSession] at h
  cases hkey : sessionKeyring keys active with
  | none =>
    rw [hkey] at h
    cases h
  | some key =>
    rw [hkey] at h
    dsimp only at h
    cases hissue : issueGuestSessionCookieHeader runtime.toSessionRuntime randomBytes.bytes active
        key none with
    | none =>
      rw [hissue] at h
      cases h
    | some header =>
      rw [hissue] at h
      cases h
      obtain ⟨value, hvalue, rfl⟩ := Option.map_eq_some_iff.mp hissue
      exact ⟨key, value, rfl, hvalue, rfl⟩

theorem bootstrapGuestSession_issued {runtime : EnvelopeRuntime} {randomBytes : Bytes32}
    {currentKeys : Option (Dynamic.Value SignalField)} {isRevoked : String → Option Datum}
    {request : Datum} {setCookie : String}
    (h : bootstrapGuestSession runtime randomBytes currentKeys isRevoked request =
      .issued setCookie) :
    ∃ active keys, currentKeys.bind snapshotGuestSessionKeyState = some (active, keys) ∧
      issueSession runtime randomBytes active keys = .issued setCookie := by
  rw [bootstrapGuestSession] at h
  split at h
  · cases h
  split at h
  · cases h
  rename_i active keys hkeys
  refine ⟨active, keys, hkeys, ?_⟩
  split at h
  · split at h
    · exact h
    · cases h
    · cases h
  · exact h

/-- The session that a reply sets, each time it comes back in a request of its own: as long as
the keyring has its key, it is used again unless it was revoked within the day; a revoked one is
replaced, and creates no scan. -/
theorem issued_session_lifecycle {runtime : EnvelopeRuntime} {allowedOrigin : String}
    {randomBytes : Bytes32} {currentKeys : Option (Dynamic.Value SignalField)}
    {table : Revocations} {issuedAt : Nat} {request : SessionRouteRequest} {setCookie : String}
    (hissued : sessionService runtime allowedOrigin randomBytes currentKeys table issuedAt request =
      .noContent (some setCookie)) :
    ∃ version keys key value, currentKeys.bind snapshotGuestSessionKeyState = some (version, keys) ∧
      sessionKeyring keys version = some key ∧
      createGuestSessionCookie runtime.toSessionRuntime version key randomBytes.bytes =
        some value ∧
      setCookie = sessionSetCookie value ∧
      ∀ later active laterKeys, later.bind snapshotGuestSessionKeyState = some (active, laterKeys) →
        sessionKeyring laterKeys version = some key →
      ∀ header, Carries header value →
      ∀ calls now, (∀ call ∈ calls, call.now ≤ now) →
        let revoked := RevokedWithin calls (sessionScope runtime randomBytes) now
        (∀ returning fresh, Presenting allowedOrigin (some header) returning →
          let reply :=
            sessionService runtime allowedOrigin fresh later (revocationsAfter calls) now returning
          (¬ revoked → reply = .noContent none) ∧
            (revoked → ∃ next, createGuestSessionCookie runtime.toSessionRuntime active
                ((sessionKeyring laterKeys active).getD []) fresh.bytes = some next ∧
              reply = .noContent (some (sessionSetCookie next)))) ∧
        ∀ dependencies clock value input host, scanRequest? value = some input →
          input.cookieHeader = .string header →
          canonicalDomain runtime.toNodeRuntime input.domain = some host →
          let prepared := prepare runtime dependencies
            ⟨later, revocationCheck (revocationsAfter calls) now, clock⟩ value
          (¬ revoked → prepared = persistArguments runtime dependencies clock input host
            (digestText (sessionScope runtime randomBytes))) ∧
            (revoked → prepared = .error (.failure 401 .guestSessionInvalid none)) := by
  rcases sessionService_cases runtime allowedOrigin randomBytes currentKeys table issuedAt request
    with hinvalid | ⟨cookie, hreply⟩
  · rw [hinvalid] at hissued
    cases hissued
  rw [hreply] at hissued
  cases hdecision : bootstrapGuestSession runtime randomBytes currentKeys
      (revocationCheck table issuedAt) (sessionRouteInput cookie) with
  | reused =>
    rw [hdecision] at hissued
    cases hissued
  | unavailable =>
    rw [hdecision] at hissued
    cases hissued
  | issued header =>
    rw [hdecision] at hissued
    cases hissued
    obtain ⟨version, keys, hkeys, hissue⟩ := bootstrapGuestSession_issued hdecision
    obtain ⟨key, value, hkey, hcookie, rfl⟩ := issueSession_issued hissue
    refine ⟨version, keys, key, value, hkeys, hkey, hcookie, rfl, ?_⟩
    intro later active laterKeys hlater hlaterKey header hheader calls now hclock revoked
    have hcheck := revocationCheck_digestText (revocationsAfter calls) now
      (sessionScope runtime randomBytes)
    have hrevoked : _ ↔ revoked := revokedAt_iff_within hclock
    have hunrevoked := fun hfree => Bool.eq_false_iff.mpr (mt hrevoked.mp hfree)
    refine ⟨fun returning fresh hreturning => ?_, fun dependencies clock request input host hrequest
      hcarried hhost => ?_⟩
    · intro reply
      have hreply : reply = _ := sessionService_presenting hreturning
      rw [sessionRouteInput_some, bootstrap_carried fresh _ hcookie hlater hlaterKey hheader, hcheck] at hreply
      constructor
      · intro hfree
        rw [hunrevoked hfree] at hreply
        exact hreply
      · intro hwithin
        rw [hrevoked.mpr hwithin] at hreply
        obtain ⟨state, -, hstate⟩ := Option.bind_eq_some_iff.mp hlater
        obtain ⟨hactive, activeKey, hactiveKey, hlength⟩ :=
          snapshotGuestSessionKeyState_eq_some hstate
        obtain ⟨next, hnext, hissued⟩ := issueSession_eq runtime fresh hactive hactiveKey hlength
        refine ⟨next, ?_, ?_⟩
        · rw [hactiveKey]
          exact hnext
        · rw [hreply]
          dsimp only
          rw [hissued]
          rfl
    · intro prepared
      have hprepared : prepared = _ :=
        prepare_carried hcookie hlater hlaterKey hheader hrequest hcarried hhost
      dsimp only at hprepared
      rw [hcheck] at hprepared
      constructor
      · intro hfree
        rw [hunrevoked hfree] at hprepared
        exact hprepared
      · intro hwithin
        rw [hrevoked.mpr hwithin] at hprepared
        exact hprepared

/-! ### A small service -/

def sessionSampleKeys : Option (Dynamic.Value SignalField) :=
  some (.record ⟨[("active_key_version", .scalar (.number (some 7))),
    ("keys", .map ⟨[(.number (some 7), .bytes (List.replicate 32 11))], by decide⟩)], by decide⟩)

def sessionSampleRuntime : EnvelopeRuntime where
  domainToASCII := some
  isIP _ := 0
  hmacSha256 _ _ := Bytes32.fill 3
  sha256 _ := Bytes32.fill 1

def sessionSampleRequest (cookies : List (String × String)) : SessionRouteRequest :=
  ⟨rawHeadersOf (("origin", "https://example.org") :: cookies), .object [], .undefined⟩

theorem sessionSampleRequest_presenting (cookie : Option String) :
    Presenting "https://example.org" cookie
      (sessionSampleRequest (cookie.toList.map fun text => ("cookie", text))) := by
  have horigin : "origin".toLower = "origin" := by decide +kernel
  have hcookie : "cookie".toLower = "cookie" := by decide +kernel
  refine ⟨⟨_, rfl, ?_, ?_⟩, rfl, rfl⟩
  · cases cookie <;> simp [headerValues, horigin, hcookie]
  · cases cookie <;> simp [headerValues, horigin, hcookie]

/-- A session is set, revoked, and another one is set when it comes back within the day. -/
theorem issued_session_lifecycle_sample :
    let revocations := revocationsAfter [⟨.revoke (Bytes32.fill 1), 5500000, .answered⟩]
    let reply := fun table cookie => sessionService sessionSampleRuntime "https://example.org"
      (Bytes32.fill 0) sessionSampleKeys table 6000000
      (sessionSampleRequest (Option.toList cookie |>.map fun text => ("cookie", text)))
    ∃ setCookie header next, reply Table.empty none = .noContent (some setCookie) ∧
      reply revocations (some header) = .noContent (some next) := by
  intro revocations reply
  have hstate : sessionSampleKeys.bind snapshotGuestSessionKeyState =
      some (7, [(7, List.replicate 32 11)]) := by
    decide +kernel
  have hissued : ∃ setCookie, reply Table.empty none = .noContent (some setCookie) := by
    have hactive : 7 ≤ uint32Max := by decide
    have hkey : sessionKeyring [(7, List.replicate 32 11)] 7 = some (List.replicate 32 11) := rfl
    obtain ⟨value, -, hissue⟩ :=
      issueSession_eq sessionSampleRuntime (Bytes32.fill 0) hactive hkey rfl
    refine ⟨sessionSetCookie value, ?_⟩
    have hreply : reply Table.empty none = _ :=
      sessionService_presenting (sessionSampleRequest_presenting none)
    rw [hreply, bootstrapGuestSession]
    dsimp only [sessionRouteInput, snapshotSessionRequest]
    rw [hstate]
    change GuestSessionBootstrapDecision.reply (issueSession _ _ _ _) = _
    rw [hissue]
    rfl
  obtain ⟨setCookie, hissued⟩ := hissued
  obtain ⟨version, keys, key, value, hkeys, hkey, hcookie, -, hlater⟩ :=
    issued_session_lifecycle hissued
  have hwithin : RevokedWithin [⟨.revoke (Bytes32.fill 1), 5500000, .answered⟩]
      (sessionScope sessionSampleRuntime (Bytes32.fill 0)) 6000000 :=
    ⟨5500000, ⟨[], _, _, rfl, rfl, rfl, by decide⟩, by decide⟩
  obtain ⟨next, -, hnext⟩ := ((hlater _ _ _ hkeys hkey _ (carries_sentCookie hcookie)
    [⟨.revoke (Bytes32.fill 1), 5500000, .answered⟩] 6000000 (by decide)).1 _ (Bytes32.fill 0)
    (sessionSampleRequest_presenting (some (sentCookie value)))).2 hwithin
  exact ⟨setCookie, sentCookie value, sessionSetCookie next, hissued, hnext⟩

/-- A revocation that was committed after the session was issued keeps it out, however the
revocation was answered, for as long as a client keeps the cookie: its age is counted from the whole
second of its issue, as the store counts from that of the revocation. -/
theorem revocation_outlives_cookie {calls : List RevocationCall} {scope : Bytes32}
    {issuedAt now : Nat} (hclock : ∀ call ∈ calls, call.now ≤ now)
    (hissued : ∀ recorded, RecordedAt calls scope recorded → issuedAt ≤ recorded)
    (hrevoked : ∃ first call rest, calls = first ++ call :: rest ∧
      call.statement = .revoke scope ∧ call.applied (revocationsAfter first) ≠ none)
    (hkept : now < truncSecond issuedAt + guestSessionMaxAgeSeconds * secondMicros) :
    revokedAt (revocationsAfter calls) scope now = true := by
  have hday : guestSessionMaxAgeSeconds * secondMicros = revocationMicros := by decide
  rw [hday] at hkept
  -- whatever was answered, a recorded revocation is at the bottom of it
  have hrecorded : ∃ recorded, RecordedAt calls scope recorded := by
    obtain ⟨first, call, rest, hcalls, hstatement, happlied⟩ := hrevoked
    obtain ⟨⟨reply, after⟩, happlied⟩ := Option.ne_none_iff_exists'.mp happlied
    obtain ⟨inserted, rfl, hrevoke⟩ := applied_revoke hstatement happlied
    cases inserted with
    | true =>
      refine ⟨call.now, first, call, rest, hcalls, hstatement, rfl, ?_⟩
      rw [happlied]
      rfl
    | false =>
      have hbefore : revokedAt (revocationsAfter first) scope call.now = true := by
        have hinserted := (revokeScope_spec hrevoke).1
        rwa [eq_comm, Bool.not_eq_false'] at hinserted
      obtain ⟨recorded, ⟨earlier, recording, others, hfirst, hrecording⟩, -⟩ :=
        revokedWithin_of_revokedAt hbefore
      refine ⟨recorded, earlier, recording, others ++ call :: rest, ?_, hrecording⟩
      rw [hcalls, hfirst, List.append_assoc, List.cons_append]
  obtain ⟨recorded, hrecorded⟩ := hrecorded
  have hafter : truncSecond issuedAt ≤ truncSecond recorded :=
    Nat.mul_le_mul_right _ (Nat.div_le_div_right (hissued recorded hrecorded))
  exact (revokedAt_iff_within hclock).mpr ⟨recorded, hrecorded, by omega⟩

/-- A session set at 5.25 s and revoked a quarter of a second later, with the answer lost and the
call made again, is out for as long as its cookie lasts. -/
theorem revocation_outlives_cookie_sample :
    revokedAt (revocationsAfter [⟨.revoke (Bytes32.fill 1), 5500000, .unanswered⟩,
      ⟨.revoke (Bytes32.fill 1), 7000000, .answered⟩]) (Bytes32.fill 1) 86404999999 = true := by
  have hkept : 86404999999 < truncSecond 5250000 + guestSessionMaxAgeSeconds * secondMicros := by
    decide
  refine revocation_outlives_cookie (by decide) ?_ ⟨[_], _, [], rfl, rfl, by decide⟩ hkept
  rintro recorded ⟨first, call, rest, hcalls, -, rfl, -⟩
  have hmem : call ∈ first ++ call :: rest := by simp
  rw [← hcalls] at hmem
  rcases List.mem_pair.mp hmem with rfl | rfl
  · decide
  · decide

end Outscan

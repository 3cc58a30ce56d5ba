import Outscan.GuestScan.Create
import Outscan.Library.Grouping
import Outscan.Library.Unordered
import Outscan.GuestSession.Revocation

/-! The service behind `POST /v1/public/guest-session`: a session that is authentic and not
revoked is used again, any other request gets a new one. -/
namespace Outscan

open Dynamic

inductive GuestSessionBootstrapDecision where
  | reused
  | issued (setCookie : String)
  | unavailable
deriving DecidableEq, Repr

def GuestSessionBootstrapDecision.toDatum : GuestSessionBootstrapDecision → Datum
  | .reused => .object [("ok", .bool true), ("action", .string "REUSED")]
  | .issued setCookie =>
    .object [("ok", .bool true), ("action", .string "ISSUED"), ("set_cookie", .string setCookie)]
  | .unavailable => .object [("ok", .bool false), ("code", .string "GUEST_SESSION_UNAVAILABLE")]

/-- `snapshotRequest`: the Cookie header of a request. -/
def snapshotSessionRequest (value : Datum) : Option CookieHeader :=
  if !value.hasExactKeys ["cookie_header"] then none
  else
    match value.get "cookie_header" with
    | .undefined => some .undefined
    | .string header => some (.text header)
    | _ => none

def issueSession (runtime : EnvelopeRuntime) (randomBytes : Bytes32) (active : Nat)
    (keys : List (Nat × List UInt8)) : GuestSessionBootstrapDecision :=
  match sessionKeyring keys active with
  | none => .unavailable
  | some activeKey =>
    match issueGuestSessionCookieHeader runtime.toSessionRuntime randomBytes.bytes active activeKey
        none with
    | some setCookie => .issued setCookie
    | none => .unavailable

/-- `bootstrapGuestSession`. The keys and the revocation check are `none` when they
reject. -/
def bootstrapGuestSession (runtime : EnvelopeRuntime) (randomBytes : Bytes32)
    (currentKeys : Option (Dynamic.Value SignalField)) (isRevoked : String → Option Datum)
    (rawRequest : Datum) : GuestSessionBootstrapDecision :=
  match snapshotSessionRequest rawRequest with
  | none => .unavailable
  | some cookieHeader =>
    match currentKeys.bind snapshotGuestSessionKeyState with
    | none => .unavailable
    | some (active, keys) =>
      match authenticateGuestSessionCookieHeader runtime.toSessionRuntime cookieHeader
          (sessionKeyring keys) fun _ => some false with
      | .ok session =>
        match isRevoked session.guestSessionScope with
        | some (.bool true) => issueSession runtime randomBytes active keys
        | some (.bool false) => .reused
        | _ => .unavailable
      | _ => issueSession runtime randomBytes active keys

/-! ### A new session -/

theorem keyVersion?_le {value : Scalar} {version : Nat} (h : keyVersion? value = some version) :
    version ≤ uint32Max := by
  cases value with
  | number number =>
    cases number with
    | none => cases h
    | some whole =>
      rw [keyVersion?] at h
      split at h
      · cases h
      · cases h
        omega
  | _ => cases h

theorem keyEntry?_length {entry : Scalar × Scalar} {version : Nat} {key : List UInt8}
    (h : keyEntry? entry = some (version, key)) : key.length = 32 := by
  obtain ⟨supplied, value⟩ := entry
  cases value with
  | bytes bytes =>
    rw [ keyEntry?] at h
    obtain ⟨parsed, -, h⟩ := Option.bind_eq_some_iff.mp h
    split at h
    · cases h
    · rename_i hlength
      cases h
      exact not_not.mp hlength
  | _ => cases h

theorem snapshotGuestSessionKeyState_eq_some {value : Dynamic.Value SignalField} {active : Nat}
    {keys : List (Nat × List UInt8)}
    (h : snapshotGuestSessionKeyState value = some (active, keys)) :
    active ≤ uint32Max ∧ ∃ key, sessionKeyring keys active = some key ∧ key.length = 32 := by
  unfold snapshotGuestSessionKeyState at h
  split at h
  · cases h
  split at h
  · cases h
  dsimp only at h
  split at h
  · rename_i activeVersion map hversion hkeys
    obtain ⟨version, hactive, h⟩ := Option.bind_eq_some_iff.mp h
    split at h
    · cases h
    obtain ⟨entries, hentries, h⟩ := Option.bind_eq_some_iff.mp h
    split at h
    · rename_i hcontains
      cases h
      refine ⟨keyVersion?_le hactive, ?_⟩
      cases hkey : sessionKeyring keys active with
      | none => exact absurd (List.contains_iff_mem.mp hcontains) (Grouping.lookup_eq_none hkey)
      | some key =>
        obtain ⟨entry, -, hentry⟩ := Unordered.mem_of_forall₂ (Unordered.mapM_eq_some.mp hentries)
          (Grouping.mem_of_lookup hkey)
        exact ⟨key, rfl, keyEntry?_length hentry⟩
    · cases h
  · cases h

def sessionSetCookie (value : String) : String :=
  String.ofList ([';', ' '].intercalate
    ((guestSessionCookieName ++ '=' :: value.toList) :: setCookieAttributes))

theorem issueSession_eq (runtime : EnvelopeRuntime) (randomBytes : Bytes32) {active : Nat}
    {keys : List (Nat × List UInt8)} {key : List UInt8} (hactive : active ≤ uint32Max)
    (hkey : sessionKeyring keys active = some key) (hlength : key.length = 32) :
    ∃ value, createGuestSessionCookie runtime.toSessionRuntime active key randomBytes.bytes =
        some value ∧
      issueSession runtime randomBytes active keys = .issued (sessionSetCookie value) := by
  have hu32 : isU32 active = true := decide_eq_true hactive
  obtain ⟨version, hversion⟩ := u32be_eq_some_of_isU32 hu32
  have hmessage := encodeGuestSessionMessage_eq_some.mpr
    ⟨randomBytes.size, version, hversion, rfl⟩
  have hvalid : isValidKey key = true := decide_eq_true (by omega)
  have hcookie : createGuestSessionCookie runtime.toSessionRuntime active key randomBytes.bytes =
      some _ :=
    createGuestSessionCookie_eq_some.mpr ⟨hvalid, _, hmessage, rfl⟩
  refine ⟨_, hcookie, ?_⟩
  rw [issueSession, hkey]
  dsimp only
  rw [issueGuestSessionCookieHeader, Option.getD_none, hcookie]
  rfl

/-! ### A session that comes back -/

/-- A header of well-formed pairs, one of them the Guest cookie with this value. -/
def Carries (header value : String) : Prop :=
  ∃ pairs : List CookiePair, header.toList.splitOn ';' = pairs.map CookiePair.text ∧
    pairs.length ≤ maxCookiePairs ∧ (utf8Bytes header).length ≤ maxCookieHeaderBytes ∧
    guestValues pairs = [value.toList]

def sentCookie (value : String) : String :=
  String.ofList (guestSessionCookieName ++ '=' :: value.toList)

theorem ascii_of_cookieText {version : Nat} {guestSessionId mac : List UInt8} {c : Char}
    (hc : c ∈ cookieText version guestSessionId mac) : c.toNat < 128 := by
  rcases mem_cookieText hc with rfl | hclass
  · decide
  · exact ascii_of_isBase64UrlChar hclass

theorem isCookieValueChar_of_cookieText {version : Nat} {guestSessionId mac : List UInt8} {c : Char}
    (hc : c ∈ cookieText version guestSessionId mac) : isCookieValueChar c = true := by
  have hascii : ∀ n < 128, (Char.ofNat n = '.' ∨ isBase64UrlChar (Char.ofNat n) = true) →
      isCookieValueChar (Char.ofNat n) = true := by
    decide
  have hclass := mem_cookieText hc
  rw [← Char.ofNat_toNat c] at hclass ⊢
  exact hascii c.toNat (ascii_of_cookieText hc) hclass

def soleCookie (value : List Char) (hvalid : value.all isCookieValueChar = true) : CookiePair where
  before := []
  name := guestSessionCookieName
  value := value
  after := []
  before_blank := rfl
  name_nonempty := by decide
  name_valid := by decide
  value_valid := hvalid
  after_blank := rfl

theorem soleCookie_text {value : List Char} (hvalid : value.all isCookieValueChar = true) :
    (soleCookie value hvalid).text = guestSessionCookieName ++ '=' :: value := by
  rw [CookiePair.text, soleCookie, List.append_nil, List.nil_append]

theorem carries_of_valid {value : String} (hvalid : value.toList.all isCookieValueChar = true)
    (hlength : value.toList.length ≤ 256) : Carries (sentCookie value) value := by
  have hchars : (sentCookie value).toList = (soleCookie value.toList hvalid).text := by
    rw [sentCookie, String.toList_ofList, soleCookie_text]
  have hsemicolon : ';' ∉ (soleCookie value.toList hvalid).text := by
    have hname : ';' ∉ guestSessionCookieName := by decide
    rw [soleCookie_text, List.mem_append, List.mem_cons]
    rintro (hmem | heq | hmem)
    · exact hname hmem
    · cases heq
    · exact absurd (List.all_eq_true.mp hvalid ';' hmem) (by decide)
  refine ⟨[soleCookie value.toList hvalid], ?_, Nat.le_add_left 1 63, ?_, ?_⟩
  · have hsplit : ([';'].intercalate [(soleCookie value.toList hvalid).text]).splitOn ';' = _ :=
      List.splitOn_intercalate ';' (by simpa using hsemicolon) (by simp)
    rw [List.intercalate_singleton] at hsplit
    rw [hchars, hsplit, List.map_singleton]
  · have hname : guestSessionCookieName.length = 28 := by decide
    have hsize := utf8ByteSize_le (sentCookie value)
    have htotal : (sentCookie value).toList.length = 28 + (value.toList.length + 1) := by
      rw [hchars, soleCookie_text, List.length_append, hname, List.length_cons]
    have hbytes : (utf8Bytes (sentCookie value)).length = (sentCookie value).utf8ByteSize := by
      rw [utf8Bytes, Array.length_toList]
      rfl
    have hmax : maxCookieHeaderBytes = 8192 := rfl
    omega
  · have hname : (soleCookie value.toList hvalid).name = guestSessionCookieName := rfl
    rw [guestValues, List.filter_cons, if_pos (decide_eq_true hname), List.filter_nil]
    rfl

theorem carries_sentCookie {runtime : SessionRuntime} {version : Nat} {key id : List UInt8}
    {value : String} (h : createGuestSessionCookie runtime version key id = some value) :
    Carries (sentCookie value) value := by
  obtain ⟨-, message, hmessage, rfl⟩ := createGuestSessionCookie_eq_some.mp h
  obtain ⟨hid, bytes, hversion, -⟩ := encodeGuestSessionMessage_eq_some.mp hmessage
  have hlength := utf16Length_cookieText (isU32_of_u32be hversion) hid
    (runtime.hmacSha256 key message).size
  rw [utf16Length_eq_length fun c hc => ascii_of_cookieText hc] at hlength
  apply carries_of_valid
  · rw [String.toList_ofList, List.all_eq_true]
    exact fun c hc => isCookieValueChar_of_cookieText hc
  · rwa [String.toList_ofList]

def sessionScope (runtime : EnvelopeRuntime) (randomBytes : Bytes32) : Bytes32 :=
  runtime.sha256 (scopeDomain ++ randomBytes.bytes)

theorem authenticate_carried {runtime : EnvelopeRuntime} {randomBytes : Bytes32} {version : Nat}
    {key : List UInt8} {header value : String} {keyring : GuestSessionKeyring}
    (hcookie : createGuestSessionCookie runtime.toSessionRuntime version key randomBytes.bytes =
      some value)
    (hkey : keyring version = some key) (hheader : Carries header value) :
    authenticateGuestSessionCookieHeader runtime.toSessionRuntime (.text header) keyring
        (fun _ => some false) =
      .ok ⟨version, digestText (sessionScope runtime randomBytes)⟩ := by
  obtain ⟨pairs, hpairs, hfew, hshort, hvalues⟩ := hheader
  have hscope : deriveGuestSessionScope runtime.toSessionRuntime randomBytes.bytes =
      some (digestText (sessionScope runtime randomBytes)) := by
    rw [deriveGuestSessionScope, guestSessionScopeMessage, if_neg (not_not.mpr (show _ = sessionBytes from randomBytes.size))]
    rfl
  have hverify : verifyGuestSessionCookie runtime.toSessionRuntime value keyring =
      some ⟨version, randomBytes.bytes, digestText (sessionScope runtime randomBytes)⟩ :=
    verifyGuestSessionCookie_eq_some.mpr ⟨key, hkey, hcookie, hscope⟩
  rw [authenticateGuestSessionCookieHeader, parseGuestCookie_eq hpairs hfew hshort, hvalues]
  dsimp only
  rw [authenticateCookieValue, String.ofList_toList, hverify]

/-- `is_revoked` of the store, with what its table says at `now`. -/
def revocationCheck (table : Revocations) (now : Nat) (guestSessionScope : String) : Option Datum :=
  some (isRevokedAnswer guestSessionScope fun scope => some (revokedAt table scope now))

theorem revocationCheck_digestText (table : Revocations) (now : Nat) (scope : Bytes32) :
    revocationCheck table now (digestText scope) = some (.bool (revokedAt table scope now)) := by
  rw [revocationCheck, isRevokedAnswer, parseDigest_eq_some.mpr rfl]
  rfl

def sessionRequest (header : String) : Datum := .object [("cookie_header", .string header)]

/-- A cookie that was issued under a key: what a later request with it meets is decided by
the revocations of its session alone. -/
theorem bootstrap_carried {runtime : EnvelopeRuntime} {randomBytes : Bytes32} {version active : Nat}
    {key : List UInt8} {header value : String} {later : Option (Dynamic.Value SignalField)}
    {keys : List (Nat × List UInt8)} (fresh : Bytes32) (isRevoked : String → Option Datum)
    (hcookie : createGuestSessionCookie runtime.toSessionRuntime version key randomBytes.bytes =
      some value)
    (hlater : later.bind snapshotGuestSessionKeyState = some (active, keys))
    (hkey : sessionKeyring keys version = some key) (hheader : Carries header value) :
    bootstrapGuestSession runtime fresh later isRevoked (sessionRequest header) =
      match isRevoked (digestText (sessionScope runtime randomBytes)) with
      | some (.bool true) => issueSession runtime fresh active keys
      | some (.bool false) => .reused
      | _ => .unavailable := by
  have hrequest : snapshotSessionRequest (sessionRequest header) = some (.text header) := rfl
  rw [bootstrapGuestSession, hrequest]
  dsimp only
  rw [hlater]
  dsimp only
  rw [authenticate_carried hcookie hkey hheader]

theorem prepare_carried {runtime : EnvelopeRuntime} {randomBytes : Bytes32} {version active : Nat}
    {key : List UInt8} {header value host : String} {keys : List (Nat × List UInt8)}
    {dependencies : GuestScanCreationDependencies} {inputs : GuestScanCreationInputs}
    {request : Datum} {input : GuestScanCreationRequest}
    (hcookie : createGuestSessionCookie runtime.toSessionRuntime version key randomBytes.bytes =
      some value)
    (hlater : inputs.currentKeys.bind snapshotGuestSessionKeyState = some (active, keys))
    (hkey : sessionKeyring keys version = some key) (hheader : Carries header value)
    (hrequest : scanRequest? request = some input) (hcarried : input.cookieHeader = .string header)
    (hhost : canonicalDomain runtime.toNodeRuntime input.domain = some host) :
    prepare runtime dependencies inputs request =
      match ensureUnrevoked (inputs.isRevoked (digestText (sessionScope runtime randomBytes))) with
      | .ok _ => persistArguments runtime dependencies inputs.now input host
          (digestText (sessionScope runtime randomBytes))
      | .error denied => .error denied := by
  rw [prepare, hrequest]
  dsimp only
  rw [hhost]
  dsimp only
  rw [hlater]
  dsimp only
  rw [creationSession, hcarried, cookieHeaderOf, authenticate_carried hcookie hkey hheader]
  dsimp only
  cases ensureUnrevoked (inputs.isRevoked (digestText (sessionScope runtime randomBytes))) <;> rfl

end Outscan

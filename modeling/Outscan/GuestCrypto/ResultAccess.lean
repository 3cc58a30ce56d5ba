import Outscan.GuestCrypto.ResultToken
import Outscan.Library.Datum
import Outscan.Target.Hostname

/-! Access to a result: the bearer token of a request against the token metadata
of a scan. -/
namespace Outscan

open Dynamic

def maxAuthorizationHeaderLength : Nat := 128
def maxGuestScanIdBytes : Nat := 512

/-- A 64-bit number, given as a `bigint`. -/
def u64? (value : Datum) : Option Nat :=
  value.bigint?.bind fun n => if 0 ≤ n ∧ n ≤ (uint64Max : Int) then some n.toNat else none

/-- Either `null` or what `read` accepts. -/
def nullable? {α : Type} (read : Datum → Option α) (value : Datum) : Option (Option α) :=
  match value with
  | .null => some none
  | other => (read other).map some

def metadataKeys : List String :=
  ["guest_scan_id", "token_version", "token_nonce", "key_version",
    "result_access_expires_at_unix_seconds", "result_access_revoked_at_unix_seconds"]

def snapshotGuestResultTokenMetadata (value : Datum) : Option GuestResultTokenMetadata :=
  if !value.hasExactKeys metadataKeys then none
  else do
    let guestScanId ← (value.get "guest_scan_id").string?
    let tokenVersion ← u64? (value.get "token_version")
    let tokenNonce ← (value.get "token_nonce").bytes?.bind Bytes32.ofBytes?
    let keyVersion ← (value.get "key_version").natural?
    let resultAccessExpiresAt ← u64? (value.get "result_access_expires_at_unix_seconds")
    let resultAccessRevokedAt ← nullable? u64? (value.get "result_access_revoked_at_unix_seconds")
    let idLength := (utf8Bytes guestScanId).length
    if decide (idLength < 1) || decide (idLength > maxGuestScanIdBytes) || !isU32 keyVersion then
      none
    else
      some {
        guestScanId, tokenVersion, tokenNonce, keyVersion, resultAccessExpiresAt,
        resultAccessRevokedAt }

/-- `verifyGuestResultToken`, on metadata that is already a snapshot. Decoding
what `deriveGuestResultToken` writes gives the MAC. -/
def verifyGuestResultToken (node : NodeRuntime) (suppliedToken : String)
    (metadata : GuestResultTokenMetadata) (keyring : GuestResultTokenKeyring) (now : Nat) : Bool :=
  if utf16Length suppliedToken.toList ≠ 43 || decide (now > uint64Max) ||
      metadata.resultAccessRevokedAt.isSome || decide (now ≥ metadata.resultAccessExpiresAt) then
    false
  else
    match decodeCanonicalBase64Url suppliedToken, keyring metadata.keyVersion with
    | some supplied, some key =>
      if supplied.length ≠ 32 || !isValidKey key then false
      else
        match (deriveGuestResultToken node metadata key).bind decodeCanonicalBase64Url with
        | some expected => supplied == expected
        | none => false
    | _, _ => false

structure GuestResultAccessRequest where
  authorizationHeader : Datum
  routeGuestScanId : String
  nowUnixSeconds : Nat

def accessRequestKeys : List String :=
  ["authorization_header", "route_guest_scan_id", "query", "now_unix_seconds"]

def emptyQuery : Datum → Bool
  | .record prototype fields => prototype != .custom && fields.isEmpty
  | _ => false

/-- `parseRequest`, and the `requestSnapshot` of the reader. -/
def parseResultRequest (value : Datum) : Option GuestResultAccessRequest :=
  if !value.hasExactKeys accessRequestKeys then none
  else do
    let routeGuestScanId ← (value.get "route_guest_scan_id").string?
    let nowUnixSeconds ← u64? (value.get "now_unix_seconds")
    let idLength := (utf8Bytes routeGuestScanId).length
    if decide (idLength < 1) || decide (idLength > maxGuestScanIdBytes) ||
        !emptyQuery (value.get "query") then none
    else
      some {
        authorizationHeader := value.get "authorization_header"
        routeGuestScanId, nowUnixSeconds }

def GuestResultAccessRequest.toDatum (request : GuestResultAccessRequest) : Datum :=
  .object [
    ("authorization_header", request.authorizationHeader),
    ("route_guest_scan_id", .string request.routeGuestScanId),
    ("query", .object []),
    ("now_unix_seconds", .bigint request.nowUnixSeconds)]

/-- `[A-Za-z0-9_-]` under the flags `iu`, which fold U+017F to `s` and U+212A to `k`. -/
def isBearerChar (c : Char) : Bool :=
  c.isAlphanum || c == '_' || c == '-' || c.toNat == 0x17f || c.toNat == 0x212a

/-- What `^Bearer ([A-Za-z0-9_-]{43})$` captures, under the flags `iu`. -/
def bearerToken? (header : String) : Option String :=
  let text := header.toList
  let token := text.drop 7
  if (text.take 7).map Char.toLower = "bearer ".toList ∧ token.length = 43 ∧
      token.all isBearerChar then some (String.ofList token)
  else none

def presentedToken? (header : Datum) : Option String := do
  let text ← header.string?
  if utf16Length text.toList > maxAuthorizationHeaderLength then none else bearerToken? text

structure GuestResultGrant where
  guestScanId : String
  resultAccessExpiresAt : Nat
  resultTokenExpiresIn : Nat
deriving DecidableEq, Repr

inductive GuestResultAccessError where
  | invalidResultRequest | resultAccessDenied
deriving DecidableEq, Repr

def authorizeGuestResultAccess (node : NodeRuntime) (requestValue metadataValue : Datum)
    (keyring : GuestResultTokenKeyring) : Except GuestResultAccessError GuestResultGrant :=
  match parseResultRequest requestValue with
  | none => .error .invalidResultRequest
  | some request =>
    match presentedToken? request.authorizationHeader,
        snapshotGuestResultTokenMetadata metadataValue with
    | some token, some metadata =>
      if metadata.guestScanId ≠ request.routeGuestScanId ||
          decide (metadata.resultAccessExpiresAt ≤ request.nowUnixSeconds) ||
          decide (metadata.resultAccessExpiresAt - request.nowUnixSeconds > 1800) then
        .error .resultAccessDenied
      else if !verifyGuestResultToken node token metadata keyring request.nowUnixSeconds then
        .error .resultAccessDenied
      else
        .ok {
          guestScanId := metadata.guestScanId
          resultAccessExpiresAt := metadata.resultAccessExpiresAt
          resultTokenExpiresIn := metadata.resultAccessExpiresAt - request.nowUnixSeconds }
    | _, _ => .error .resultAccessDenied

/-! ### What a grant says -/

theorem u64?_eq_some {value : Datum} {n : Nat} :
    u64? value = some n ↔ value = .bigint n ∧ n ≤ uint64Max := by
  constructor
  · intro h
    obtain ⟨m, hm, hrange⟩ := Option.bind_eq_some_iff.mp h
    split at hrange
    · rename_i hbounds
      cases hrange
      cases value with
      | bigint v =>
        cases hm
        refine ⟨?_, ?_⟩
        · rw [Int.toNat_of_nonneg hbounds.1]
        · omega
      | _ => cases hm
    · cases hrange
  · rintro ⟨rfl, hle⟩
    simp only [u64?, Datum.bigint?, Option.bind_some]
    rw [if_pos (by omega), Int.toNat_natCast]

theorem parseResultRequest_eq_some {value : Datum} {request : GuestResultAccessRequest}
    (h : parseResultRequest value = some request) :
    (value.get "route_guest_scan_id").string? = some request.routeGuestScanId ∧
      u64? (value.get "now_unix_seconds") = some request.nowUnixSeconds ∧
      1 ≤ (utf8Bytes request.routeGuestScanId).length ∧
      (utf8Bytes request.routeGuestScanId).length ≤ maxGuestScanIdBytes ∧
      request.authorizationHeader = value.get "authorization_header" := by
  rw [parseResultRequest] at h
  split at h
  · cases h
  · simp only [Option.bind_eq_bind, Option.bind_eq_some_iff] at h
    obtain ⟨id, hid, now, hnow, hguard⟩ := h
    split at hguard
    · cases hguard
    · rename_i hchecks
      cases hguard
      simp only [Bool.or_eq_true, decide_eq_true_eq, not_or, Nat.not_lt] at hchecks
      exact ⟨hid, hnow, hchecks.1.1, hchecks.1.2, rfl⟩

structure GuestResultAccessRequest.WellFormed (request : GuestResultAccessRequest) : Prop where
  id_pos : 1 ≤ (utf8Bytes request.routeGuestScanId).length
  id_le : (utf8Bytes request.routeGuestScanId).length ≤ maxGuestScanIdBytes
  now_le : request.nowUnixSeconds ≤ uint64Max

theorem GuestResultAccessRequest.WellFormed.parse {request : GuestResultAccessRequest}
    (h : request.WellFormed) : parseResultRequest request.toDatum = some request := by
  have hnow : u64? (.bigint request.nowUnixSeconds) = some request.nowUnixSeconds :=
    u64?_eq_some.mpr ⟨rfl, h.now_le⟩
  have hquery : emptyQuery (.object []) = true := rfl
  rw [parseResultRequest, if_neg (by
    simp [GuestResultAccessRequest.toDatum, Datum.hasExactKeys_object, accessRequestKeys])]
  simp only [GuestResultAccessRequest.toDatum, Datum.get_object_cons, String.reduceEq, if_true,
    if_false, Datum.string?, Option.bind_eq_bind, Option.bind_some, hnow, hquery]
  rw [if_neg]
  simp only [Bool.or_eq_true, decide_eq_true_eq, not_or, Nat.not_lt, Bool.not_true,
    Bool.false_eq_true, not_false_eq_true, and_true]
  exact ⟨h.id_pos, h.id_le⟩

theorem parseResultRequest_toDatum {value : Datum} {request : GuestResultAccessRequest}
    (h : parseResultRequest value = some request) :
    parseResultRequest request.toDatum = some request := by
  obtain ⟨-, hnow, hpos, hle, -⟩ := parseResultRequest_eq_some h
  have hwell : request.WellFormed := ⟨hpos, hle, (u64?_eq_some.mp hnow).2⟩
  exact hwell.parse

theorem authorizeGuestResultAccess_ok {node : NodeRuntime} {value metadata : Datum}
    {request : GuestResultAccessRequest} {keyring : GuestResultTokenKeyring}
    {grant : GuestResultGrant} (hparse : parseResultRequest value = some request)
    (h : authorizeGuestResultAccess node value metadata keyring = .ok grant) :
    grant.guestScanId = request.routeGuestScanId ∧
      request.nowUnixSeconds + grant.resultTokenExpiresIn = grant.resultAccessExpiresAt ∧
      1 ≤ grant.resultTokenExpiresIn := by
  rw [authorizeGuestResultAccess, hparse] at h
  dsimp only at h
  split at h
  · split at h
    · cases h
    · rename_i hchecks
      split at h
      · cases h
      · cases h
        simp only [Bool.or_eq_true, decide_eq_true_eq, not_or, ne_eq, not_not, Nat.not_le] at hchecks
        exact ⟨hchecks.1.1, by dsimp only; omega, by dsimp only; omega⟩
  · cases h

end Outscan

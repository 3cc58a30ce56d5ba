import Outscan.GuestCrypto.ResultToken

/-! The idempotency decision for `POST /v1/public/scans`. -/
namespace Outscan

def guestScanEndpointOperation : String := "POST:/v1/public/scans"
def guestIdempotencyWindowSeconds : Nat := 1800

structure GuestIdempotencyRequest where
  guestSessionScope : Bytes32
  idempotencyKey : String
  requestHash : Bytes32
  now : Nat
deriving DecidableEq, Repr

/-- `principalScope` is the digest behind `GUEST_SESSION:`. -/
structure GuestIdempotencyRecord where
  principalScope : Bytes32
  endpointOperation : String
  idempotencyKey : String
  requestHash : Bytes32
  createdAt : Nat
  idempotencyExpiresAt : Nat
  tokenMetadata : GuestResultTokenMetadata
deriving DecidableEq, Repr

/-- What the lookup found: no row, a row the mapping refused, or a record. -/
inductive ExistingRecord where
  | absent
  | malformed
  | record (value : GuestIdempotencyRecord)

inductive CreateAction where
  | create | replaceExpired
deriving DecidableEq, Repr

inductive GuestIdempotencyError where
  | invalidRequest | invalidRecord | idempotencyKeyReused | resultAccessRevoked
  | resultTokenUnavailable
deriving DecidableEq, Repr

inductive GuestIdempotencyResult where
  | proceed (action : CreateAction)
  | replay (guestScanId resultToken : String) (resultAccessExpiresAt expiresInSeconds : Nat)
  | deny (code : GuestIdempotencyError)
deriving DecidableEq, Repr

/-- `parseRequest` accepts the request. -/
def validIdempotencyRequest (request : GuestIdempotencyRequest) : Bool :=
  validIdempotencyKey request.idempotencyKey && isU64 request.now

/-- `parseRecord` accepts the record. -/
def validIdempotencyRecord (record : GuestIdempotencyRecord) : Bool :=
  validIdempotencyKey record.idempotencyKey &&
    record.endpointOperation == guestScanEndpointOperation && isU64 record.createdAt &&
    isU64 record.idempotencyExpiresAt && validTokenMetadata record.tokenMetadata &&
    isU64 (record.createdAt + guestIdempotencyWindowSeconds) &&
    record.createdAt + guestIdempotencyWindowSeconds == record.idempotencyExpiresAt &&
    record.createdAt + guestIdempotencyWindowSeconds ==
      record.tokenMetadata.resultAccessExpiresAt

def createDecision (action : CreateAction) (request : GuestIdempotencyRequest) :
    GuestIdempotencyResult :=
  if isU64 (request.now + guestIdempotencyWindowSeconds) then .proceed action
  else .deny .invalidRequest

def decideGuestScanIdempotency (node : NodeRuntime) (request : GuestIdempotencyRequest)
    (existing : ExistingRecord) (tokenKeyring : GuestResultTokenKeyring) :
    GuestIdempotencyResult :=
  if !validIdempotencyRequest request then .deny .invalidRequest
  else
    match existing with
    | .absent => createDecision .create request
    | .malformed => .deny .invalidRecord
    | .record existing =>
      if !validIdempotencyRecord existing then .deny .invalidRecord
      else if existing.principalScope ≠ request.guestSessionScope ∨
          existing.endpointOperation ≠ guestScanEndpointOperation ∨
          existing.idempotencyKey ≠ request.idempotencyKey then .deny .invalidRecord
      else if request.now ≥ existing.idempotencyExpiresAt then
        createDecision .replaceExpired request
      else if existing.requestHash ≠ request.requestHash then .deny .idempotencyKeyReused
      else if existing.tokenMetadata.resultAccessRevokedAt.isSome then
        .deny .resultAccessRevoked
      else
        match tokenKeyring existing.tokenMetadata.keyVersion with
        | none => .deny .resultTokenUnavailable
        | some key =>
          match deriveGuestResultToken node existing.tokenMetadata key with
          | none => .deny .resultTokenUnavailable
          | some token =>
            .replay existing.tokenMetadata.guestScanId token
              existing.tokenMetadata.resultAccessExpiresAt
              (existing.tokenMetadata.resultAccessExpiresAt - request.now)

end Outscan

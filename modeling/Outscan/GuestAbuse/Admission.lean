import Outscan.GuestAbuse.Decide
import Outscan.GuestIdempotency.Decide

/-! Admission of a new scan as one pure decision: idempotency first, then the limits. -/
namespace Outscan

structure GuestAbuseReservation where
  guestSessionScope : Bytes32
  networkSignalDigest : Bytes32
  observedAt : Nat
deriving DecidableEq, Repr

/-- What `ALLOW_NEW_SCAN` carries. -/
def GuestAbuseRequest.reservation (request : GuestAbuseRequest) : GuestAbuseReservation :=
  ⟨request.guestSessionScope, request.networkSignalDigest, request.now⟩

inductive GuestScanAdmissionDecision where
  | replay (guestScanId resultToken : String) (resultAccessExpiresAt expiresInSeconds : Nat)
  | proceed (action : CreateAction) (reservation : GuestAbuseReservation)
  | deny (code : GuestIdempotencyError)
  | invalidAbuseContext
  | abuseLimitExceeded (abuseCode : GuestAbuseDenyCode) (retryAfterSeconds : Option Nat)
deriving DecidableEq, Repr

/-- `none` is a context that is not of the shape of a request. -/
def decideGuestScanAdmission (node : NodeRuntime) (request : GuestIdempotencyRequest)
    (existing : ExistingRecord) (tokenKeyring : GuestResultTokenKeyring)
    (abuseContext : Option GuestAbuseRequest) : GuestScanAdmissionDecision :=
  match decideGuestScanIdempotency node request existing tokenKeyring with
  | .deny code => .deny code
  | .replay guestScanId resultToken resultAccessExpiresAt expiresInSeconds =>
    .replay guestScanId resultToken resultAccessExpiresAt expiresInSeconds
  | .proceed action =>
    match abuseContext with
    | none => .invalidAbuseContext
    | some context =>
      match decideGuestAbuseAdmission context with
      | .invalidAbuseContext => .invalidAbuseContext
      | .deny code retryAfterSeconds => .abuseLimitExceeded code retryAfterSeconds
      | .allowNewScan =>
        -- scope and expiry of the idempotency decision are those of its request
        let reservation := context.reservation
        if request.guestSessionScope ≠ reservation.guestSessionScope ∨
            request.now + guestIdempotencyWindowSeconds - guestIdempotencyWindowSeconds ≠
              reservation.observedAt then .invalidAbuseContext
        else .proceed action reservation

end Outscan

import Outscan.GuestScan.Snapshot

/-! Reading a result with a bearer token. -/
namespace Outscan

open Dynamic

/-- A store that throws gives `none`. -/
structure ReadGuestResultDependencies where
  loadByGuestScanId : String → Option Datum
  tokenKeyring : GuestResultTokenKeyring

inductive ReadGuestResultDecision where
  | ok (body : GuestResultView)
  | failure (code : GuestResultAccessError)
deriving DecidableEq

def GuestResultAccessError.text : GuestResultAccessError → String
  | .invalidResultRequest => "INVALID_RESULT_REQUEST"
  | .resultAccessDenied => "RESULT_ACCESS_DENIED"

def ReadGuestResultDecision.toDatum : ReadGuestResultDecision → Datum
  | .ok body =>
    .object [("ok", .bool true), ("response_headers", guestResultSecurityHeaders),
      ("body", body.toDatum)]
  | .failure code => .object [("ok", .bool false), ("code", .string code.text)]

def GuestResultTokenMetadata.toDatum (metadata : GuestResultTokenMetadata) : Datum :=
  .object [
    ("guest_scan_id", .string metadata.guestScanId),
    ("token_version", .bigint metadata.tokenVersion),
    ("token_nonce", .bytes metadata.tokenNonce.bytes),
    ("key_version", .number (.whole metadata.keyVersion)),
    ("result_access_expires_at_unix_seconds", .bigint metadata.resultAccessExpiresAt),
    ("result_access_revoked_at_unix_seconds",
      match metadata.resultAccessRevokedAt with
      | none => .null
      | some time => .bigint time)]

def readAuthorizedGuestResult (node : NodeRuntime) (requestValue : Datum)
    (dependencies : ReadGuestResultDependencies) : ReadGuestResultDecision :=
  match parseResultRequest requestValue with
  | none => .failure .invalidResultRequest
  | some request =>
    if (presentedToken? request.authorizationHeader).isNone then .failure .resultAccessDenied
    else
      match (dependencies.loadByGuestScanId request.routeGuestScanId).bind
          (snapshotGuestResultReadRecord node) with
      | none => .failure .resultAccessDenied
      | some record =>
        if request.nowUnixSeconds ≥ record.scan.deletionDeadline then .failure .resultAccessDenied
        else
          match authorizeGuestResultAccess node request.toDatum
              record.scan.resultTokenMetadata.toDatum dependencies.tokenKeyring with
          | .error _ => .failure .resultAccessDenied
          | .ok access =>
            match createGuestResultView node (viewInput access.guestScanId
                access.resultAccessExpiresAt access.resultTokenExpiresIn record.result.completedAt
                record.result.projection.toDatum) with
            | none => .failure .resultAccessDenied
            | some body =>
              if body.canonicalHost ≠ record.scan.canonicalTarget then .failure .resultAccessDenied
              else .ok body

theorem readAuthorizedGuestResult_ok {node : NodeRuntime} {value : Datum}
    {dependencies : ReadGuestResultDependencies} {view : GuestResultView}
    (h : readAuthorizedGuestResult node value dependencies = .ok view) :
    ∃ (request : GuestResultAccessRequest) (access : GuestResultAccess) (completed : Nat)
      (projection : ProjectionSnapshot node), parseResultRequest value = some request ∧
      access.guestScanId = request.routeGuestScanId ∧
      request.nowUnixSeconds + access.resultTokenExpiresIn = access.resultAccessExpiresAt ∧
      completed ≤ request.nowUnixSeconds ∧ view = guestResultBody access completed projection := by
  rw [readAuthorizedGuestResult] at h
  split at h
  · cases h
  rename_i request hrequest
  split at h
  · cases h
  split at h
  · cases h
  rename_i record hrecord
  split at h
  · cases h
  split at h
  · cases h
  rename_i grant hgrant
  obtain ⟨hid, hnow, hpos⟩ :=
    authorizeGuestResultAccess_ok (parseResultRequest_toDatum hrequest) hgrant
  split at h
  · cases h
  rename_i body hbody
  split at h
  · cases h
  · cases h
    obtain ⟨access, completed, projection, haccess, -, -, -, hcompleted, hview⟩ :=
      createGuestResultView_eq_some hbody
    obtain ⟨hid', hexpires, hremaining⟩ := snapshotAccess_eq_some haccess
    simp only [viewInput, Datum.get_object_cons, String.reduceEq, if_true, if_false, Datum.string?,
      Datum.bigint?, Datum.whole?, Option.some.injEq, Int.natCast_inj] at hid' hexpires hremaining
    refine ⟨request, access, completed, projection, hrequest, hid'.symm.trans hid, ?_, ?_, hview⟩
    · omega
    · omega

end Outscan

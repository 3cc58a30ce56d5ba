import Outscan.GuestScan.Create

/-! The filter of the route in front of a creation reply: a result is taken apart
and passed on only in its closed form. -/
namespace Outscan

open Dynamic Numeral

inductive RouteDecision where
  | ok (statusCode : Nat) (body : GuestScanCreationSuccessBody)
  | failure (statusCode : Nat) (code : GuestScanCreationErrorCode) (retryAfter : Option String)
deriving DecidableEq, Repr

/-- The pattern `^[1-9][0-9]{0,4}$`, up to a day. -/
def isRetryAfter (text : String) : Bool :=
  match text.toList with
  | [] => false
  | first :: rest =>
    isDigit 10 first && first != '0' && rest.all (isDigit 10) && decide (rest.length ≤ 4) &&
      decide (value 10 text.toList ≤ 86400)

/-- `validServiceHeaders`; `none` refuses, and what is inside is `retry_after`. -/
def validServiceHeaders (headers : Datum) (allowRetryAfter : Bool) : Option (Option String) :=
  let hasRetryAfter :=
    headers.hasExactKeys ["cache-control", "referrer-policy", "retry-after"]
  if !headers.hasExactKeys ["cache-control", "referrer-policy"] &&
      !(allowRetryAfter && hasRetryAfter) then none
  else if (headers.get "cache-control").string? ≠ some "no-store" ∨
      (headers.get "referrer-policy").string? ≠ some "no-referrer" then none
  else if !hasRetryAfter then some none
  else
    match (headers.get "retry-after").string? with
    | none => none
    | some retryAfter => if isRetryAfter retryAfter then some (some retryAfter) else none

/-- `new Date(text).toISOString() === text`, for a text of the length of the ISO
form. The calendar repeats itself after 400 years, so a year before 1970 is looked
up five times as many years later. -/
def isIsoMoment (text : String) : Bool :=
  match Calendar.parseIso text.toList with
  | none => false
  | some moment =>
    let later := { moment with year := moment.year + 2000 }
    decide (Calendar.ofUnixMs later.toUnixMs = later)

def successBodyKeys : List String :=
  ["scanId", "resultToken", "status", "resultAccessExpiresAt", "resultTokenExpiresInSeconds"]

def successBody (value : Datum) : Option GuestScanCreationSuccessBody :=
  if !value.hasExactKeys successBodyKeys then none
  else do
    let scanId ← (value.get "scanId").string?
    let resultToken ← (value.get "resultToken").string?
    let status ← (value.get "status").string?
    let expiresAt ← (value.get "resultAccessExpiresAt").string?
    let expiresIn ← (value.get "resultTokenExpiresInSeconds").natural?
    if validId scanId ∧ validResultToken resultToken ∧ status = "QUEUED" ∧
        utf16Length expiresAt.toList = 24 ∧ isIsoMoment expiresAt ∧
        1 ≤ expiresIn ∧ expiresIn ≤ 1800 then
      some ⟨scanId, resultToken, expiresAt, expiresIn⟩
    else none

def errorStatus : GuestScanCreationErrorCode → Nat
  | .invalidScanRequest => 400
  | .guestSessionRequired => 401
  | .guestSessionInvalid => 401
  | .idempotencyKeyReused => 409
  | .guestScanLimitExceeded => 429
  | .guestScanningUnavailable => 503
  | .guestScanUnavailable => 503

def guestScanCreationErrorCodes : List GuestScanCreationErrorCode :=
  [.invalidScanRequest, .guestSessionRequired, .guestSessionInvalid, .idempotencyKeyReused,
    .guestScanLimitExceeded, .guestScanningUnavailable, .guestScanUnavailable]

def errorCode? (text : String) : Option GuestScanCreationErrorCode :=
  guestScanCreationErrorCodes.find? fun code => decide (code.text = text)

def successDecision (statusCode headers body : Datum) : Option RouteDecision :=
  match successBody body, validServiceHeaders headers false, statusCode.whole? with
  | some projected, some _, some code =>
    if code = 200 then some (.ok 200 projected)
    else if code = 202 then some (.ok 202 projected)
    else none
  | _, _, _ => none

def failureDecision (statusCode headers body : Datum) : Option RouteDecision :=
  if !body.hasExactKeys ["error"] then none
  else
    let errorBody := body.get "error"
    if !errorBody.hasExactKeys ["code"] then none
    else do
      let code ← (errorBody.get "code").string?.bind errorCode?
      if statusCode.whole? ≠ some (errorStatus code : Int) then none
      else
        let retryAfter ← validServiceHeaders headers (errorStatus code == 429)
        some (.failure (errorStatus code) code retryAfter)

def decisionSnapshot (value : Datum) : Option RouteDecision :=
  if !value.hasExactKeys ["ok", "status_code", "headers", "body"] then none
  else
    match (value.get "ok").bool? with
    | some true => successDecision (value.get "status_code") (value.get "headers") (value.get "body")
    | some false => failureDecision (value.get "status_code") (value.get "headers") (value.get "body")
    | none => none

/-! ### Results in the closed form -/

def GuestScanCreationResult.decision : GuestScanCreationResult → RouteDecision
  | .ok statusCode body => .ok statusCode body
  | .failure statusCode code retryAfterSeconds =>
    .failure statusCode code (retryAfterSeconds.map retryAfterText)

/-- A body that the pattern of every field accepts, with a moment up to the year 9999. -/
structure GuestScanCreationSuccessBody.Closed (body : GuestScanCreationSuccessBody) : Prop where
  id : validId body.scanId = true
  token : validResultToken body.resultToken = true
  expires : ∃ moment, moment ≤ maxUnixSecondsForIso ∧
    body.resultAccessExpiresAt = isoOfSeconds moment
  positive : 1 ≤ body.resultTokenExpiresInSeconds
  window : body.resultTokenExpiresInSeconds ≤ 1800

/-- A result with the status of its code, and a wait only beside a limit. -/
inductive GuestScanCreationResult.Closed : GuestScanCreationResult → Prop
  | ok {statusCode : Nat} {body : GuestScanCreationSuccessBody}
      (status : statusCode = 200 ∨ statusCode = 202) (closed : body.Closed) :
      Closed (.ok statusCode body)
  | failure (code : GuestScanCreationErrorCode) : Closed (.failure (errorStatus code) code none)
  | limited {seconds : Nat} (positive : 1 ≤ seconds) (day : seconds ≤ maxRetryAfterSeconds) :
      Closed (.failure 429 .guestScanLimitExceeded (some seconds))

theorem errorCode?_text (code : GuestScanCreationErrorCode) : errorCode? code.text = some code := by
  cases code <;> rfl

theorem isRetryAfter_text {seconds : Nat} (hpos : 1 ≤ seconds) (hday : seconds ≤ 86400) :
    isRetryAfter (retryAfterText seconds) = true := by
  have hdecimal := isDecimal_iff.mp (isDecimal_toDigits seconds)
  have hvalue : value 10 (Nat.toDigits 10 seconds) = seconds :=
    value_toDigits (by omega) (by omega) seconds
  have hlength : (Nat.toDigits 10 seconds).length ≤ 5 :=
    (Nat.length_toDigits_le_iff (by omega) (by omega)).mpr (by omega)
  unfold isRetryAfter
  rw [retryAfterText, String.toList_ofList]
  cases hdigits : Nat.toDigits 10 seconds with
  | nil => exact absurd hdigits hdecimal.1
  | cons first rest =>
    rw [hdigits] at hdecimal hvalue hlength
    obtain ⟨-, hall, hhead⟩ := hdecimal
    have hfirst : first ≠ '0' := by
      rintro rfl
      cases rest with
      | nil =>
        have hzero : value 10 ['0'] = 0 := by decide
        omega
      | cons second others =>
        exact hhead (by simp) rfl
    have hrest : ∀ c ∈ rest, isDigit 10 c = true := fun c hc => hall c (List.mem_cons_of_mem _ hc)
    rw [List.length_cons] at hlength
    simp only [hvalue, hall first (by simp), bne_iff_ne.mpr hfirst, List.all_eq_true.mpr hrest,
      Bool.and_eq_true, decide_eq_true_eq, true_and]
    omega

end Outscan

import Outscan.ScannerOutput.Projection
import Outscan.Target.PinnedRequest

/-! What the guest scanner makes of security headers. A header that is missing,
repeated or not understood never passes. -/
namespace Outscan

open Numeral

def safeReferrerPolicies : List String :=
  ["no-referrer", "origin", "origin-when-cross-origin", "same-origin", "strict-origin",
    "strict-origin-when-cross-origin"]

def enforcingCspDirectives : List String :=
  ["base-uri", "child-src", "connect-src", "default-src", "font-src", "form-action",
    "frame-ancestors", "frame-src", "img-src", "manifest-src", "media-src", "object-src",
    "sandbox", "script-src", "script-src-attr", "script-src-elem", "style-src", "style-src-attr",
    "style-src-elem", "upgrade-insecure-requests", "worker-src"]

/-- `toLowerCase` on texts that are compared with plain ones afterwards. -/
def lower (text : List Char) : List Char := text.map jsLower

/-- `single`: the trimmed value of a header that is there once and not blank. -/
def singleHeaderText (headers : List SafeResponseHeader) (name : String) : Option (List Char) :=
  match headers.filter (·.name == name) with
  | [header] =>
    let value := jsTrim header.value.toList
    if value.isEmpty then none else some value
  | _ => none

/-- `^[a-z][a-z-]*$`. -/
def isHstsName (name : List Char) : Bool :=
  match name with
  | [] => false
  | first :: rest => first.isLower && rest.all fun c => c.isLower || c == '-'

/-- The digits of `max-age`, which may stand in quotes: `^"([0-9]+)"$` or the text
itself. -/
def unquoted (rawSeconds : List Char) : List Char :=
  match rawSeconds with
  | '"' :: rest =>
    let digits := rest.dropLast
    if rest.getLast? = some '"' && !digits.isEmpty && digits.all Char.isDigit then digits
    else rawSeconds
  | _ => rawSeconds

/-- The seconds of a `max-age`: none when they are not a decimal numeral, or when
the number is not a safe integer. -/
def hstsSeconds (directive : List Char) : Option Nat :=
  let seconds := unquoted (jsTrim ((directive.dropWhile (· ≠ '=')).drop 1))
  if directive.contains '=' && isDecimal seconds && decide (value 10 seconds ≤ maxSafeInteger) then
    some (value 10 seconds)
  else none

/-- The loop of `validHsts`: the names seen so far and the last `max-age`. -/
def hstsLoop : List (List Char) → List (List Char) → Option Nat → Option (Option Nat)
  | [], _, maxAge => some maxAge
  | raw :: rest, seen, maxAge =>
    let directive := jsTrim raw
    if directive.isEmpty then hstsLoop rest seen maxAge
    else
      let name := lower (jsTrim (directive.takeWhile (· ≠ '=')))
      if !isHstsName name || seen.contains name then none
      else if name = "max-age".toList then
        match hstsSeconds directive with
        | none => none
        | some seconds => hstsLoop rest (name :: seen) (some seconds)
      else hstsLoop rest (name :: seen) maxAge

def validHsts : Option (List Char) → Bool
  | none => false
  | some value =>
    match hstsLoop (value.splitOn ';') [] none with
    | some (some maxAge) => decide (0 < maxAge)
    | _ => false

/-- `^[a-z][a-z0-9-]*$`. -/
def isDirectiveName (name : List Char) : Bool :=
  match name with
  | [] => false
  | first :: rest => first.isLower && rest.all fun c => c.isLower || c.isDigit || c == '-'

/-- The loop of `cspDirectives`: the names in the order in which they came. -/
def cspLoop : List (List Char) → List (List Char) → Option (List (List Char))
  | [], names => some names
  | raw :: rest, names =>
    let directive := jsTrim raw
    if directive.isEmpty then cspLoop rest names
    else
      let name := lower (directive.takeWhile fun c => !isJsSpace c)
      if !isDirectiveName name || names.contains name then none
      else cspLoop rest (names ++ [name])

def cspDirectives : Option (List Char) → Option (List (List Char))
  | none => none
  | some value =>
    match cspLoop (value.splitOn ';') [] with
    | some (name :: names) => some (name :: names)
    | _ => none

/-- `[a-z0-9-]` under the flags `iu`. -/
def isFeatureTail (c : Char) : Bool := isLetterFolded c || c.isDigit || c == '-'

/-- `^\s*([a-z][a-z0-9-]*)=\(([^()]*)\)\s*$` under the flags `iu`: the feature and
what stands between its parentheses. -/
def permissionDirective (raw : List Char) : Option (List Char × List Char) :=
  let directive := jsTrim raw
  let feature := directive.takeWhile isFeatureTail
  match directive.dropWhile isFeatureTail with
  | '=' :: '(' :: rest =>
    let body := rest.dropLast
    if feature.head?.any isLetterFolded && rest.getLast? == some ')' &&
        body.all (fun c => c != '(' && c != ')') then
      some (feature, body)
    else none
  | _ => none

/-- The loop of `validPermissionsPolicy`. -/
def permissionsLoop : List (List Char) → List (List Char) → Bool
  | [], _ => true
  | raw :: rest, seen =>
    match permissionDirective raw with
    | none => false
    | some (name, body) =>
      let feature := lower name
      if seen.contains feature || body.contains '*' then false
      else permissionsLoop rest (feature :: seen)

def validPermissionsPolicy : Option (List Char) → Bool
  | none => false
  | some value =>
    let directives := value.splitOn ','
    decide (0 < directives.length) && decide (directives.length ≤ 64) &&
      permissionsLoop directives []

def guestHttpHeaderChecks : List GuestPostureCheck :=
  [.httpHsts, .httpCsp, .httpXContentTypeOptions, .httpFrameProtection, .httpReferrerPolicy,
    .httpPermissionsPolicy]

def headerDecision (headers : List SafeResponseHeader) (check : GuestPostureCheck) : Bool :=
  let csp := cspDirectives (singleHeaderText headers "content-security-policy")
  let text (name : String) := (singleHeaderText headers name).map lower
  match check with
  | .httpHsts => validHsts (singleHeaderText headers "strict-transport-security")
  | .httpCsp => csp.any fun names =>
      names.any fun name => enforcingCspDirectives.contains (String.ofList name)
  | .httpXContentTypeOptions => text "x-content-type-options" == some "nosniff".toList
  | .httpFrameProtection =>
    text "x-frame-options" == some "deny".toList ||
      text "x-frame-options" == some "sameorigin".toList ||
      csp.any fun names => names.contains "frame-ancestors".toList
  | .httpReferrerPolicy =>
    (singleHeaderText headers "referrer-policy").any fun value =>
      ((value.splitOn ',').getLast?).any fun last =>
        safeReferrerPolicies.contains (String.ofList (lower (jsTrim last)))
  | .httpPermissionsPolicy => validPermissionsPolicy (singleHeaderText headers "permissions-policy")
  | _ => false

def inspectGuestSecurityHeaders (headers : List SafeResponseHeader) :
    List GuestPostureObservation :=
  guestHttpHeaderChecks.map fun check =>
    { checkId := check, outcome := if headerDecision headers check then .pass else .attention }

end Outscan

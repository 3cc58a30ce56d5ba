import Outscan.Library.Calendar
import Outscan.Library.Utf8
import Outscan.ScannerOutput.Projection
import Outscan.Target.SafeHttpFlow

/-! The narrow subset of `security.txt` that the guest scanner accepts. -/
namespace Outscan

open Numeral

def guestSecurityTxtPath : String := "/.well-known/security.txt"

def guestSecurityTxtMaxBytes : Nat := 32 * 1024

def maxSecurityTxtLines : Nat := 1000
def maxSecurityTxtLineBytes : Nat := 2048

/-- `new URL(text)` without a base. -/
structure AbsoluteUrl extends UrlComponents where
  hash : String
deriving DecidableEq, Repr

/-- What the scanner takes from Node besides the flow: URLs without a base and
`Date.parse`, which are `none` when they throw or are `NaN`, and SHA-256. -/
structure ScannerRuntime extends FlowRuntime where
  parseAbsoluteUrl : String → Option AbsoluteUrl
  dateParse : String → Option Int
  sha256 : List UInt8 → Bytes32

def singleHeader (response : PinnedTransportResponse) (name : String) : Option (List Char) :=
  match response.headers.filter (·.name == name) with
  | [header] => some (jsTrim header.value.toList)
  | _ => none

def validContentType : Option (List Char) → Bool
  | none => false
  | some value =>
    let parts := (value.splitOn ';').map fun part => (jsTrim part).map jsLower
    match parts with
    | [media, charset] =>
      media == "text/plain".toList &&
        (charset == "charset=utf-8".toList || charset == "charset=\"utf-8\"".toList)
    | _ => false

def validContact (runtime : ScannerRuntime) (value : List Char) : Bool :=
  if value.isEmpty || utf16Length value > maxSecurityTxtLineBytes then false
  else
    match runtime.parseAbsoluteUrl (String.ofList value) with
    | none => false
    | some uri =>
      if !(["https:", "mailto:", "tel:"].contains uri.protocol) then false
      else
        uri.protocol ≠ "https:" ||
          (uri.username == "" && uri.password == "" && uri.hostname ≠ "")

/-- A text follows a template, in which `d` stands for a digit. -/
def followsTemplate (template text : List Char) : Bool :=
  decide (template.length = text.length) &&
    (template.zip text).all fun (expected, c) => if expected = 'd' then c.isDigit else c == expected

/-- `UTC_DATE_TIME`: the numbers of a date and time that ends in `Z`. -/
def utcDateTime (text : List Char) : Option Calendar.DateTime :=
  let moment := text.take 19
  let rest := text.drop 19
  let fraction := (rest.drop 1).dropLast
  let number (start width : Nat) := value 10 ((text.drop start).take width)
  if followsTemplate "dddd-dd-ddTdd:dd:dd".toList moment &&
      (rest == ['Z'] || (rest.head? == some '.' && rest.getLast? == some 'Z' &&
        !fraction.isEmpty && fraction.all Char.isDigit)) then
    some {
      year := number 0 4, month := number 5 2, day := number 8 2, hour := number 11 2,
      minute := number 14 2, second := number 17 2, millisecond := 0 }
  else none

/-- The last moment that a `Date` can have. -/
def maxTimeMs : Nat := 8640000000000000

def validExpires (runtime : ScannerRuntime) (value : List Char) (nowUnixMs : Nat) : Bool :=
  match utcDateTime value, runtime.dateParse (String.ofList value) with
  | some stated, some timestamp =>
    if timestamp ≤ (nowUnixMs : Int) || timestamp > (maxTimeMs : Int) then false
    else { Calendar.ofUnixMs timestamp.toNat with millisecond := 0 } == stated
  | _, _ => false

/-- Whether a canonical URI names this file on this host; `none` is a URI that no
file may name. -/
def canonicalMatch (runtime : ScannerRuntime) (value : List Char) (canonicalHost : String) :
    Option Bool :=
  match runtime.parseAbsoluteUrl (String.ofList value) with
  | none => none
  | some uri =>
    if uri.protocol ≠ "https:" || uri.username ≠ "" || uri.password ≠ "" || uri.hostname = "" then
      none
    else
      some (uri.hostname == canonicalHost && uri.port == "" && uri.pathname == guestSecurityTxtPath &&
        uri.search == "" && uri.hash == "")

/-- `FIELD_NAME`, for one character. -/
def isFieldNameChar (c : Char) : Bool := c.isAlphanum || "!#$%&'*+-/=?^_\x60\x7b|\x7d~".toList.contains c

/-- A line as name and value: `indexOf(": ")` and the checks on both parts. -/
def fieldOf (line : List Char) : Option (List Char × List Char) :=
  let rec split (before : List Char) : List Char → Option (List Char × List Char)
    | ':' :: ' ' :: value => some (before.reverse, value)
    | c :: rest => split (c :: before) rest
    | [] => none
  match split [] line with
  | none => none
  | some (name, value) =>
    if name.isEmpty || !name.all isFieldNameChar || value.isEmpty then none else some (name, value)

structure FieldCounts where
  contacts : Nat
  expires : Nat
  canonicalSeen : Bool
deriving DecidableEq, Repr

def utf8Length (text : List Char) : Nat := (Utf8.encode text).length

/-- One turn of the loop; `none` is its `return false`. -/
def checkLine (runtime : ScannerRuntime) (canonicalHost : String) (nowUnixMs : Nat)
    (counts : FieldCounts) (line : List Char) : Option FieldCounts :=
  if utf8Length line > maxSecurityTxtLineBytes then none
  else if (jsTrim line).isEmpty || line.head? == some '#' then some counts
  else
    match fieldOf line with
    | none => none
    | some (name, value) =>
      let lowered := String.ofList (name.map Char.toLower)
      if lowered = "contact" then
        if validContact runtime value then some { counts with contacts := counts.contacts + 1 }
        else none
      else if lowered = "expires" then
        if counts.expires + 1 > 1 || !validExpires runtime value nowUnixMs then none
        else some { counts with expires := counts.expires + 1 }
      else if lowered = "canonical" then
        match canonicalMatch runtime value canonicalHost with
        | none => none
        | some true => some { counts with canonicalSeen := true }
        | some false => some counts
      else some counts

/-- `^Canonical: ` under the flags `iu`. -/
def isCanonicalLine (line : List Char) : Bool :=
  (line.take 11).map Char.toLower == "canonical: ".toList

def returnsPaired : List Char → Bool
  | '\r' :: '\n' :: rest => returnsPaired rest
  | '\r' :: _ => false
  | _ :: rest => returnsPaired rest
  | [] => true

/-- `replaceAll("\r\n", "\n")`. -/
def joinReturns : List Char → List Char
  | '\r' :: '\n' :: rest => '\n' :: joinReturns rest
  | c :: rest => c :: joinReturns rest
  | [] => []

/-- What `/[\0\v\f\u007f]/` matches. -/
def isForbiddenInSecurityTxt (c : Char) : Bool :=
  c.toNat == 0 || c.toNat == 0xb || c.toNat == 0xc || c.toNat == 0x7f

def parseBody (runtime : ScannerRuntime) (body : List UInt8) (canonicalHost : String)
    (nowUnixMs : Nat) : Bool :=
  if body.length = 0 || body.length > guestSecurityTxtMaxBytes then false
  else
    match Utf8.decode body with
    | none => false
    | some text =>
      if (text.head?.any fun c => c.toNat == 0xfeff) || text.getLast? ≠ some '\n' ||
          !returnsPaired text || text.any isForbiddenInSecurityTxt then false
      else
        let lines := ((joinReturns text).splitOn '\n').dropLast
        if lines.length = 0 || lines.length > maxSecurityTxtLines then false
        else
          match lines.foldlM (checkLine runtime canonicalHost nowUnixMs)
              { contacts := 0, expires := 0, canonicalSeen := false } with
          | none => false
          | some counts =>
            decide (counts.contacts > 0) && counts.expires == 1 &&
              (!lines.any isCanonicalLine || counts.canonicalSeen)

def inspectGuestSecurityTxt (runtime : ScannerRuntime) (response : PinnedTransportResponse)
    (canonicalHost : String) (nowUnixMs : Nat) : PostureOutcome :=
  if response.statusCode = 200 && validContentType (singleHeader response "content-type") &&
      parseBody runtime response.body canonicalHost nowUnixMs then .pass
  else .attention

end Outscan

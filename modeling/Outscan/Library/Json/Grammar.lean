import Mathlib.Data.List.TakeWhile
import Outscan.Library.Numeral

/-! JSON texts, as lists of UTF-16 code units: the values they stand for, their
grammar, and a parser. A tree keeps all members of an object in their order. -/
namespace Json

abbrev Text := List UInt16

abbrev unit (c : Char) : UInt16 := UInt16.ofNat c.toNat

def units (text : String) : Text := text.toList.map fun c => unit c

/-- A number in the form `± coefficient · 10 ^ exponent`. -/
structure Decimal where
  negative : Bool
  coefficient : Nat
  exponent : Int
deriving DecidableEq, Repr

inductive Value where
  | null
  | bool (value : Bool)
  | number (value : Decimal)
  | string (value : Text)
  | array (items : List Value)
  | object (members : List (Text × Value))

namespace Value

mutual

def depth : Value → Nat
  | .array items => depthItems items + 1
  | .object members => depthMembers members + 1
  | _ => 0

def depthItems : List Value → Nat
  | [] => 0
  | item :: rest => max (depth item) (depthItems rest)

def depthMembers : List (Text × Value) → Nat
  | [] => 0
  | (_, value) :: rest => max (depth value) (depthMembers rest)

end

mutual

def UniqueKeys : Value → Prop
  | .array items => UniqueItems items
  | .object members => (members.map Prod.fst).Nodup ∧ UniqueMembers members
  | _ => True

def UniqueItems : List Value → Prop
  | [] => True
  | item :: rest => UniqueKeys item ∧ UniqueItems rest

def UniqueMembers : List (Text × Value) → Prop
  | [] => True
  | (_, value) :: rest => UniqueKeys value ∧ UniqueMembers rest

end

end Value

/-! ### White space -/

def isSpace (u : UInt16) : Bool := u == 0x20 || u == 0x09 || u == 0x0a || u == 0x0d

def skipSpace (text : Text) : Text := text.dropWhile isSpace

/-! ### Strings -/

def shortEscape (u : UInt16) : Option UInt16 :=
  if u = unit '"' then some (unit '"')
  else if u = unit '\\' then some (unit '\\')
  else if u = unit '/' then some (unit '/')
  else if u = unit 'b' then some 0x08
  else if u = unit 'f' then some 0x0c
  else if u = unit 'n' then some 0x0a
  else if u = unit 'r' then some 0x0d
  else if u = unit 't' then some 0x09
  else none

def hexValue (u : UInt16) : Option Nat := Numeral.digitValue (Char.ofNat u.toNat)

def hexUnit (a b c d : UInt16) : Option UInt16 := do
  let a ← hexValue a
  let b ← hexValue b
  let c ← hexValue c
  let d ← hexValue d
  some (UInt16.ofNat (((a * 16 + b) * 16 + c) * 16 + d))

def readString : Text → Option (Text × Text)
  | [] => none
  | u :: rest =>
    if u = unit '"' then some ([], rest)
    else if u = unit '\\' then
      match rest with
      | [] => none
      | e :: after =>
        if e = unit 'u' then
          match after with
          | a :: b :: c :: d :: tail =>
            match hexUnit a b c d with
            | some decoded => (readString tail).map fun (units, rest) => (decoded :: units, rest)
            | none => none
          | _ => none
        else
          match shortEscape e with
          | some decoded => (readString after).map fun (units, rest) => (decoded :: units, rest)
          | none => none
    else if u < 0x20 then none
    else (readString rest).map fun (units, rest) => (u :: units, rest)

/-! ### Numbers -/

def isDigit (u : UInt16) : Bool := decide (unit '0' ≤ u) && decide (u ≤ unit '9')

def digitsValue (digits : Text) : Nat :=
  digits.foldl (fun total u => 10 * total + (u.toNat - 48)) 0

def readMinus : Text → Bool × Text
  | [] => (false, [])
  | u :: rest => if u = unit '-' then (true, rest) else (false, u :: rest)

def readFraction : Text → Option (Text × Text)
  | [] => some ([], [])
  | u :: rest =>
    if u = unit '.' then
      let digits := rest.takeWhile isDigit
      if digits.isEmpty then none else some (digits, rest.dropWhile isDigit)
    else some ([], u :: rest)

def readSign : Text → Bool × Text
  | [] => (false, [])
  | u :: rest => if u = unit '+' then (false, rest) else readMinus (u :: rest)

def readExponent : Text → Option (Int × Text)
  | [] => some (0, [])
  | u :: rest =>
    if u = unit 'e' ∨ u = unit 'E' then
      let (negative, unsigned) := readSign rest
      let digits := unsigned.takeWhile isDigit
      if digits.isEmpty then none
      else
        let value : Int := digitsValue digits
        some (if negative then -value else value, unsigned.dropWhile isDigit)
    else some (0, u :: rest)

def readNumber (text : Text) : Option (Decimal × Text) :=
  let (negative, unsigned) := readMinus text
  let whole := unsigned.takeWhile isDigit
  if whole.isEmpty || (whole.head? == some (unit '0') && decide (1 < whole.length)) then none
  else do
    let (fraction, rest) ← readFraction (unsigned.dropWhile isDigit)
    let (exponent, rest) ← readExponent rest
    some (⟨negative, digitsValue (whole ++ fraction), exponent - fraction.length⟩, rest)

/-! ### The grammar -/

/-- What a stretch of text is read as: one value, or the items or members that are
left of an array or an object, up to its closing bracket. -/
inductive Part where
  | value (value : Value)
  | items (items : List Value)
  | members (members : List (Text × Value))

/-- The grammar. `Reads text part rest`: the text begins with the part, and `rest`
follows. -/
inductive Reads : Text → Part → Text → Prop where
  | nullWord (rest : Text) : Reads (units "null" ++ rest) (.value .null) rest
  | trueWord (rest : Text) : Reads (units "true" ++ rest) (.value (.bool true)) rest
  | falseWord (rest : Text) : Reads (units "false" ++ rest) (.value (.bool false)) rest
  | number {text rest : Text} {value : Decimal} (h : readNumber text = some (value, rest)) :
    Reads text (.value (.number value)) rest
  | string {text rest value : Text} (h : readString text = some (value, rest)) :
    Reads (unit '"' :: text) (.value (.string value)) rest
  | emptyArray {text rest : Text} (h : skipSpace text = unit ']' :: rest) :
    Reads (unit '[' :: text) (.value (.array [])) rest
  | array {text rest : Text} {items : List Value} (h : Reads (skipSpace text) (.items items) rest) :
    Reads (unit '[' :: text) (.value (.array items)) rest
  | emptyObject {text rest : Text} (h : skipSpace text = unit '\x7d' :: rest) :
    Reads (unit '\x7b' :: text) (.value (.object [])) rest
  | object {text rest : Text} {members : List (Text × Value)}
    (h : Reads (skipSpace text) (.members members) rest) :
    Reads (unit '\x7b' :: text) (.value (.object members)) rest
  | lastItem {text after rest : Text} {item : Value} (h : Reads text (.value item) after)
    (hclose : skipSpace after = unit ']' :: rest) : Reads text (.items [item]) rest
  | moreItems {text after next rest : Text} {item : Value} {items : List Value}
    (h : Reads text (.value item) after) (hcomma : skipSpace after = unit ',' :: next)
    (hitems : Reads (skipSpace next) (.items items) rest) : Reads text (.items (item :: items)) rest
  | lastMember {text colon next after rest name : Text} {value : Value}
    (hname : readString text = some (name, colon)) (hcolon : skipSpace colon = unit ':' :: next)
    (h : Reads (skipSpace next) (.value value) after)
    (hclose : skipSpace after = unit '\x7d' :: rest) :
    Reads (unit '"' :: text) (.members [(name, value)]) rest
  | moreMembers {text colon next after more rest name : Text} {value : Value}
    {members : List (Text × Value)}
    (hname : readString text = some (name, colon)) (hcolon : skipSpace colon = unit ':' :: next)
    (h : Reads (skipSpace next) (.value value) after)
    (hcomma : skipSpace after = unit ',' :: more)
    (hmembers : Reads (skipSpace more) (.members members) rest) :
    Reads (unit '"' :: text) (.members ((name, value) :: members)) rest

/-! ### The parser -/

def readWord (word : String) (text : Text) : Option Text :=
  if text.take (units word).length = units word then some (text.drop (units word).length) else none

def readScalar (text : Text) : Option (Value × Text) :=
  match readWord "null" text, readWord "true" text, readWord "false" text with
  | some rest, _, _ => some (.null, rest)
  | _, some rest, _ => some (.bool true, rest)
  | _, _, some rest => some (.bool false, rest)
  | none, none, none => (readNumber text).map fun (value, rest) => (.number value, rest)

mutual

/-- The parser, which gives up after `fuel` nested calls. -/
def readValue : Nat → Text → Option (Value × Text)
  | 0, _ => none
  | _ + 1, [] => none
  | fuel + 1, u :: rest =>
    if u = unit '"' then (readString rest).map fun (value, rest) => (.string value, rest)
    else if u = unit '[' then
      match skipSpace rest with
      | [] => none
      | next :: after =>
        if next = unit ']' then some (.array [], after)
        else (readItems fuel (next :: after)).map fun (items, rest) => (.array items, rest)
    else if u = unit '\x7b' then
      match skipSpace rest with
      | [] => none
      | next :: after =>
        if next = unit '\x7d' then some (.object [], after)
        else (readMembers fuel (next :: after)).map fun (members, rest) => (.object members, rest)
    else readScalar (u :: rest)

def readItems : Nat → Text → Option (List Value × Text)
  | 0, _ => none
  | fuel + 1, text =>
    match readValue fuel text with
    | none => none
    | some (item, after) =>
      match skipSpace after with
      | [] => none
      | next :: rest =>
        if next = unit ']' then some ([item], rest)
        else if next = unit ',' then
          (readItems fuel (skipSpace rest)).map fun (items, rest) => (item :: items, rest)
        else none

def readMembers : Nat → Text → Option (List (Text × Value) × Text)
  | 0, _ => none
  | _ + 1, [] => none
  | fuel + 1, quote :: text =>
    if quote ≠ unit '"' then none
    else
      match readString text with
      | none => none
      | some (name, colon) =>
        match skipSpace colon with
        | [] => none
        | mark :: next =>
          if mark ≠ unit ':' then none
          else
            match readValue fuel (skipSpace next) with
            | none => none
            | some (value, after) =>
              match skipSpace after with
              | [] => none
              | last :: rest =>
                if last = unit '\x7d' then some ([(name, value)], rest)
                else if last = unit ',' then
                  (readMembers fuel (skipSpace rest)).map fun (members, rest) =>
                    ((name, value) :: members, rest)
                else none

end

def parse (text : Text) : Option Value :=
  match readValue (2 * text.length + 1) (skipSpace text) with
  | some (value, rest) => if (skipSpace rest).isEmpty then some value else none
  | none => none

end Json

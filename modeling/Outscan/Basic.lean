import Mathlib.Data.List.Basic

/-! Values shared by the whole service: identifiers, digests, safe integers. -/
namespace Outscan

def maxSafeInteger : Nat := 9007199254740991

def uint32Max : Nat := 0xffffffff
def uint64Max : Nat := 0xffffffffffffffff

/-- `isPositiveSafeInteger`, on a value already known to be a natural number. -/
def isPositiveSafeInteger (value : Nat) : Bool :=
  decide (0 < value) && decide (value ≤ maxSafeInteger)

theorem isPositiveSafeInteger_iff {value : Nat} :
    isPositiveSafeInteger value = true ↔ 0 < value ∧ value ≤ maxSafeInteger := by
  simp [isPositiveSafeInteger]

def isIdTail (c : Char) : Bool := c.isAlphanum || c == '_' || c == '-'

/-- The pattern `^[A-Za-z0-9][A-Za-z0-9_-]{0,127}$`, which the service and the
tables use for every identifier. -/
def validId (id : String) : Bool :=
  match id.toList with
  | [] => false
  | head :: tail => head.isAlphanum && tail.all isIdTail && decide (tail.length ≤ 127)

/-- The pattern `^[!-~]{1,128}$` of an idempotency key. -/
def validIdempotencyKey (key : String) : Bool :=
  let chars := key.toList
  decide (1 ≤ chars.length) && decide (chars.length ≤ 128) &&
    chars.all fun c => decide ('!' ≤ c) && decide (c ≤ '~')

/-- Thirty-two bytes: a SHA-256 or HMAC-SHA-256 value or a token nonce. The
texts `sha256:<hex>` and `hmac-sha256:<hex>` that the patterns of the service
accept are in bijection with these, and the tables store the bytes. -/
@[ext]
structure Bytes32 where
  bytes : List UInt8
  size : bytes.length = 32
deriving DecidableEq, Repr

/-- The bytes as `Buffer.alloc(32, value)` has them. -/
def Bytes32.fill (value : UInt8) : Bytes32 := ⟨List.replicate 32 value, by simp⟩

def Bytes32.ofBytes? (bytes : List UInt8) : Option Bytes32 :=
  if h : bytes.length = 32 then some ⟨bytes, h⟩ else none

/-- What the code takes from Node: the IDNA mapping, which may throw, the IP
literal test of `node:net`, and HMAC-SHA-256 of a message under a key. -/
structure NodeRuntime where
  domainToASCII : String → Option String
  isIP : String → Nat
  hmacSha256 : List UInt8 → List UInt8 → Bytes32

/-- A reading of an application clock: `none` when it threw or did not return
an integer. -/
abbrev ClockReading := Option Int

/-- `nowValue`: a safe non-negative integer or nothing. -/
def nowValue (reading : ClockReading) : Option Nat :=
  match reading with
  | none => none
  | some value =>
    if 0 ≤ value ∧ value ≤ (maxSafeInteger : Int) then some value.toNat else none

theorem utf8ByteSize_le (text : String) : text.utf8ByteSize ≤ 4 * text.toList.length := by
  have hlist : ∀ chars : List Char, (String.ofList chars).utf8ByteSize ≤ 4 * chars.length := by
    intro chars
    induction chars with
    | nil => simp
    | cons c rest ih =>
      have hc := c.utf8Size_le_four
      rw [String.ofList_cons, String.utf8ByteSize_append, String.utf8ByteSize_singleton,
        List.length_cons]
      omega
  have htext := hlist text.toList
  rwa [String.ofList_toList] at htext

end Outscan

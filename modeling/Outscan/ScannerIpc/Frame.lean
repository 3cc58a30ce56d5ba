import Outscan.GuestCrypto.Binary

/-! The frame around one scanner result: a magic, the payload length in four
big-endian bytes, and the payload. -/
namespace Outscan

def scannerIpcMaxPayloadBytes : Nat := 32 * 1024 * 1024

def scannerIpcMaxTimeoutMs : Nat := 300000

def scannerIpcMaxChunks : Nat := 4096

/-- `SCANNER_IPC_MAGIC`: `OUTSCAN:SCANNER_RESULT:v1`, closed by a zero byte. -/
def scannerIpcMagic : List UInt8 :=
  [79, 85, 84, 83, 67, 65, 78, 58, 83, 67, 65, 78, 78, 69, 82, 95, 82, 69, 83, 85, 76, 84, 58,
    118, 49, 0]

/-- The text the bytes of the magic spell. -/
example : scannerIpcMagic = "OUTSCAN:SCANNER_RESULT:v1\x00".toList.map
    (fun c => UInt8.ofNat c.toNat) := by decide

def scannerIpcHeaderBytes : Nat := scannerIpcMagic.length + 4

inductive ScannerIpcError where
  | invalidIpcContext
  | ipcAborted
  | ipcTimeout
  | ipcStreamError
  | ipcInvalidFrame
  | ipcOutputTooLarge
  | ipcTooFragmented
deriving DecidableEq, Repr

/-- `validLimit`; `none` stands for a value that is not an integer. -/
def validLimit (value : Option Int) : Option Nat :=
  match value with
  | none => none
  | some value =>
    if 0 < value ∧ value ≤ (scannerIpcMaxPayloadBytes : Int) then some value.toNat else none

def hasScannerIpcMagic (header : List UInt8) : Bool :=
  if header.length < scannerIpcMagic.length then false
  else decide (header.take scannerIpcMagic.length = scannerIpcMagic)

/-- `Buffer.readUInt32BE`; too few bytes raise a `RangeError`. -/
def readUInt32BE (bytes : List UInt8) (offset : Nat) : Option Nat :=
  match bytes.drop offset with
  | a :: b :: c :: d :: _ =>
    some (a.toNat * 0x1000000 + b.toNat * 0x10000 + c.toNat * 0x100 + d.toNat)
  | _ => none

def readScannerIpcPayloadLength (header : List UInt8) : Option Nat :=
  if header.length ≠ scannerIpcHeaderBytes || !hasScannerIpcMagic header then none
  else readUInt32BE header scannerIpcMagic.length

def encodeScannerIpcFrame (payload : List UInt8) (maximumBytes : Option Int) :
    Except ScannerIpcError (List UInt8) :=
  match validLimit maximumBytes with
  | none => .error .invalidIpcContext
  | some maximum =>
    if payload.length = 0 ∨ maximum < payload.length then .error .ipcOutputTooLarge
    else
      -- `u32be` cannot throw: a valid limit is far below its bound.
      match u32be payload.length with
      | none => .error .invalidIpcContext
      | some lengthField => .ok (scannerIpcMagic ++ (lengthField ++ payload))

/-- `stream` is the frame of `payload`, and the payload is within the limit. -/
def IsScannerIpcFrame (maximum : Nat) (payload stream : List UInt8) : Prop :=
  (0 < payload.length ∧ payload.length ≤ maximum) ∧
    ∃ lengthField, u32be payload.length = some lengthField ∧
      stream = scannerIpcMagic ++ (lengthField ++ payload)

theorem length_scannerIpcMagic : scannerIpcMagic.length = 26 := rfl

theorem scannerIpcHeaderBytes_eq : scannerIpcHeaderBytes = 30 := rfl

theorem validLimit_eq_some {value : Option Int} {maximum : Nat}
    (h : validLimit value = some maximum) :
    0 < maximum ∧ maximum ≤ scannerIpcMaxPayloadBytes ∧ maximum ≤ uint32Max := by
  cases value with
  | none => cases h
  | some value =>
    simp only [validLimit] at h
    split at h
    · cases h
      unfold scannerIpcMaxPayloadBytes uint32Max at *
      omega
    · cases h

theorem readUInt32BE_of_u32be {value : Nat} {field : List UInt8} (front rest : List UInt8)
    (h : u32be value = some field) :
    readUInt32BE (front ++ (field ++ rest)) front.length = some value := by
  unfold u32be uint32Max at h
  split at h
  · cases h
    simp only [readUInt32BE, List.drop_left, List.cons_append, List.nil_append,
      UInt8.toNat_ofNat', Option.some.injEq]
    omega
  · cases h

theorem u32be_of_readUInt32BE (front : List UInt8) {field : List UInt8} {value : Nat}
    (hfield : field.length = 4)
    (h : readUInt32BE (front ++ field) front.length = some value) :
    u32be value = some field := by
  rw [readUInt32BE, List.drop_left] at h
  match field, hfield with
  | [a, b, c, d], _ =>
    have ha := a.toNat_lt
    have hb := b.toNat_lt
    have hc := c.toNat_lt
    have hd := d.toNat_lt
    simp only [Option.some.injEq] at h
    rw [u32be, uint32Max, if_pos (by omega)]
    simp only [Option.some.injEq, List.cons.injEq, and_true, ← UInt8.toNat_inj,
      UInt8.toNat_ofNat']
    omega

theorem readScannerIpcPayloadLength_eq_some {header : List UInt8} {value : Nat} :
    readScannerIpcPayloadLength header = some value ↔
      ∃ lengthField, u32be value = some lengthField ∧ header = scannerIpcMagic ++ lengthField := by
  constructor
  · intro h
    rw [readScannerIpcPayloadLength] at h
    split at h
    · cases h
    · rename_i hguard
      simp only [hasScannerIpcMagic, Bool.or_eq_true, decide_eq_true_eq, Bool.not_eq_true',
        not_or, not_not, Bool.not_eq_false] at hguard
      obtain ⟨hlength, hmagic⟩ := hguard
      rw [scannerIpcHeaderBytes_eq] at hlength
      rw [if_neg (by rw [length_scannerIpcMagic]; omega)] at hmagic
      have hmagic := of_decide_eq_true hmagic
      have hsplit : header = scannerIpcMagic ++ header.drop scannerIpcMagic.length := by
        conv_lhs => rw [← List.take_append_drop scannerIpcMagic.length header, hmagic]
      have hfield : (header.drop scannerIpcMagic.length).length = 4 := by
        rw [List.length_drop, hlength, length_scannerIpcMagic]
      refine ⟨header.drop scannerIpcMagic.length, ?_, hsplit⟩
      apply u32be_of_readUInt32BE scannerIpcMagic hfield
      rw [← hsplit]
      exact h
  · rintro ⟨lengthField, hfield, rfl⟩
    have hmagic : hasScannerIpcMagic (scannerIpcMagic ++ lengthField) = true := by
      simp [hasScannerIpcMagic]
    have hlength : (scannerIpcMagic ++ lengthField).length = scannerIpcHeaderBytes := by
      rw [List.length_append, length_of_u32be hfield, scannerIpcHeaderBytes]
    rw [readScannerIpcPayloadLength, if_neg (by simp [hmagic, hlength])]
    have hread := readUInt32BE_of_u32be scannerIpcMagic [] hfield
    rwa [List.append_nil] at hread

theorem encodeScannerIpcFrame_ok {payload stream : List UInt8} {maximumBytes : Option Int}
    {maximum : Nat} (hmaximum : validLimit maximumBytes = some maximum) :
    encodeScannerIpcFrame payload maximumBytes = .ok stream ↔
      IsScannerIpcFrame maximum payload stream := by
  have hbound := validLimit_eq_some hmaximum
  rw [encodeScannerIpcFrame, hmaximum]
  dsimp only
  by_cases hsize : payload.length = 0 ∨ maximum < payload.length
  · rw [if_pos hsize]
    constructor
    · intro h
      cases h
    · rintro ⟨hwithin, -⟩
      omega
  · rw [if_neg hsize]
    rw [not_or, Nat.not_lt] at hsize
    have hwithin : 0 < payload.length ∧ payload.length ≤ maximum := by omega
    cases hfield : u32be payload.length with
    | none => simp [IsScannerIpcFrame, hfield]
    | some lengthField => simp [IsScannerIpcFrame, hfield, hwithin, eq_comm]

end Outscan

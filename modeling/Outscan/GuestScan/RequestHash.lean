import Outscan.ResultEnvelope.Codec
import Outscan.Target.AddressLiteral

/-! The hash of a scan request: its canonical host behind a domain. -/
namespace Outscan

/-- `OUTSCAN:GUEST_SCAN_REQUEST:v1`, closed by a zero byte. -/
def scanRequestDomain : List UInt8 := utf8Bytes "OUTSCAN:GUEST_SCAN_REQUEST:v1" ++ [0]

def utf16Units (c : Char) : List Nat :=
  if c.toNat < 0x10000 then [c.toNat]
  else [0xd800 + (c.toNat - 0x10000) / 0x400, 0xdc00 + (c.toNat - 0x10000) % 0x400]

/-- `Buffer.from(text, "ascii")`: the low byte of every code unit. -/
def asciiBytes (text : String) : List UInt8 :=
  (text.toList.flatMap utf16Units).map UInt8.ofNat

/-- What `deriveGuestScanRequestHash` hashes. -/
def guestScanRequestMessage (node : NodeRuntime) (canonicalHost : String) :
    Option (List UInt8) :=
  match canonicalizeHostname node canonicalHost with
  | .error _ => none
  | .ok host =>
    if host ≠ canonicalHost then none
    else (lengthPrefix (asciiBytes canonicalHost)).map fun field => scanRequestDomain ++ field

def deriveGuestScanRequestHash (runtime : EnvelopeRuntime) (canonicalHost : String) :
    Option String :=
  (guestScanRequestMessage runtime.toNodeRuntime canonicalHost).map fun message =>
    digestText (runtime.sha256 message)

theorem flatMap_utf16Units {chars : List Char} (h : ∀ c ∈ chars, c.toNat < 128) :
    chars.flatMap utf16Units = chars.map Char.toNat := by
  induction chars with
  | nil => rfl
  | cons c rest ih =>
    have hc := h c (by simp)
    rw [List.flatMap_cons, utf16Units, if_pos (by omega),
      ih fun d hd => h d (List.mem_cons_of_mem _ hd)]
    rfl

theorem asciiBytes_injective {a b : String} (ha : ∀ c ∈ a.toList, c.toNat < 128)
    (hb : ∀ c ∈ b.toList, c.toNat < 128) (h : asciiBytes a = asciiBytes b) : a = b := by
  have hback : ∀ {text : String}, (∀ c ∈ text.toList, c.toNat < 128) →
      (asciiBytes text).map (fun byte => Char.ofNat byte.toNat) = text.toList := by
    intro text htext
    unfold asciiBytes
    rw [flatMap_utf16Units htext, List.map_map, List.map_map]
    conv_rhs => rw [← List.map_id text.toList]
    apply List.map_congr_left
    intro c hc
    have hlt := htext c hc
    have hbyte : (UInt8.ofNat c.toNat).toNat = c.toNat := Nat.mod_eq_of_lt (by omega)
    simp only [Function.comp_apply, hbyte, Char.ofNat_toNat, id_eq]
  apply String.toList_injective
  rw [← hback ha, h, hback hb]

theorem guestScanRequestMessage_eq_some {node : NodeRuntime} {host : String}
    {message : List UInt8} (h : guestScanRequestMessage node host = some message) :
    (∀ c ∈ host.toList, c.toNat < 128) ∧ ∃ field,
      lengthPrefix (asciiBytes host) = some field ∧ scanRequestDomain ++ field = message := by
  unfold guestScanRequestMessage at h
  split at h
  · cases h
  · rename_i canonical hcanonical
    split at h
    · cases h
    · rename_i hsame
      have hshape := hasValidDnsShape_of_canonicalizeHostname hcanonical
      rw [not_not.mp hsame] at hshape
      refine ⟨fun c hc => ?_, Option.map_eq_some_iff.mp h⟩
      have hchar := isHostChar_of_mem hshape hc
      simp only [isHostChar, isLabelEdge, isLower_eq, Char.isDigit, Bool.or_eq_true,
        Bool.and_eq_true, beq_iff_eq, decide_eq_true_eq, UInt32.le_iff_toNat_le, ge_iff_le] at hchar
      have hz : 'z'.val.toNat = 122 := rfl
      have hnine : '9'.val.toNat = 57 := rfl
      change c.val.toNat < 128
      rcases hchar with ((hlower | hdigit) | rfl) | rfl
      · omega
      · omega
      · decide
      · decide

theorem guestScanRequestMessage_injective {node : NodeRuntime} {a b : String}
    {message : List UInt8} (ha : guestScanRequestMessage node a = some message)
    (hb : guestScanRequestMessage node b = some message) : a = b := by
  obtain ⟨hasciiA, fieldA, hfieldA, hmessageA⟩ := guestScanRequestMessage_eq_some ha
  obtain ⟨hasciiB, fieldB, hfieldB, hmessageB⟩ := guestScanRequestMessage_eq_some hb
  rw [← hmessageB] at hmessageA
  have hfields := List.append_cancel_left hmessageA
  have hbytes := selfDelimiting_lengthPrefix.last hfieldA hfieldB hfields
  exact asciiBytes_injective hasciiA hasciiB hbytes

end Outscan

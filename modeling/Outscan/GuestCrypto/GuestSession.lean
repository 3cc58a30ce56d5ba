import Outscan.ResultEnvelope.Codec
import Outscan.Target.AddressLiteral

/-! The cookie of a Guest session: a version, an id and a MAC over both. -/
namespace Outscan

open Numeral

/-- `OUTSCAN:GUEST_SESSION_COOKIE:v1`, closed by a zero byte. -/
def cookieDomain : List UInt8 := utf8Bytes "OUTSCAN:GUEST_SESSION_COOKIE:v1" ++ [0]

/-- `OUTSCAN:GUEST_SESSION_SCOPE:v1`, closed by a zero byte. -/
def scopeDomain : List UInt8 := utf8Bytes "OUTSCAN:GUEST_SESSION_SCOPE:v1" ++ [0]

def sessionBytes : Nat := 32
def macBytes : Nat := 32

structure SessionRuntime where
  hmacSha256 : List UInt8 → List UInt8 → Bytes32
  sha256 : List UInt8 → Bytes32

/-- A `Map` from key version to key. A `get` that throws is treated like a
missing key. -/
abbrev GuestSessionKeyring := Nat → Option (List UInt8)

structure GuestSessionPrincipal where
  keyVersion : Nat
  guestSessionId : List UInt8
  guestSessionScope : String
deriving DecidableEq, Repr

/-- `encodeGuestSessionMessage`; `none` is the `RangeError`. -/
def encodeGuestSessionMessage (keyVersion : Nat) (guestSessionId : List UInt8) :
    Option (List UInt8) :=
  if guestSessionId.length ≠ sessionBytes then none
  else (u32be keyVersion).map fun version => cookieDomain ++ (version ++ guestSessionId)

/-- What `deriveGuestSessionScope` hashes. -/
def guestSessionScopeMessage (guestSessionId : List UInt8) : Option (List UInt8) :=
  if guestSessionId.length ≠ sessionBytes then none else some (scopeDomain ++ guestSessionId)

def deriveGuestSessionScope (runtime : SessionRuntime) (guestSessionId : List UInt8) :
    Option String :=
  (guestSessionScopeMessage guestSessionId).map fun message => digestText (runtime.sha256 message)

def cookieText (keyVersion : Nat) (guestSessionId mac : List UInt8) : List Char :=
  ['.'].intercalate
    [['v', '1'], Nat.toDigits 10 keyVersion, base64UrlChars guestSessionId, base64UrlChars mac]

/-- `createGuestSessionCookie`; `none` is the `RangeError`. -/
def createGuestSessionCookie (runtime : SessionRuntime) (keyVersion : Nat) (key : List UInt8)
    (guestSessionId : List UInt8) : Option String :=
  if !isValidKey key then none
  else
    (encodeGuestSessionMessage keyVersion guestSessionId).map fun message =>
      String.ofList (cookieText keyVersion guestSessionId (runtime.hmacSha256 key message).bytes)

def verifyGuestSessionCookie (runtime : SessionRuntime) (value : String)
    (keyring : GuestSessionKeyring) : Option GuestSessionPrincipal :=
  if utf16Length value.toList > 256 then none
  else
    match value.toList.splitOn '.' with
    | [scheme, keyVersionText, idText, macText] =>
      if scheme ≠ ['v', '1'] then none
      else if !isDecimal keyVersionText then none
      else
        let keyVersion := Numeral.value 10 keyVersionText
        if !isU32 keyVersion then none
        else
          match decodeCanonicalBase64Url (String.ofList idText),
              decodeCanonicalBase64Url (String.ofList macText), keyring keyVersion with
          | some sessionId, some suppliedMac, some key =>
            if sessionId.length ≠ sessionBytes || suppliedMac.length ≠ macBytes ||
                !isValidKey key then none
            else
              match encodeGuestSessionMessage keyVersion sessionId,
                  deriveGuestSessionScope runtime sessionId with
              | some message, some scope =>
                if suppliedMac = (runtime.hmacSha256 key message).bytes then
                  some ⟨keyVersion, sessionId, scope⟩
                else none
              | _, _ => none
          | _, _, _ => none
    | _ => none

/-! ### The text of a cookie -/

/-- `^[A-Za-z0-9_-]$`. -/
def isBase64UrlChar (c : Char) : Bool := c.isAlphanum || c == '_' || c == '-'

theorem isBase64UrlChar_base64UrlChar {value : Nat} (h : value < 64) :
    isBase64UrlChar (base64UrlChar value) = true := by
  have hall : ∀ n : Fin 64, isBase64UrlChar (base64UrlChar n) = true := by decide
  exact hall ⟨value, h⟩

theorem isBase64UrlChar_of_mem {bytes : List UInt8} :
    ∀ c ∈ base64UrlChars bytes, isBase64UrlChar c = true := by
  induction bytes using base64UrlChars.induct with
  | case1 => simp [base64UrlChars]
  | case2 a =>
    have ha := a.toNat_lt
    simp only [base64UrlChars, List.mem_cons, List.not_mem_nil, or_false]
    rintro c (rfl | rfl)
    · exact isBase64UrlChar_base64UrlChar (by omega)
    · exact isBase64UrlChar_base64UrlChar (by omega)
  | case3 a b =>
    have ha := a.toNat_lt
    have hb := b.toNat_lt
    simp only [base64UrlChars, List.mem_cons, List.not_mem_nil, or_false]
    rintro c (rfl | rfl | rfl)
    · exact isBase64UrlChar_base64UrlChar (by omega)
    · exact isBase64UrlChar_base64UrlChar (by omega)
    · exact isBase64UrlChar_base64UrlChar (by omega)
  | case4 a b c rest ih =>
    have ha := a.toNat_lt
    have hb := b.toNat_lt
    have hc := c.toNat_lt
    simp only [base64UrlChars, List.mem_cons]
    rintro d (rfl | rfl | rfl | rfl | hd)
    · exact isBase64UrlChar_base64UrlChar (by omega)
    · exact isBase64UrlChar_base64UrlChar (by omega)
    · exact isBase64UrlChar_base64UrlChar (by omega)
    · exact isBase64UrlChar_base64UrlChar (by omega)
    · exact ih d hd

theorem ascii_of_isAlphanum {c : Char} (h : c.isAlphanum = true) : c.toNat < 128 := by
  delta Char.isAlphanum Char.isAlpha Char.isUpper Char.isLower Char.isDigit at h
  simp only [Bool.or_eq_true, Bool.and_eq_true, decide_eq_true_eq, UInt32.le_iff_toNat_le,
    ge_iff_le] at h
  have hZ : 'Z'.val.toNat = 90 := rfl
  have hz : 'z'.val.toNat = 122 := rfl
  have hnine : '9'.val.toNat = 57 := rfl
  change c.val.toNat < 128
  omega

theorem ascii_of_isBase64UrlChar {c : Char} (h : isBase64UrlChar c = true) : c.toNat < 128 := by
  simp only [isBase64UrlChar, Bool.or_eq_true, beq_iff_eq] at h
  rcases h with (halpha | rfl) | rfl
  · exact ascii_of_isAlphanum halpha
  · decide
  · decide

theorem dot_not_mem_base64UrlChars (bytes : List UInt8) : '.' ∉ base64UrlChars bytes := by
  intro hdot
  exact absurd (isBase64UrlChar_of_mem '.' hdot) (by decide)

theorem dot_not_mem_toDigits (n : Nat) : '.' ∉ Nat.toDigits 10 n := by
  intro hdot
  exact absurd (isDigit_of_mem_toDigits (by omega) (by omega) n '.' hdot) (by decide)

theorem splitOn_cookieText (keyVersion : Nat) (guestSessionId mac : List UInt8) :
    (cookieText keyVersion guestSessionId mac).splitOn '.' =
      [['v', '1'], Nat.toDigits 10 keyVersion, base64UrlChars guestSessionId,
        base64UrlChars mac] := by
  apply List.splitOn_intercalate
  · simp [dot_not_mem_toDigits, dot_not_mem_base64UrlChars]
  · simp

theorem length_toDigits_le {n : Nat} (h : isU32 n = true) : (Nat.toDigits 10 n).length ≤ 10 := by
  have hle : n ≤ uint32Max := of_decide_eq_true h
  have hmax : uint32Max < 10 ^ 10 := by decide
  exact (Nat.length_toDigits_le_iff (by omega) (by omega)).mpr (by omega)

theorem utf16Length_cookieText {keyVersion : Nat} {guestSessionId mac : List UInt8}
    (hversion : isU32 keyVersion = true) (hid : guestSessionId.length = sessionBytes)
    (hmac : mac.length = macBytes) :
    utf16Length (cookieText keyVersion guestSessionId mac) ≤ 256 := by
  have hascii : ∀ c ∈ cookieText keyVersion guestSessionId mac, c.toNat < 128 := by
    intro c hc
    rcases Ip.mem_intercalate hc with rfl | ⟨part, hpart, hmem⟩
    · decide
    · simp only [List.mem_cons, List.not_mem_nil, or_false] at hpart
      rcases hpart with rfl | rfl | rfl | rfl
      · simp only [List.mem_cons, List.not_mem_nil, or_false] at hmem
        rcases hmem with rfl | rfl <;> decide
      · exact ascii_of_isDigit (isDigit_of_mem_toDigits (by omega) (by omega) _ c hmem)
      · exact ascii_of_isBase64UrlChar (isBase64UrlChar_of_mem c hmem)
      · exact ascii_of_isBase64UrlChar (isBase64UrlChar_of_mem c hmem)
  have hlength : (cookieText keyVersion guestSessionId mac).length ≤ (43 + 1) * 4 := by
    refine length_intercalate_le '.' fun part hpart => ?_
    have hdigits := length_toDigits_le hversion
    simp only [List.mem_cons, List.not_mem_nil, or_false] at hpart
    rcases hpart with rfl | rfl | rfl | rfl
    · decide
    · omega
    · rw [length_base64UrlChars, hid]
      decide
    · rw [length_base64UrlChars, hmac]
      decide
  rw [utf16Length_eq_length hascii]
  omega

/-! ### Verification -/

theorem u32be_eq_some_of_isU32 {value : Nat} (h : isU32 value = true) :
    ∃ bytes, u32be value = some bytes := by
  have hle : value ≤ uint32Max := of_decide_eq_true h
  rw [u32be, if_pos hle]
  exact ⟨_, rfl⟩

theorem encodeGuestSessionMessage_eq_some {keyVersion : Nat} {guestSessionId message : List UInt8} :
    encodeGuestSessionMessage keyVersion guestSessionId = some message ↔
      guestSessionId.length = sessionBytes ∧ ∃ version, u32be keyVersion = some version ∧
        cookieDomain ++ (version ++ guestSessionId) = message := by
  unfold encodeGuestSessionMessage
  by_cases hlength : guestSessionId.length = sessionBytes
  · rw [if_neg (not_not_intro hlength), Option.map_eq_some_iff]
    simp only [hlength, true_and]
  · rw [if_pos hlength]
    simp [hlength]

theorem isU32_of_u32be {value : Nat} {bytes : List UInt8} (h : u32be value = some bytes) :
    isU32 value = true := by
  unfold u32be at h
  split at h
  · rename_i hle
    exact decide_eq_true hle
  · cases h

theorem createGuestSessionCookie_eq_some {runtime : SessionRuntime} {keyVersion : Nat}
    {key guestSessionId : List UInt8} {value : String} :
    createGuestSessionCookie runtime keyVersion key guestSessionId = some value ↔
      isValidKey key = true ∧ ∃ message,
        encodeGuestSessionMessage keyVersion guestSessionId = some message ∧
        value = String.ofList
          (cookieText keyVersion guestSessionId (runtime.hmacSha256 key message).bytes) := by
  unfold createGuestSessionCookie
  by_cases hkey : isValidKey key = true
  · rw [if_neg (by simp [hkey]), Option.map_eq_some_iff]
    simp only [hkey, true_and, eq_comm]
  · rw [if_pos (by simpa using hkey)]
    simp [hkey]

theorem ne_nil_of_length {bytes : List UInt8} {count : Nat} (h : bytes.length = count)
    (hpos : 0 < count) : bytes ≠ [] := by
  rintro rfl
  rw [List.length_nil] at h
  omega

/-- Exactly the cookies that are made under the keyring are accepted. -/
theorem verifyGuestSessionCookie_eq_some {runtime : SessionRuntime} {value : String}
    {keyring : GuestSessionKeyring} {principal : GuestSessionPrincipal} :
    verifyGuestSessionCookie runtime value keyring = some principal ↔
      ∃ key, keyring principal.keyVersion = some key ∧
        createGuestSessionCookie runtime principal.keyVersion key principal.guestSessionId =
          some value ∧
        deriveGuestSessionScope runtime principal.guestSessionId =
          some principal.guestSessionScope := by
  constructor
  · intro h
    unfold verifyGuestSessionCookie at h
    split at h
    · cases h
    · split at h
      · rename_i scheme keyVersionText idText macText hsplit
        split at h
        · cases h
        · rename_i hscheme
          split at h
          · cases h
          · rename_i hdecimal
            dsimp only at h
            split at h
            · cases h
            · split at h
              · rename_i sessionId suppliedMac key hid hmac hkey
                split at h
                · cases h
                · rename_i hshape
                  split at h
                  · rename_i message scope hmessage hscope
                    split at h
                    · rename_i hsame
                      cases h
                      have hjoin : ['.'].intercalate (value.toList.splitOn '.') = value.toList :=
                        List.intercalate_splitOn '.'
                      have hidText := congrArg String.toList
                        (decodeCanonicalBase64Url_eq_some.mp hid).1
                      have hmacText := congrArg String.toList
                        (decodeCanonicalBase64Url_eq_some.mp hmac).1
                      simp only [encodeBase64Url, String.toList_ofList] at hidText hmacText
                      simp only [Bool.or_eq_true, Bool.not_eq_true', not_or,
                        Bool.not_eq_false] at hshape
                      refine ⟨key, hkey, createGuestSessionCookie_eq_some.mpr
                        ⟨hshape.2, message, hmessage, ?_⟩, hscope⟩
                      have hdigits := toDigits_value (show isDecimal keyVersionText = true by
                        simpa using hdecimal)
                      rw [hsplit, not_not.mp hscheme, hidText, hmacText, hsame] at hjoin
                      rw [cookieText, hdigits, hjoin, String.ofList_toList]
                    · cases h
                  · cases h
              · cases h
      · cases h
  · rintro ⟨key, hkey, hcreate, hscope⟩
    obtain ⟨hvalid, message, hmessage, rfl⟩ := createGuestSessionCookie_eq_some.mp hcreate
    obtain ⟨hlength, version, hversion, -⟩ := encodeGuestSessionMessage_eq_some.mp hmessage
    have hu32 := isU32_of_u32be hversion
    have hmacLength := (runtime.hmacSha256 key message).size
    have hshort := utf16Length_cookieText hu32 hlength hmacLength
    have hid : decodeCanonicalBase64Url (String.ofList (base64UrlChars principal.guestSessionId)) =
        some principal.guestSessionId :=
      decodeCanonicalBase64Url_eq_some.mpr ⟨rfl, ne_nil_of_length hlength (by decide)⟩
    have hmac : decodeCanonicalBase64Url (String.ofList (base64UrlChars
        (runtime.hmacSha256 key message).bytes)) = some (runtime.hmacSha256 key message).bytes :=
      decodeCanonicalBase64Url_eq_some.mpr ⟨rfl, ne_nil_of_length hmacLength (by decide)⟩
    unfold verifyGuestSessionCookie
    rw [String.toList_ofList, if_neg (by omega), splitOn_cookieText]
    simp only [isDecimal_toDigits, value_toDigits (show 1 < 10 by omega) (show 10 ≤ 16 by omega),
      hu32, hid, hmac, hkey, hmessage, hscope, hlength, hmacLength, hvalid]
    simp [macBytes]

end Outscan

import Outscan.GuestCrypto.GuestSession

/-! Guest sessions in HTTP headers: the `Set-Cookie` header that issues one and
the `Cookie` header that brings it back. -/
namespace Outscan

open Numeral

def guestSessionCookieName : List Char := "__Host-outscan_guest_session".toList
def guestSessionMaxAgeSeconds : Nat := 24 * 60 * 60
def maxCookieHeaderBytes : Nat := 8192
def maxCookiePairs : Nat := 64

/-- `GUEST_SESSION_SET_COOKIE_ATTRIBUTES`. -/
def setCookieAttributes : List (List Char) :=
  ["Max-Age=".toList ++ Nat.toDigits 10 guestSessionMaxAgeSeconds, "Path=/".toList,
    "Secure".toList, "HttpOnly".toList, "SameSite=Lax".toList]

/-- `COOKIE_NAME`, for one character. -/
def isCookieNameChar (c : Char) : Bool :=
  c.isAlphanum || "!#$%&'*+.^_`|~-".toList.contains c

/-- `COOKIE_VALUE`, for one character: printable, but no blank, quote, comma,
semicolon or backslash. -/
def isCookieValueChar (c : Char) : Bool :=
  let n := c.toNat
  n == 0x21 || (decide (0x23 ≤ n) && decide (n ≤ 0x2b)) ||
    (decide (0x2d ≤ n) && decide (n ≤ 0x3a)) || (decide (0x3c ≤ n) && decide (n ≤ 0x5b)) ||
    (decide (0x5d ≤ n) && decide (n ≤ 0x7e))

/-- `[\0\r\n]`. -/
def isHeaderBreak (c : Char) : Bool := c.toNat == 0 || c.toNat == 13 || c.toNat == 10

def isBlank (c : Char) : Bool := c == '\t' || c == ' '

def trimBlanks (text : List Char) : List Char :=
  ((text.dropWhile isBlank).reverse.dropWhile isBlank).reverse

inductive CookieHeader where
  | undefined
  | text (header : String)
  | other

inductive ParsedCookie where
  | found (value : List Char)
  | missing
  | invalid
  | ambiguous
deriving DecidableEq, Repr

/-- The name and the value of a pair, cut at its first `=`. -/
def splitPair (pair : List Char) : Option (List Char × List Char) :=
  match pair.dropWhile (· ≠ '=') with
  | [] => none
  | _ :: value =>
    let name := pair.takeWhile (· ≠ '=')
    if name.isEmpty then none else some (name, value)

def scanPairs (guestValue : Option (List Char)) : List (List Char) → ParsedCookie
  | [] =>
    match guestValue with
    | none => .missing
    | some value => .found value
  | rawPair :: rest =>
    match splitPair (trimBlanks rawPair) with
    | none => .invalid
    | some (name, value) =>
      if !name.all isCookieNameChar || !value.all isCookieValueChar then .invalid
      else if name ≠ guestSessionCookieName then scanPairs guestValue rest
      else if guestValue.isSome then .ambiguous
      else scanPairs (some value) rest

def parseGuestCookie : CookieHeader → ParsedCookie
  | .undefined => .missing
  | .other => .invalid
  | .text header =>
    if header.toList = [] || decide ((utf8Bytes header).length > maxCookieHeaderBytes) ||
        header.toList.any isHeaderBreak then .invalid
    else
      let pairs := header.toList.splitOn ';'
      if pairs.length > maxCookiePairs then .invalid else scanPairs none pairs

/-- `issueGuestSessionCookieHeader`; `none` is the failure. Without an id, random
bytes are taken. -/
def issueGuestSessionCookieHeader (runtime : SessionRuntime) (randomBytes : List UInt8)
    (activeKeyVersion : Nat) (activeKey : List UInt8) (guestSessionId : Option (List UInt8)) :
    Option String :=
  (createGuestSessionCookie runtime activeKeyVersion activeKey
    (guestSessionId.getD randomBytes)).map fun value =>
      String.ofList ([';', ' '].intercalate
        ((guestSessionCookieName ++ '=' :: value.toList) :: setCookieAttributes))

/-- `split("; ")`. -/
def splitSegments : List Char → List (List Char)
  | [] => [[]]
  | ';' :: ' ' :: rest => [] :: splitSegments rest
  | c :: rest =>
    match splitSegments rest with
    | [] => [[c]]
    | segment :: segments => (c :: segment) :: segments

/-- `^[A-Za-z0-9_-]{43}$`. -/
def isToken43 (text : List Char) : Bool := decide (text.length = 43) && text.all isBase64UrlChar

def isGuestSessionSetCookieHeader (value : CookieHeader) : Bool :=
  match value with
  | .text header =>
    if header.toList.any isHeaderBreak then false
    else
      match splitSegments header.toList with
      | pair :: attributes =>
        if attributes ≠ setCookieAttributes then false
        else if !(guestSessionCookieName ++ ['=']).isPrefixOf pair then false
        else
          match (pair.drop (guestSessionCookieName.length + 1)).splitOn '.' with
          | [scheme, versionText, idText, macText] =>
            if scheme ≠ ['v', '1'] || !(isDecimal versionText && decide (versionText.length ≤ 10)) ||
                !isToken43 idText || !isToken43 macText then false
            else
              isU32 (Numeral.value 10 versionText) &&
                (decodeCanonicalBase64Url (String.ofList idText)).any (·.length == 32) &&
                (decodeCanonicalBase64Url (String.ofList macText)).any (·.length == 32)
          | _ => false
      | [] => false
  | _ => false

structure AuthenticatedGuestSession where
  keyVersion : Nat
  guestSessionScope : String
deriving DecidableEq, Repr

inductive GuestSessionAuthenticationResult where
  | ok (session : AuthenticatedGuestSession)
  | missingGuestSession
  | invalidCookieHeader
  | ambiguousGuestSession
  | invalidGuestSession
  | revokedGuestSession
deriving DecidableEq, Repr

/-- What follows once the value of the Guest cookie is found. The revocation check
may throw. -/
def authenticateCookieValue (runtime : SessionRuntime) (keyring : GuestSessionKeyring)
    (isRevoked : String → Option Bool) (value : List Char) : GuestSessionAuthenticationResult :=
  match verifyGuestSessionCookie runtime (String.ofList value) keyring with
  | none => .invalidGuestSession
  | some principal =>
    match isRevoked principal.guestSessionScope with
    | none => .invalidGuestSession
    | some true => .revokedGuestSession
    | some false => .ok ⟨principal.keyVersion, principal.guestSessionScope⟩

def authenticateGuestSessionCookieHeader (runtime : SessionRuntime) (cookieHeader : CookieHeader)
    (keyring : GuestSessionKeyring) (isRevoked : String → Option Bool) :
    GuestSessionAuthenticationResult :=
  match parseGuestCookie cookieHeader with
  | .missing => .missingGuestSession
  | .invalid => .invalidCookieHeader
  | .ambiguous => .ambiguousGuestSession
  | .found value => authenticateCookieValue runtime keyring isRevoked value

/-! ### The pairs of a header -/

structure CookiePair where
  before : List Char
  name : List Char
  value : List Char
  after : List Char
  before_blank : before.all isBlank = true
  name_nonempty : name ≠ []
  name_valid : name.all isCookieNameChar = true
  value_valid : value.all isCookieValueChar = true
  after_blank : after.all isBlank = true

def CookiePair.text (pair : CookiePair) : List Char :=
  pair.before ++ (pair.name ++ '=' :: pair.value) ++ pair.after

def guestValues (pairs : List CookiePair) : List (List Char) :=
  (pairs.filter fun pair => decide (pair.name = guestSessionCookieName)).map CookiePair.value

theorem not_isBlank_of {p : Char → Bool} (hspace : p ' ' = false) (htab : p '\t' = false) {c : Char}
    (h : p c = true) : isBlank c = false := by
  cases hblank : isBlank c with
  | false => rfl
  | true =>
    simp only [isBlank, Bool.or_eq_true, beq_iff_eq] at hblank
    rcases hblank with rfl | rfl
    · rw [htab] at h
      cases h
    · rw [hspace] at h
      cases h

theorem trimBlanks_append {before text after : List Char} (hbefore : before.all isBlank = true)
    (hafter : after.all isBlank = true) (hhead : ∀ c ∈ text.head?, isBlank c = false)
    (hlast : ∀ c ∈ text.getLast?, isBlank c = false) (hne : text ≠ []) :
    trimBlanks (before ++ text ++ after) = text := by
  have hdrop : ∀ {blanks rest : List Char}, blanks.all isBlank = true →
      (∀ c ∈ rest.head?, isBlank c = false) → (blanks ++ rest).dropWhile isBlank = rest := by
    intro blanks rest hblanks hrest
    rw [List.dropWhile_append_of_pos (List.all_eq_true.mp hblanks)]
    cases rest with
    | nil => rfl
    | cons c others =>
      have hc : isBlank c = false := hrest c rfl
      rw [List.dropWhile_cons, hc]
      rfl
  have hhead' : ∀ c ∈ (text ++ after).head?, isBlank c = false := by
    rw [List.head?_append_of_ne_nil _ hne]
    exact hhead
  have hafter' : after.reverse.all isBlank = true := by
    rw [List.all_reverse]
    exact hafter
  unfold trimBlanks
  rw [List.append_assoc, hdrop hbefore hhead', List.reverse_append,
    hdrop hafter' (by rwa [List.head?_reverse]), List.reverse_reverse]

theorem trimBlanks_text (pair : CookiePair) :
    trimBlanks pair.text = pair.name ++ '=' :: pair.value := by
  obtain ⟨first, rest, hname⟩ := List.exists_cons_of_ne_nil pair.name_nonempty
  refine trimBlanks_append pair.before_blank pair.after_blank (fun c hc => ?_) (fun c hc => ?_)
    (by simp)
  · have hmem : c ∈ pair.name := by
      rw [hname] at hc ⊢
      cases hc
      exact List.mem_cons_self
    exact not_isBlank_of rfl rfl (List.all_eq_true.mp pair.name_valid c hmem)
  · have hlast : (pair.name ++ '=' :: pair.value).getLast? = ('=' :: pair.value).getLast? :=
      List.getLast?_append_of_ne_nil _ (by simp)
    rw [hlast] at hc
    rcases List.mem_cons.mp (List.mem_of_getLast? hc) with rfl | hvalue
    · decide
    · exact not_isBlank_of rfl rfl (List.all_eq_true.mp pair.value_valid c hvalue)

theorem splitPair_text (pair : CookiePair) :
    splitPair (trimBlanks pair.text) = some (pair.name, pair.value) := by
  have hname : ∀ c ∈ pair.name, decide (c ≠ '=') = true := by
    intro c hc
    rw [decide_eq_true_eq]
    rintro rfl
    exact absurd (List.all_eq_true.mp pair.name_valid _ hc) (by decide)
  rw [trimBlanks_text]
  unfold splitPair
  rw [List.dropWhile_append_of_pos hname, List.takeWhile_append_of_pos hname]
  simp [pair.name_nonempty]

theorem scanPairs_eq (guestValue : Option (List Char)) (pairs : List CookiePair) :
    scanPairs guestValue (pairs.map CookiePair.text) =
      match guestValue.toList ++ guestValues pairs with
      | [] => .missing
      | [value] => .found value
      | _ => .ambiguous := by
  induction pairs generalizing guestValue with
  | nil => cases guestValue <;> rfl
  | cons pair rest ih =>
    rw [List.map_cons, scanPairs, splitPair_text]
    simp only [pair.name_valid, pair.value_valid, Bool.not_true, Bool.or_self,
      Bool.false_eq_true, if_false]
    by_cases hname : pair.name = guestSessionCookieName
    · rw [if_neg (not_not_intro hname)]
      have hvalues : guestValues (pair :: rest) = pair.value :: guestValues rest := by
        simp [guestValues, hname]
      rw [hvalues]
      cases guestValue with
      | none =>
        rw [if_neg (by simp), ih]
        rfl
      | some value => rfl
    · rw [if_pos hname, ih]
      have hvalues : guestValues (pair :: rest) = guestValues rest := by
        simp [guestValues, hname]
      rw [hvalues]

theorem not_isHeaderBreak_of_text {pair : CookiePair} {c : Char} (hc : c ∈ pair.text) :
    isHeaderBreak c = false := by
  cases hbreak : isHeaderBreak c with
  | false => rfl
  | true =>
    simp only [isHeaderBreak, Bool.or_eq_true, beq_iff_eq] at hbreak
    have hsmall : c = Char.ofNat 0 ∨ c = Char.ofNat 13 ∨ c = Char.ofNat 10 := by
      rw [← Char.ofNat_toNat c]
      rcases hbreak with (h | h) | h <;> rw [h] <;> decide
    have hnot : ¬ (isBlank c = true ∨ isCookieNameChar c = true ∨ c = '=' ∨
        isCookieValueChar c = true) := by
      rcases hsmall with rfl | rfl | rfl <;> decide
    refine absurd ?_ hnot
    simp only [CookiePair.text, List.mem_append, List.mem_cons] at hc
    rcases hc with (hbefore | hname | rfl | hvalue) | hafter
    · exact .inl (List.all_eq_true.mp pair.before_blank c hbefore)
    · exact .inr (.inl (List.all_eq_true.mp pair.name_valid c hname))
    · exact .inr (.inr (.inl rfl))
    · exact .inr (.inr (.inr (List.all_eq_true.mp pair.value_valid c hvalue)))
    · exact .inl (List.all_eq_true.mp pair.after_blank c hafter)

theorem parseGuestCookie_eq {header : String} {pairs : List CookiePair}
    (hpairs : header.toList.splitOn ';' = pairs.map CookiePair.text)
    (hfew : pairs.length ≤ maxCookiePairs)
    (hshort : (utf8Bytes header).length ≤ maxCookieHeaderBytes) :
    parseGuestCookie (.text header) =
      match guestValues pairs with
      | [] => .missing
      | [value] => .found value
      | _ => .ambiguous := by
  have hjoin : [';'].intercalate (header.toList.splitOn ';') = header.toList :=
    List.intercalate_splitOn ';'
  have hne : header.toList ≠ [] := by
    intro hnil
    rw [hnil] at hpairs
    cases pairs with
    | nil => cases hpairs
    | cons pair rest =>
      have hempty : pair.text = [] := (List.cons.inj hpairs).1.symm
      simp [CookiePair.text] at hempty
  have hbreak : header.toList.any isHeaderBreak = false := by
    rw [List.any_eq_false]
    intro c hc
    rw [← hjoin, hpairs] at hc
    rw [Bool.not_eq_true]
    rcases Ip.mem_intercalate hc with rfl | ⟨text, htext, hmem⟩
    · decide
    · obtain ⟨pair, -, rfl⟩ := List.mem_map.mp htext
      exact not_isHeaderBreak_of_text hmem
  have hshape : ¬ (decide (header.toList = []) ||
      decide ((utf8Bytes header).length > maxCookieHeaderBytes) ||
      header.toList.any isHeaderBreak) = true := by
    simp only [hbreak, hne, decide_false, Bool.false_or, Bool.or_false, decide_eq_true_eq]
    omega
  unfold parseGuestCookie
  dsimp only
  rw [if_neg hshape, hpairs, List.length_map, if_neg (by omega), scanPairs_eq]
  rfl

/-! ### The header that issues a session -/

theorem splitSegments_cons {c : Char} (h : c ≠ ';') {rest segment : List Char}
    {segments : List (List Char)} (hrest : splitSegments rest = segment :: segments) :
    splitSegments (c :: rest) = (c :: segment) :: segments := by
  rw [splitSegments]
  · rw [hrest]
  · intro others heq
    exact absurd heq h

theorem splitSegments_eq_singleton {text : List Char} (h : ';' ∉ text) :
    splitSegments text = [text] := by
  induction text with
  | nil => rfl
  | cons c rest ih =>
    rw [List.mem_cons, not_or] at h
    exact splitSegments_cons (Ne.symm h.1) (ih h.2)

theorem splitSegments_append {segment rest : List Char} (h : ';' ∉ segment) :
    splitSegments (segment ++ ';' :: ' ' :: rest) = segment :: splitSegments rest := by
  induction segment with
  | nil => rfl
  | cons c others ih =>
    rw [List.mem_cons, not_or] at h
    exact splitSegments_cons (Ne.symm h.1) (ih h.2)

theorem splitSegments_intercalate {segments : List (List Char)} (h : ∀ s ∈ segments, ';' ∉ s)
    (hne : segments ≠ []) : splitSegments ([';', ' '].intercalate segments) = segments := by
  induction segments with
  | nil => exact absurd rfl hne
  | cons segment rest ih =>
    have hsegment := h segment (by simp)
    cases rest with
    | nil =>
      rw [List.intercalate_singleton]
      exact splitSegments_eq_singleton hsegment
    | cons next others =>
      rw [List.intercalate_cons_cons, List.append_assoc, List.cons_append, List.cons_append,
        List.nil_append, splitSegments_append hsegment,
        ih (fun s hs => h s (List.mem_cons_of_mem _ hs)) (by simp)]

theorem mem_intercalate_segments {segments : List (List Char)} {c : Char}
    (h : c ∈ [';', ' '].intercalate segments) : c = ';' ∨ c = ' ' ∨ ∃ s ∈ segments, c ∈ s := by
  induction segments with
  | nil => cases h
  | cons segment rest ih =>
    cases rest with
    | nil =>
      rw [List.intercalate_singleton] at h
      exact .inr (.inr ⟨segment, by simp, h⟩)
    | cons next others =>
      rw [List.intercalate_cons_cons, List.append_assoc, List.mem_append] at h
      rcases h with hsegment | hrest
      · exact .inr (.inr ⟨segment, by simp, hsegment⟩)
      · simp only [List.cons_append, List.nil_append, List.mem_cons] at hrest
        rcases hrest with rfl | rfl | hrest
        · exact .inl rfl
        · exact .inr (.inl rfl)
        · rcases ih hrest with hsemi | hblank | ⟨s, hs, hmem⟩
          · exact .inl hsemi
          · exact .inr (.inl hblank)
          · exact .inr (.inr ⟨s, List.mem_cons_of_mem _ hs, hmem⟩)

theorem mem_cookieText {keyVersion : Nat} {guestSessionId mac : List UInt8} {c : Char}
    (hc : c ∈ cookieText keyVersion guestSessionId mac) : c = '.' ∨ isBase64UrlChar c = true := by
  rcases Ip.mem_intercalate hc with rfl | ⟨part, hpart, hmem⟩
  · exact .inl rfl
  · right
    simp only [List.mem_cons, List.not_mem_nil, or_false] at hpart
    rcases hpart with rfl | rfl | rfl | rfl
    · simp only [List.mem_cons, List.not_mem_nil, or_false] at hmem
      rcases hmem with rfl | rfl <;> decide
    · obtain ⟨digit, hdigit, -, rfl⟩ :=
        digitChar_of_isDigit_ten (isDigit_of_mem_toDigits (by omega) (by omega) keyVersion c hmem)
      have hall : ∀ n : Fin 10, isBase64UrlChar (Nat.digitChar n) = true := by decide
      exact hall ⟨digit, hdigit⟩
    · exact isBase64UrlChar_of_mem c hmem
    · exact isBase64UrlChar_of_mem c hmem

theorem isToken43_base64UrlChars {bytes : List UInt8} (h : bytes.length = 32) :
    isToken43 (base64UrlChars bytes) = true := by
  rw [isToken43, length_base64UrlChars, h, Bool.and_eq_true, List.all_eq_true]
  exact ⟨rfl, isBase64UrlChar_of_mem⟩

theorem isGuestSessionSetCookieHeader_issue {runtime : SessionRuntime} {randomBytes : List UInt8}
    {activeKeyVersion : Nat} {activeKey : List UInt8} {guestSessionId : Option (List UInt8)}
    {header : String}
    (h : issueGuestSessionCookieHeader runtime randomBytes activeKeyVersion activeKey
      guestSessionId = some header) :
    isGuestSessionSetCookieHeader (.text header) = true := by
  obtain ⟨value, hvalue, rfl⟩ := Option.map_eq_some_iff.mp h
  obtain ⟨-, message, hmessage, rfl⟩ := createGuestSessionCookie_eq_some.mp hvalue
  obtain ⟨hid, version, hversion, -⟩ := encodeGuestSessionMessage_eq_some.mp hmessage
  have hu32 := isU32_of_u32be hversion
  generalize guestSessionId.getD randomBytes = id at *
  have hmac := (runtime.hmacSha256 activeKey message).size
  generalize (runtime.hmacSha256 activeKey message).bytes = mac at *
  rw [String.toList_ofList]
  let pair := guestSessionCookieName ++ '=' :: cookieText activeKeyVersion id mac
  have hpair : ∀ c ∈ pair, c ≠ ';' ∧ isHeaderBreak c = false := by
    intro c hc
    rcases List.mem_append.mp hc with hname | hrest
    · have hall : guestSessionCookieName.all (fun c => c != ';' && !isHeaderBreak c) = true := by
        decide +kernel
      simpa using List.all_eq_true.mp hall c hname
    · rcases List.mem_cons.mp hrest with rfl | hcookie
      · decide
      · rcases mem_cookieText hcookie with rfl | hchar
        · decide
        · refine ⟨?_, ?_⟩
          · rintro rfl
            exact absurd hchar (by decide)
          · cases hbreak : isHeaderBreak c with
            | false => rfl
            | true =>
              simp only [isHeaderBreak, Bool.or_eq_true, beq_iff_eq] at hbreak
              have hsmall : c = Char.ofNat 0 ∨ c = Char.ofNat 13 ∨ c = Char.ofNat 10 := by
                rw [← Char.ofNat_toNat c]
                rcases hbreak with (h | h) | h <;> rw [h] <;> decide
              rcases hsmall with rfl | rfl | rfl <;> exact absurd hchar (by decide)
  have hattributes : ∀ s ∈ setCookieAttributes, ∀ c ∈ s, c ≠ ';' ∧ isHeaderBreak c = false := by
    have hall : setCookieAttributes.all (·.all fun c => c != ';' && !isHeaderBreak c) = true := by
      decide +kernel
    intro s hs c hc
    simpa using List.all_eq_true.mp (List.all_eq_true.mp hall s hs) c hc
  have hsegments : splitSegments ([';', ' '].intercalate (pair :: setCookieAttributes)) =
      pair :: setCookieAttributes := by
    refine splitSegments_intercalate (fun s hs hmem => ?_) (by simp)
    rcases List.mem_cons.mp hs with rfl | hattribute
    · exact (hpair _ hmem).1 rfl
    · exact (hattributes s hattribute _ hmem).1 rfl
  have hbreak : ([';', ' '].intercalate (pair :: setCookieAttributes)).any isHeaderBreak =
      false := by
    rw [List.any_eq_false]
    intro c hc
    rw [Bool.not_eq_true]
    rcases mem_intercalate_segments hc with rfl | rfl | ⟨s, hs, hmem⟩
    · decide
    · decide
    · rcases List.mem_cons.mp hs with rfl | hattribute
      · exact (hpair c hmem).2
      · exact (hattributes s hattribute c hmem).2
  have hstart : (guestSessionCookieName ++ ['=']).isPrefixOf pair = true := by
    rw [List.isPrefixOf_iff_prefix]
    exact ⟨cookieText activeKeyVersion id mac, by simp [pair]⟩
  have hdrop : pair.drop (guestSessionCookieName.length + 1) =
      cookieText activeKeyVersion id mac := by
    simp [pair]
  have hdecode : ∀ {bytes : List UInt8}, bytes.length = 32 →
      decodeCanonicalBase64Url (String.ofList (base64UrlChars bytes)) = some bytes :=
    fun hlength => decodeCanonicalBase64Url_eq_some.mpr
      ⟨rfl, ne_nil_of_length hlength (by decide)⟩
  unfold isGuestSessionSetCookieHeader
  dsimp only
  rw [String.toList_ofList, hbreak, if_neg (by decide), hsegments]
  simp only [hstart, hdrop, splitOn_cookieText, isDecimal_toDigits, length_toDigits_le hu32,
    isToken43_base64UrlChars hid, isToken43_base64UrlChars hmac, hdecode hid, hdecode hmac,
    value_toDigits (show 1 < 10 by omega) (show 10 ≤ 16 by omega), hu32]
  simp [hid, hmac, sessionBytes]

/-! ### The cookie comes back as it was issued -/

/-- The cookies that verify under a keyring are exactly those that are made under
it, each for one version and one id; every issued header has the issued form; and of
a header of well-formed pairs, only the values of those with the Guest name count. -/
theorem guestCookie (runtime : SessionRuntime) :
    (∀ value keyring principal, verifyGuestSessionCookie runtime value keyring = some principal ↔
      ∃ version key id, isU32 version = true ∧ keyring version = some key ∧
        32 ≤ key.length ∧ id.length = 32 ∧
        createGuestSessionCookie runtime version key id = some value ∧
        principal.keyVersion = version ∧ principal.guestSessionId = id ∧
        deriveGuestSessionScope runtime id = some principal.guestSessionScope) ∧
    (∀ randomBytes version key id header,
      issueGuestSessionCookieHeader runtime randomBytes version key id = some header →
      isGuestSessionSetCookieHeader (.text header) = true) ∧
    ∀ (header : String) (pairs : List CookiePair) keyring isRevoked,
      header.toList.splitOn ';' = pairs.map CookiePair.text → pairs.length ≤ 64 →
      (utf8Bytes header).length ≤ 8192 →
      authenticateGuestSessionCookieHeader runtime (.text header) keyring isRevoked =
        match guestValues pairs with
        | [] => .missingGuestSession
        | [value] => authenticateCookieValue runtime keyring isRevoked value
        | _ => .ambiguousGuestSession := by
  refine ⟨fun value keyring principal => ?_, fun randomBytes version key id header h =>
    isGuestSessionSetCookieHeader_issue h, fun header pairs keyring isRevoked hpairs hfew hshort => ?_⟩
  · rw [verifyGuestSessionCookie_eq_some]
    constructor
    · rintro ⟨key, hkey, hcreate, hscope⟩
      obtain ⟨hvalid, message, hmessage, -⟩ := createGuestSessionCookie_eq_some.mp hcreate
      obtain ⟨hlength, bytes, hversion, -⟩ := encodeGuestSessionMessage_eq_some.mp hmessage
      exact ⟨_, key, _, isU32_of_u32be hversion, hkey, of_decide_eq_true hvalid, hlength, hcreate,
        rfl, rfl, hscope⟩
    · rintro ⟨_, key, _, -, hkey, -, -, hcreate, rfl, rfl, hscope⟩
      exact ⟨key, hkey, hcreate, hscope⟩
  · unfold authenticateGuestSessionCookieHeader
    rw [parseGuestCookie_eq hpairs hfew hshort]
    match guestValues pairs with
    | [] => rfl
    | [_] => rfl
    | _ :: _ :: _ => rfl

end Outscan

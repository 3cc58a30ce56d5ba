import Outscan.Target.AddressLiteral

/-! A canonical host is canonical again, and it is the name of a host. -/
namespace Outscan

/-! ### Plain characters -/

def Printable (c : Char) : Prop := 0x21 ≤ c.toNat ∧ c.toNat ≤ 0x7e

instance : DecidablePred Printable := fun _ => inferInstanceAs (Decidable (_ ∧ _))

theorem printable_of_isAlphanum {c : Char} (h : c.isAlphanum = true) : Printable c := by
  have hranges : (65 ≤ c.toNat ∧ c.toNat ≤ 90 ∨ 97 ≤ c.toNat ∧ c.toNat ≤ 122) ∨
      48 ≤ c.toNat ∧ c.toNat ≤ 57 := by
    delta Char.isAlphanum Char.isAlpha Char.isUpper Char.isLower Char.isDigit at h
    simpa [UInt32.le_iff_toNat_le] using h
  unfold Printable
  omega

theorem printable_of_isHostChar {c : Char} (h : isHostChar c = true) : Printable c := by
  simp only [isHostChar, isLabelEdge, Bool.or_eq_true, beq_iff_eq] at h
  rcases h with ((hlower | hdigit) | rfl) | rfl
  · have halphanum : c.isAlphanum = (c.isUpper || c.isLower || c.isDigit) := rfl
    exact printable_of_isAlphanum (by simp [halphanum, hlower])
  · have halphanum : c.isAlphanum = (c.isAlpha || c.isDigit) := rfl
    exact printable_of_isAlphanum (by simp [halphanum, hdigit])
  · exact ⟨by decide, by decide⟩
  · exact ⟨by decide, by decide⟩

theorem isJsSpace_of_printable {c : Char} (h : Printable c) : isJsSpace c = false := by
  obtain ⟨hlow, hhigh⟩ := h
  rw [Bool.eq_false_iff]
  intro hspace
  simp only [isJsSpace, Bool.or_eq_true, Bool.and_eq_true, decide_eq_true_eq, beq_iff_eq] at hspace
  omega

theorem jsTrim_of_printable {text : List Char} (h : ∀ c ∈ text, Printable c) :
    jsTrim text = text := by
  have hdrop : ∀ other : List Char, (∀ c ∈ other, Printable c) →
      other.dropWhile isJsSpace = other := by
    intro other hother
    cases other with
    | nil => rfl
    | cons c rest =>
      have hc := isJsSpace_of_printable (hother c List.mem_cons_self)
      exact List.dropWhile_cons_of_neg (by simp [hc])
  rw [jsTrim, hdrop text h, hdrop text.reverse fun c hc => h c (List.mem_reverse.mp hc),
    List.reverse_reverse]

/-! ### What is accepted -/

/-- The labels of a host: letters and digits, with hyphens only inside. -/
def IsLabel (label : List Char) : Prop :=
  1 ≤ label.length ∧ label.length ≤ 63 ∧
    (∀ c ∈ label, c.isLower = true ∨ c.isDigit = true ∨ c = '-') ∧
    label.head? ≠ some '-' ∧ label.getLast? ≠ some '-'

theorem isLabel_of_isHostLabel {label : List Char} (h : isHostLabel label = true) :
    IsLabel label := by
  simp only [isHostLabel, Bool.and_eq_true, decide_eq_true_eq, List.all_eq_true] at h
  obtain ⟨⟨⟨⟨hpos, hle⟩, hchars⟩, hhead⟩, hlast⟩ := h
  have hedge : ¬ isLabelEdge '-' = true := by decide
  refine ⟨hpos, hle, fun c hc => ?_, fun hdash => ?_, fun hdash => ?_⟩
  · simpa [isLabelEdge, or_assoc] using hchars c hc
  · rw [hdash] at hhead
    exact hedge hhead
  · rw [hdash] at hlast
    exact hedge hlast

/-- The text is a number as some programs write a part of an address: digits, or
`0x` and hexadecimal digits. -/
def IsNumericPart (part : List Char) : Prop :=
  part ≠ [] ∧ (∀ c ∈ part, c.isDigit = true) ∨
    ∃ x digits, part = '0' :: x :: digits ∧ x.toLower = 'x' ∧ digits ≠ [] ∧
      ∀ c ∈ digits, isHexDigit c = true

theorem isIpPart_of_isNumericPart {part : List Char} (h : IsNumericPart part) :
    isIpPart part = true := by
  rcases h with ⟨hne, hdigits⟩ | ⟨x, digits, rfl, hx, hne, hdigits⟩
  · match part, hne with
    | [c], _ => exact hdigits c List.mem_cons_self
    | first :: second :: digits, _ =>
      rw [isIpPart, List.all_eq_true.mpr hdigits, Bool.or_true]
  · rw [isIpPart, hx, List.all_eq_true.mpr hdigits]
    simp [hne]

theorem isNumericPart_not_dot {part : List Char} (h : IsNumericPart part) : '.' ∉ part := by
  intro hdot
  rcases h with ⟨-, hdigits⟩ | ⟨x, digits, rfl, hx, -, hdigits⟩
  · exact absurd (hdigits '.' hdot) (by decide)
  · rcases List.mem_cons.mp hdot with hzero | hrest
    · exact absurd hzero (by decide)
    · rcases List.mem_cons.mp hrest with rfl | hmem
      · exact absurd hx (by decide)
      · exact absurd (hdigits '.' hmem) (by decide)

theorem isIpLiteralish_of_parts {parts : List (List Char)} (hne : parts ≠ [])
    (hlength : parts.length ≤ 4) (hparts : ∀ part ∈ parts, IsNumericPart part) :
    isIpLiteralish (['.'].intercalate parts) = true := by
  rw [isIpLiteralish, List.splitOn_intercalate '.' (fun part hpart =>
    isNumericPart_not_dot (hparts part hpart)) hne]
  simp only [Bool.and_eq_true, decide_eq_true_eq, List.all_eq_true]
  exact ⟨hlength, fun part hpart => isIpPart_of_isNumericPart (hparts part hpart)⟩

theorem not_literal_of_isIpLiteral {node : NodeRuntime} {text : List Char}
    (hdot : text.getLast? ≠ some '.') (hbracket : text.head? ≠ some '[')
    (h : isIpLiteral node text = false) :
    node.isIP (String.ofList text) = 0 ∧ isIpLiteralish text = false := by
  have hplain : withoutTrailingDot text = text := if_neg hdot
  simp only [isIpLiteral, hplain] at h
  split at h
  · cases h
  · rename_i hzero
    rw [if_neg (fun hboth => hbracket hboth.1)] at h
    exact ⟨not_not.mp hzero, h⟩

/-! ### Accepting a canonical host again -/

theorem jsLower_of_isHostChar {c : Char} (h : isHostChar c = true) : jsLower c = c := by
  have hplain := (printable_of_isHostChar h).2
  rw [jsLower, if_neg (by omega), toLower_of_isHostChar h]

theorem not_mem_of_hasValidDnsShape {text : List Char} (h : hasValidDnsShape text = true) {c : Char}
    (hc : isHostChar c = false) : c ∉ text := by
  intro hmem
  rw [isHostChar_of_mem h hmem] at hc
  cases hc

theorem hasUrlScheme_eq_false {text : List Char} (h : ':' ∉ text) : hasUrlScheme text = false := by
  cases text with
  | nil => rfl
  | cons first rest =>
    rw [hasUrlScheme, Bool.and_eq_false_iff]
    right
    rw [beq_eq_false_iff_ne]
    intro htake
    have hmem : ':' ∈ (rest.dropWhile fun c => isLetterFolded c || c.isDigit || c == '+' ||
        c == '.' || c == '-').take 3 := by
      rw [htake]
      exact List.mem_cons_self
    exact h (List.mem_cons_of_mem _ ((List.dropWhile_sublist _).subset (List.mem_of_mem_take hmem)))

/-- A text of the shape of a host that the mapping leaves alone is canonical. -/
theorem canonicalizeHostname_fixed {node : NodeRuntime} {host : String}
    (hshape : hasValidDnsShape host.toList = true) (hliteral : isIpLiteral node host.toList = false)
    (hmap : node.domainToASCII host = some host) : canonicalizeHostname node host = .ok host := by
  have hprintable : ∀ c ∈ host.toList, Printable c := fun c hc =>
    printable_of_isHostChar (isHostChar_of_mem hshape hc)
  have hlength : utf16Length host.toList = host.toList.length :=
    utf16Length_eq_length fun c hc => Nat.lt_of_le_of_lt (hprintable c hc).2 (by decide)
  have hbound : ¬ utf16Length host.toList > maxRawTargetLength := by
    have hle := length_le_of_hasValidDnsShape hshape
    rw [hlength, maxRawTargetLength]
    rw [maxHostnameLength] at hle
    omega
  have hne : host.toList.isEmpty = false := by
    rw [List.isEmpty_eq_false_iff]
    intro hnil
    rw [hnil] at hshape
    exact absurd hshape (by decide)
  have hpath : host.toList.any (fun c => ['/', '?', '#', '\\'].contains c) = false := by
    rw [List.any_eq_false]
    intro c hc hmem
    have hchar := isHostChar_of_mem hshape hc
    simp only [List.contains_iff_mem, List.mem_cons, List.not_mem_nil, or_false] at hmem
    rcases hmem with rfl | rfl | rfl | rfl <;> exact absurd hchar (by decide)
  have hspace : host.toList.any isJsSpace = false := by
    rw [List.any_eq_false]
    intro c hc
    rw [isJsSpace_of_printable (hprintable c hc)]
    decide
  have hat : host.toList.contains '@' = false := by
    simpa using not_mem_of_hasValidDnsShape hshape (c := '@') (by decide)
  have hcolon := not_mem_of_hasValidDnsShape hshape (c := ':') (by decide)
  have hlower : host.toList.map jsLower = host.toList := by
    conv_rhs => rw [← List.map_id host.toList]
    exact List.map_congr_left fun c hc => jsLower_of_isHostChar (isHostChar_of_mem hshape hc)
  have hdot : withoutTrailingDot host.toList = host.toList := if_neg (getLast?_ne_dot hshape)
  unfold canonicalizeHostname
  simp only [jsTrim_of_printable hprintable, hbound, hne, hasUrlScheme_eq_false hcolon, hat, hpath,
    hspace, hliteral, String.ofList_toList, hmap, hlower, hdot, hshape, if_false,
    Bool.false_eq_true, Bool.not_true]
  rw [if_neg (by simpa using hcolon)]

/-- An accepted host is a name made of labels, no address in any spelling, and
accepted again as it is if the mapping leaves its own results alone. -/
theorem canonicalizeHostname_canonical {node : NodeRuntime} {input host : String}
    (h : canonicalizeHostname node input = .ok host) :
    (∃ labels : List (List Char), labels ≠ [] ∧ (∀ label ∈ labels, IsLabel label) ∧
      host.toList = ['.'].intercalate labels) ∧
    1 ≤ host.toList.length ∧ host.toList.length ≤ 253 ∧ host.toList.getLast? ≠ some '.' ∧
    (∀ c ∈ [':', '/', '?', '#', '\\', '@', '[', ']', ' '], c ∉ host.toList) ∧
    node.isIP host = 0 ∧
    (∀ parts : List (List Char), parts ≠ [] → parts.length ≤ 4 →
      (∀ part ∈ parts, IsNumericPart part) → host.toList ≠ ['.'].intercalate parts) ∧
    ((∀ target ascii, node.domainToASCII target = some ascii →
        hasValidDnsShape (withoutTrailingDot (ascii.toList.map jsLower)) = true →
        node.domainToASCII (String.ofList (withoutTrailingDot (ascii.toList.map jsLower))) =
          some (String.ofList (withoutTrailingDot (ascii.toList.map jsLower)))) →
      canonicalizeHostname node host = .ok host) := by
  obtain ⟨ascii, hascii, hhost, hliteral, hshape⟩ := canonicalizeHostname_ok h
  have hbracket : host.toList.head? ≠ some '[' := by
    intro hhead
    exact not_mem_of_hasValidDnsShape hshape (by decide) (List.mem_of_mem_head? hhead)
  obtain ⟨hzero, hparts⟩ :=
    not_literal_of_isIpLiteral (getLast?_ne_dot hshape) hbracket hliteral
  refine ⟨?_, ?_, length_le_of_hasValidDnsShape hshape, getLast?_ne_dot hshape, ?_, ?_, ?_, ?_⟩
  · refine ⟨host.toList.splitOn '.', List.splitOn_ne_nil _ _, fun label hlabel => ?_,
      (List.intercalate_splitOn '.').symm⟩
    simp only [hasValidDnsShape, Bool.and_eq_true, List.all_eq_true] at hshape
    exact isLabel_of_isHostLabel (hshape.2 label hlabel)
  · simp only [hasValidDnsShape, Bool.and_eq_true, decide_eq_true_eq] at hshape
    exact hshape.1.1
  · intro c hc
    apply not_mem_of_hasValidDnsShape hshape
    simp only [List.mem_cons, List.not_mem_nil, or_false] at hc
    rcases hc with rfl | rfl | rfl | rfl | rfl | rfl | rfl | rfl | rfl <;> decide
  · rwa [String.ofList_toList] at hzero
  · intro parts hne hlength hnumeric heq
    rw [heq, isIpLiteralish_of_parts hne hlength hnumeric] at hparts
    cases hparts
  · intro hidna
    rw [hhost] at hshape hliteral ⊢
    rw [String.toList_ofList] at hshape
    exact canonicalizeHostname_fixed (by rwa [String.toList_ofList]) hliteral
      (hidna _ ascii hascii hshape)

def sampleNodeRuntime : NodeRuntime where
  domainToASCII domain := some (String.ofList (domain.toList.map Char.toLower))
  isIP _ := 0
  hmacSha256 _ _ := .fill 0

theorem canonicalizeHostname_canonical_sample :
    canonicalizeHostname sampleNodeRuntime "www.example.org" = .ok "www.example.org" := by
  have haccepted : canonicalizeHostname sampleNodeRuntime " WWW.Example.org." =
      .ok "www.example.org" := by
    decide +kernel
  apply (canonicalizeHostname_canonical haccepted).2.2.2.2.2.2.2
  intro target ascii _ hshape
  have hlower : ∀ text : List Char, hasValidDnsShape text = true → text.map Char.toLower = text := by
    intro text htext
    conv_rhs => rw [← List.map_id text]
    exact List.map_congr_left fun c hc => toLower_of_isHostChar (isHostChar_of_mem htext hc)
  simp only [sampleNodeRuntime, String.toList_ofList, hlower _ hshape]

end Outscan

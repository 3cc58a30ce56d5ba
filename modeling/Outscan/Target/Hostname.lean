import Mathlib.Algebra.Ring.Nat
import Mathlib.Data.List.Basic
import Outscan.Basic

/-! The canonical form of a scan target. -/
namespace Outscan

def maxRawTargetLength : Nat := 1024
def maxHostnameLength : Nat := 253
def maxLabelLength : Nat := 63

inductive HostnameRejectionCode where
  | emptyTarget | targetTooLong | urlNotAllowed | userinfoNotAllowed | pathNotAllowed
  | portNotAllowed | ipLiteralNotAllowed | invalidIdna | invalidHostname
deriving DecidableEq, Repr

def utf16Length (text : List Char) : Nat :=
  (text.map fun c => if c.toNat < 0x10000 then 1 else 2).sum

/-- What `trim` removes and `\s` matches. -/
def isJsSpace (c : Char) : Bool :=
  let n := c.toNat
  (decide (0x9 ≤ n) && decide (n ≤ 0xd)) || n == 0x20 || n == 0xa0 || n == 0x1680 ||
    (decide (0x2000 ≤ n) && decide (n ≤ 0x200a)) || n == 0x2028 || n == 0x2029 ||
    n == 0x202f || n == 0x205f || n == 0x3000 || n == 0xfeff

def jsTrim (text : List Char) : List Char :=
  ((text.dropWhile isJsSpace).reverse.dropWhile isJsSpace).reverse

/-- `[a-z]` under the flags `iu`, which fold U+017F to `s` and U+212A to `k`. -/
def isLetterFolded (c : Char) : Bool := c.isAlpha || c.toNat == 0x17f || c.toNat == 0x212a

/-- `^[a-z][a-z0-9+.-]*://` under the flags `iu`. -/
def hasUrlScheme (target : List Char) : Bool :=
  match target with
  | [] => false
  | first :: rest =>
    isLetterFolded first &&
      (rest.dropWhile fun c => isLetterFolded c || c.isDigit || c == '+' || c == '.' ||
        c == '-').take 3 == [':', '/', '/']

def isHexDigit (c : Char) : Bool :=
  c.isDigit || (decide ('a' ≤ c.toLower) && decide (c.toLower ≤ 'f'))

/-- `0x[0-9a-f]+|[0-9]+` under the flag `i`. -/
def isIpPart (part : List Char) : Bool :=
  match part with
  | [] => false
  | [c] => c.isDigit
  | first :: second :: digits =>
    (first == '0' && second.toLower == 'x' && !digits.isEmpty && digits.all isHexDigit) ||
      part.all Char.isDigit

/-- `IP_LITERALISH`. -/
def isIpLiteralish (text : List Char) : Bool :=
  let parts := text.splitOn '.'
  decide (parts.length ≤ 4) && parts.all isIpPart

def withoutTrailingDot (text : List Char) : List Char :=
  if text.getLast? = some '.' then text.dropLast else text

def isIpLiteral (node : NodeRuntime) (value : List Char) : Bool :=
  let plain := withoutTrailingDot value
  if node.isIP (String.ofList plain) ≠ 0 then true
  else if value.head? = some '[' ∧ value.getLast? = some ']' then
    node.isIP (String.ofList (value.drop 1).dropLast) ≠ 0
  else isIpLiteralish plain

def isLabelEdge (c : Char) : Bool := c.isLower || c.isDigit

/-- `HOST_LABEL`, together with the length of a label. -/
def isHostLabel (label : List Char) : Bool :=
  decide (0 < label.length) && decide (label.length ≤ maxLabelLength) &&
    label.all (fun c => isLabelEdge c || c == '-') &&
    label.head?.any isLabelEdge && label.getLast?.any isLabelEdge

def hasValidDnsShape (hostname : List Char) : Bool :=
  decide (0 < hostname.length) && decide (hostname.length ≤ maxHostnameLength) &&
    (hostname.splitOn '.').all isHostLabel

/-- `toLowerCase` as far as a host can still be accepted afterwards: U+212A is
the only other letter whose lower case is in `[a-z0-9.-]`. -/
def jsLower (c : Char) : Char := if c.toNat = 0x212a then 'k' else c.toLower

def canonicalizeHostname (node : NodeRuntime) (input : String) :
    Except HostnameRejectionCode String :=
  let raw := input.toList
  let target := jsTrim raw
  if utf16Length raw > maxRawTargetLength then .error .targetTooLong
  else if target.isEmpty then .error .emptyTarget
  else if utf16Length target > maxRawTargetLength then .error .targetTooLong
  else if hasUrlScheme target then .error .urlNotAllowed
  else if target.contains '@' then .error .userinfoNotAllowed
  else if target.any (fun c => ['/', '?', '#', '\\'].contains c) then .error .pathNotAllowed
  else if target.any isJsSpace then .error .invalidHostname
  else if isIpLiteral node target then .error .ipLiteralNotAllowed
  else if target.contains ':' then .error .portNotAllowed
  else
    match node.domainToASCII (String.ofList target) with
    | none => .error .invalidIdna
    | some ascii =>
      let asciiHostname := ascii.toList.map jsLower
      let canonicalHost := withoutTrailingDot asciiHostname
      if asciiHostname.isEmpty then .error .invalidIdna
      else if isIpLiteral node canonicalHost then .error .ipLiteralNotAllowed
      else if !hasValidDnsShape canonicalHost then .error .invalidHostname
      else .ok (String.ofList canonicalHost)

theorem guard_eq_ok {condition : Prop} [Decidable condition] {ε α : Type} {error : ε}
    {rest : Except ε α} {value : α} :
    (if condition then .error error else rest) = .ok value ↔
      ¬ condition ∧ rest = .ok value := by
  split
  · rename_i h
    simp only [reduceCtorEq, h, not_true, false_and]
  · rename_i h
    simp only [h, not_false_eq_true, true_and]

theorem canonicalizeHostname_ok {node : NodeRuntime} {input host : String}
    (h : canonicalizeHostname node input = .ok host) :
    ∃ ascii, node.domainToASCII (String.ofList (jsTrim input.toList)) = some ascii ∧
      host = String.ofList (withoutTrailingDot (ascii.toList.map jsLower)) ∧
      isIpLiteral node host.toList = false ∧ hasValidDnsShape host.toList = true := by
  unfold canonicalizeHostname at h
  simp only [guard_eq_ok] at h
  obtain ⟨-, -, -, -, -, -, -, -, -, h⟩ := h
  cases hascii : node.domainToASCII (String.ofList (jsTrim input.toList)) with
  | none => simp [hascii] at h
  | some ascii =>
    simp only [hascii, guard_eq_ok, Except.ok.injEq] at h
    obtain ⟨-, hliteral, hshape, rfl⟩ := h
    refine ⟨ascii, rfl, rfl, ?_, ?_⟩
    · rw [String.toList_ofList]
      simpa using hliteral
    · rw [String.toList_ofList]
      simpa using hshape

theorem hasValidDnsShape_of_canonicalizeHostname {node : NodeRuntime} {input host : String}
    (h : canonicalizeHostname node input = .ok host) :
    hasValidDnsShape host.toList = true := by
  obtain ⟨ascii, -, -, -, hshape⟩ := canonicalizeHostname_ok h
  exact hshape

/-! ### What DNS shape says about single characters -/

private theorem mem_intercalate {c : Char} (parts : List (List Char))
    (h : c ∈ List.intercalate ['.'] parts) : c = '.' ∨ ∃ part ∈ parts, c ∈ part := by
  induction parts with
  | nil => simp [List.intercalate] at h
  | cons part rest ih =>
    cases rest with
    | nil =>
      have hc : c ∈ part := by simpa [List.intercalate] using h
      exact .inr ⟨part, by simp, hc⟩
    | cons next others =>
      rw [List.intercalate_cons_cons] at h
      rcases List.mem_append.mp h with hfirst | hrest
      · rcases List.mem_append.mp hfirst with hpart | hdot
        · exact .inr ⟨part, by simp, hpart⟩
        · exact .inl (List.mem_singleton.mp hdot)
      · rcases ih hrest with hdot | ⟨other, hother, hc⟩
        · exact .inl hdot
        · exact .inr ⟨other, List.mem_cons_of_mem _ hother, hc⟩

private theorem getLast?_intercalate (parts : List (List Char)) (hparts : ∀ p ∈ parts, p ≠ [])
    (hne : parts ≠ []) :
    ∃ part ∈ parts, (List.intercalate ['.'] parts).getLast? = part.getLast? := by
  induction parts with
  | nil => exact absurd rfl hne
  | cons part rest ih =>
    cases rest with
    | nil => exact ⟨part, by simp, by simp [List.intercalate]⟩
    | cons next others =>
      obtain ⟨last, hlast, heq⟩ := ih (fun p hp => hparts p (List.mem_cons_of_mem _ hp)) (by simp)
      refine ⟨last, List.mem_cons_of_mem _ hlast, ?_⟩
      have hnonempty : last.getLast? ≠ none := by
        simpa using hparts last (List.mem_cons_of_mem _ hlast)
      rw [List.intercalate_cons_cons, List.getLast?_append, heq]
      cases hl : last.getLast? with
      | none => exact absurd hl hnonempty
      | some c => rfl

def isHostChar (c : Char) : Bool := isLabelEdge c || c == '-' || c == '.'

theorem isHostChar_of_mem {hostname : List Char} (h : hasValidDnsShape hostname = true)
    {c : Char} (hc : c ∈ hostname) : isHostChar c = true := by
  simp only [hasValidDnsShape, Bool.and_eq_true, List.all_eq_true] at h
  have hjoin : ['.'].intercalate (hostname.splitOn '.') = hostname := List.intercalate_splitOn '.'
  rw [← hjoin] at hc
  rcases mem_intercalate _ hc with hdot | ⟨part, hpart, hmem⟩
  · simp [isHostChar, hdot]
  · have hlabel := h.2 part hpart
    simp only [isHostLabel, Bool.and_eq_true, List.all_eq_true] at hlabel
    have hchar := hlabel.1.1.2 c hmem
    simp only [isHostChar, hchar, Bool.true_or]

theorem length_le_of_hasValidDnsShape {hostname : List Char}
    (h : hasValidDnsShape hostname = true) : hostname.length ≤ maxHostnameLength := by
  simp only [hasValidDnsShape, Bool.and_eq_true, decide_eq_true_eq] at h
  exact h.1.2

theorem getLast?_ne_dot {hostname : List Char} (h : hasValidDnsShape hostname = true) :
    hostname.getLast? ≠ some '.' := by
  simp only [hasValidDnsShape, Bool.and_eq_true, List.all_eq_true] at h
  have hlabel : ∀ part ∈ hostname.splitOn '.', isHostLabel part = true := h.2
  have hnonempty : ∀ part ∈ hostname.splitOn '.', part ≠ [] := by
    intro part hpart hempty
    have := hlabel part hpart
    simp [hempty, isHostLabel] at this
  obtain ⟨part, hpart, hlast⟩ :=
    getLast?_intercalate _ hnonempty (List.splitOn_ne_nil '.' hostname)
  rw [List.intercalate_splitOn] at hlast
  rw [hlast]
  have hedge := hlabel part hpart
  simp only [isHostLabel, Bool.and_eq_true] at hedge
  intro hdot
  rw [hdot] at hedge
  simp [isLabelEdge] at hedge

theorem isLower_eq (c : Char) :
    c.isLower = (decide (c.val ≥ 'a'.val) && decide (c.val ≤ 'z'.val)) := rfl

theorem toLower_of_isHostChar {c : Char} (h : isHostChar c = true) : c.toLower = c := by
  have hupper : ¬ (c.val ≥ 65 ∧ c.val ≤ 90) := by
    simp only [isHostChar, isLabelEdge, isLower_eq, Char.isDigit, Bool.or_eq_true,
      Bool.and_eq_true, decide_eq_true_eq, beq_iff_eq] at h
    rcases h with (((h | h) | h) | h)
    · grind
    · grind
    · subst h
      decide
    · subst h
      decide
  unfold Char.toLower
  rw [dif_neg]
  simpa using hupper

end Outscan

import Outscan.Library.Json.Reading
import Outscan.Target.Hostname

/-! The scan of a JSON text for repeated names and deep nesting, which runs in front
of `JSON.parse`. -/
namespace Outscan

open Json

/-- What `\s` matches, on a code unit. -/
def isJsSpaceUnit (u : UInt16) : Bool := isJsSpace (Char.ofNat u.toNat)

/-- An entry of the stack: an array, or an object with the names seen in it. -/
inductive KeyContext where
  | array
  | object (keys : List Text)
deriving DecidableEq, Repr

def closingQuote : Bool → Text → Option (Text × Text)
  | _, [] => none
  | true, current :: rest =>
    (closingQuote false rest).map fun (raw, after) => (current :: raw, after)
  | false, current :: rest =>
    if current = unit '\\' then
      (closingQuote true rest).map fun (raw, after) => (current :: raw, after)
    else if current = unit '"' then some ([], rest)
    else (closingQuote false rest).map fun (raw, after) => (current :: raw, after)

theorem closingQuote_length {escaped : Bool} {text raw after : Text}
    (h : closingQuote escaped text = some (raw, after)) : after.length < text.length := by
  fun_induction closingQuote escaped text generalizing raw after
  case case4 =>
    cases h
    exact Nat.lt_succ_self _
  all_goals
    first
    | cases h
    | rename_i ih
      obtain ⟨⟨found, rest⟩, hfound, heq⟩ := Option.map_eq_some_iff.mp h
      cases heq
      exact Nat.lt_succ_of_lt (ih hfound)

def colonFollows (after : Text) : Bool := (after.dropWhile isJsSpaceUnit).head? == some (unit ':')

/-- The outer loop, with at most `limit` entries on the stack. -/
def scanKeys (limit : Nat) (stack : List KeyContext) (text : Text) : Bool :=
  match text with
  | [] => stack.isEmpty
  | character :: rest =>
    if character = unit '\x7b' then
      if stack.length + 1 > limit then false else scanKeys limit (.object [] :: stack) rest
    else if character = unit '[' then
      if stack.length + 1 > limit then false else scanKeys limit (.array :: stack) rest
    else if character = unit '\x7d' ∨ character = unit ']' then scanKeys limit stack.tail rest
    else if character ≠ unit '"' then scanKeys limit stack rest
    else
      match h : closingQuote false rest with
      | none => false
      | some (raw, after) =>
        have := closingQuote_length h
        match colonFollows after, stack with
        | true, .object keys :: outer =>
          match parse (character :: raw ++ [unit '"']) with
          | some (.string key) =>
            if keys.contains key then false else scanKeys limit (.object (key :: keys) :: outer) after
          | _ => false
        | _, stack => scanKeys limit stack after
termination_by text.length
decreasing_by all_goals simp only [List.length_cons]; omega

def hasUniqueJsonKeys (limit : Nat) (text : Text) : Bool := scanKeys limit [] text

def guestMaxJsonDepth : Nat := 32
def trustedFileMaxJsonDepth : Nat := 16

def guestHasUniqueJsonKeys (text : Text) : Bool := hasUniqueJsonKeys guestMaxJsonDepth text

def trustedFileHasUniqueJsonKeys (text : Text) : Bool :=
  hasUniqueJsonKeys trustedFileMaxJsonDepth text

/-! ### One step of the scan -/

def isOrdinary (u : UInt16) : Bool :=
  u != unit '\x7b' && u != unit '[' && u != unit '\x7d' && u != unit ']' && u != unit '"'

section

variable (limit : Nat) (stack : List KeyContext)

theorem scanKeys_ordinary {u : UInt16} (h : isOrdinary u = true) (rest : Text) :
    scanKeys limit stack (u :: rest) = scanKeys limit stack rest := by
  simp only [isOrdinary, Bool.and_eq_true, bne_iff_ne] at h
  obtain ⟨⟨⟨⟨hbrace, hbracket⟩, hcloseBrace⟩, hcloseBracket⟩, hquote⟩ := h
  rw [scanKeys, if_neg hbrace, if_neg hbracket, if_neg (not_or.mpr ⟨hcloseBrace, hcloseBracket⟩),
    if_pos hquote]

theorem scanKeys_front {front : Text} (h : ∀ u ∈ front, isOrdinary u = true) (rest : Text) :
    scanKeys limit stack (front ++ rest) = scanKeys limit stack rest := by
  induction front with
  | nil => rfl
  | cons u front ih =>
    rw [List.cons_append, scanKeys_ordinary limit stack (h u (List.mem_cons_self ..)),
      ih fun v hv => h v (List.mem_cons_of_mem _ hv)]

theorem isOrdinary_of_isSpace {u : UInt16} (h : isSpace u = true) : isOrdinary u = true := by
  simp only [isSpace, Bool.or_eq_true, beq_iff_eq] at h
  rcases h with ((rfl | rfl) | rfl) | rfl <;> decide

theorem scanKeys_skipSpace (text : Text) :
    scanKeys limit stack (skipSpace text) = scanKeys limit stack text := by
  obtain ⟨space, htext, hspace⟩ := exists_space text
  conv_rhs => rw [htext]
  exact (scanKeys_front limit stack (fun u hu => isOrdinary_of_isSpace (hspace u hu)) _).symm

theorem scanKeys_openObject (rest : Text) :
    scanKeys limit stack (unit '\x7b' :: rest) = true ↔
      stack.length + 1 ≤ limit ∧ scanKeys limit (.object [] :: stack) rest = true := by
  rw [scanKeys, if_pos rfl]
  split
  · simp only [Bool.false_eq_true, false_iff]
    omega
  · exact ⟨fun h => ⟨by omega, h⟩, fun h => h.2⟩

theorem scanKeys_openArray (rest : Text) :
    scanKeys limit stack (unit '[' :: rest) = true ↔
      stack.length + 1 ≤ limit ∧ scanKeys limit (.array :: stack) rest = true := by
  rw [scanKeys, if_neg (by decide), if_pos rfl]
  split
  · simp only [Bool.false_eq_true, false_iff]
    omega
  · exact ⟨fun h => ⟨by omega, h⟩, fun h => h.2⟩

theorem scanKeys_close (context : KeyContext) {u : UInt16} (h : u = unit '\x7d' ∨ u = unit ']')
    (rest : Text) : scanKeys limit (context :: stack) (u :: rest) = scanKeys limit stack rest := by
  have hbrace : u ≠ unit '\x7b' := by rcases h with rfl | rfl <;> decide
  have hbracket : u ≠ unit '[' := by rcases h with rfl | rfl <;> decide
  rw [scanKeys, if_neg hbrace, if_neg hbracket, if_pos h, List.tail_cons]

/-! ### Strings -/

theorem closingQuote_quotable {raw : Text} (h : Quotable raw = true) (after : Text) :
    closingQuote false (raw ++ unit '"' :: after) = some (raw, after) := by
  fun_induction Quotable raw
  case case1 =>
    rw [List.nil_append, closingQuote, if_neg (by decide), if_pos rfl]
  case case2 => cases h
  case case3 e rest ih =>
    rw [List.cons_append, List.cons_append, closingQuote, if_pos rfl, closingQuote, ih h]
    rfl
  case case4 u rest hback ih =>
    rw [Bool.and_eq_true, bne_iff_ne] at h
    rw [List.cons_append, closingQuote, if_neg hback, if_neg h.1, ih h.2]
    rfl

theorem parse_slice {raw value : Text}
    (hraw : ∀ tail, readString (raw ++ unit '"' :: tail) = some (value, tail)) :
    parse (unit '"' :: raw ++ [unit '"']) = some (.string value) := by
  refine parse_eq_some.mpr ⟨[], ?_, rfl⟩
  have hskip : skipSpace (unit '"' :: raw ++ [unit '"']) = unit '"' :: (raw ++ [unit '"']) := rfl
  rw [hskip]
  exact .string (hraw [])

variable {text value after : Text} (hstring : readString text = some (value, after))
include hstring

theorem scanKeys_string :
    scanKeys limit stack (unit '"' :: text) =
      match colonFollows after, stack with
      | true, .object keys :: outer =>
        if keys.contains value then false else scanKeys limit (.object (value :: keys) :: outer) after
      | _, stack => scanKeys limit stack after := by
  obtain ⟨raw, rfl, hquotable, hraw⟩ := readString_split hstring
  rw [scanKeys, if_neg (by decide), if_neg (by decide), if_neg (by decide), if_neg (by simp)]
  split
  · rename_i hnone
    rw [closingQuote_quotable hquotable] at hnone
    cases hnone
  · rename_i found rest hfound
    rw [closingQuote_quotable hquotable] at hfound
    cases hfound
    rw [parse_slice hraw]

theorem scanKeys_text (h : colonFollows after = false) :
    scanKeys limit stack (unit '"' :: text) = scanKeys limit stack after := by
  rw [scanKeys_string limit stack hstring, h]

theorem scanKeys_key {keys : List Text} (h : colonFollows after = true) :
    scanKeys limit (.object keys :: stack) (unit '"' :: text) = true ↔
      value ∉ keys ∧ scanKeys limit (.object (value :: keys) :: stack) after = true := by
  rw [scanKeys_string limit _ hstring, h]
  dsimp only
  split
  · rename_i hseen
    simp only [Bool.false_eq_true, false_iff, not_and]
    exact fun hnew => absurd (List.contains_iff_mem.mp hseen) hnew
  · rename_i hseen
    rw [List.contains_iff_mem] at hseen
    exact ⟨fun hscan => ⟨hseen, hscan⟩, fun hscan => hscan.2⟩

end

/-! ### What follows a string -/

theorem isJsSpaceUnit_of_isSpace {u : UInt16} (h : isSpace u = true) : isJsSpaceUnit u = true := by
  simp only [isSpace, Bool.or_eq_true, beq_iff_eq] at h
  rcases h with ((rfl | rfl) | rfl) | rfl <;> decide

theorem colonFollows_skipSpace (after : Text) :
    colonFollows (skipSpace after) = colonFollows after := by
  have hdrop : (skipSpace after).dropWhile isJsSpaceUnit = after.dropWhile isJsSpaceUnit := by
    induction after with
    | nil => rfl
    | cons u rest ih =>
      cases hspace : isSpace u with
      | false => rw [skipSpace, List.dropWhile_cons_of_neg (by simp [hspace])]
      | true =>
        rw [skipSpace, List.dropWhile_cons_of_pos hspace,
          List.dropWhile_cons_of_pos (isJsSpaceUnit_of_isSpace hspace)]
        exact ih
  rw [colonFollows, hdrop, colonFollows]

theorem colonFollows_of_skipSpace {after rest : Text} {u : UInt16} (h : skipSpace after = u :: rest)
    (hspace : isJsSpaceUnit u = false) : colonFollows after = (u == unit ':') := by
  rw [← colonFollows_skipSpace, h, colonFollows, List.dropWhile_cons_of_neg (by simp [hspace]),
    List.head?_cons]
  rfl

theorem colonFollows_of_end {after : Text} (h : skipSpace after = []) :
    colonFollows after = false := by
  rw [← colonFollows_skipSpace, h]
  rfl

/-! ### The whole grammar -/

theorem isOrdinary_of_isNumeric {u : UInt16} (h : isNumeric u = true) : isOrdinary u = true := by
  obtain ⟨hquote, hbracket, hbrace, hcloseBracket, hcloseBrace, -⟩ := isNumeric_ne h
  simp only [isOrdinary, Bool.and_eq_true, bne_iff_ne]
  exact ⟨⟨⟨⟨hbrace, hbracket⟩, hcloseBrace⟩, hcloseBracket⟩, hquote⟩

def PartAccepted (limit : Nat) (text rest : Text) : Part → Prop
  | .value value => ∀ stack : List KeyContext, stack.length ≤ limit → colonFollows rest = false →
    (scanKeys limit stack text = true ↔
      (value.UniqueKeys ∧ stack.length + value.depth ≤ limit) ∧ scanKeys limit stack rest = true)
  | .items items => ∀ outer : List KeyContext, outer.length + 1 ≤ limit →
    (scanKeys limit (.array :: outer) text = true ↔
      (Value.UniqueItems items ∧ outer.length + 1 + Value.depthItems items ≤ limit) ∧
        scanKeys limit outer rest = true)
  | .members members => ∀ (keys : List Text) (outer : List KeyContext), outer.length + 1 ≤ limit →
    (scanKeys limit (.object keys :: outer) text = true ↔
      ((members.map Prod.fst).Nodup ∧ (∀ name ∈ members.map Prod.fst, name ∉ keys) ∧
        Value.UniqueMembers members ∧ outer.length + 1 + Value.depthMembers members ≤ limit) ∧
        scanKeys limit outer rest = true)

theorem partAccepted_plain {limit : Nat} {front rest : Text} {value : Value}
    (h : ∀ u ∈ front, isOrdinary u = true) (hunique : value.UniqueKeys) (hdepth : value.depth = 0) :
    PartAccepted limit (front ++ rest) rest (.value value) := by
  intro stack hstack _
  rw [scanKeys_front limit stack h]
  simp only [hunique, hdepth, Nat.add_zero, hstack, and_self, true_and]

theorem partAccepted (limit : Nat) {text rest : Text} {part : Part} (h : Reads text part rest) :
    PartAccepted limit text rest part := by
  induction h with
  | nullWord rest => exact partAccepted_plain (List.all_eq_true.mp rfl) trivial rfl
  | trueWord rest => exact partAccepted_plain (List.all_eq_true.mp rfl) trivial rfl
  | falseWord rest => exact partAccepted_plain (List.all_eq_true.mp rfl) trivial rfl
  | number h =>
    obtain ⟨first, front, rfl, hnumeric⟩ := readNumber_split h
    exact partAccepted_plain (fun u hu => isOrdinary_of_isNumeric (hnumeric u hu)) trivial rfl
  | string h =>
    intro stack hstack hcolon
    rw [scanKeys_text limit stack h hcolon]
    simp only [Value.UniqueKeys, Value.depth, Nat.add_zero, hstack, and_self, true_and]
  | emptyArray h =>
    intro stack hstack _
    rw [scanKeys_openArray, ← scanKeys_skipSpace, h, scanKeys_close limit stack _ (.inr rfl)]
    simp [Value.UniqueKeys, Value.UniqueItems, Value.depth, Value.depthItems]
  | @array text rest items h ih =>
    intro stack hstack _
    rw [scanKeys_openArray, ← scanKeys_skipSpace, Value.UniqueKeys, Value.depth]
    constructor
    · rintro ⟨hroom, hscan⟩
      obtain ⟨⟨hunique, hdepth⟩, hrest⟩ := (ih stack hroom).mp hscan
      exact ⟨⟨hunique, by omega⟩, hrest⟩
    · rintro ⟨⟨hunique, hdepth⟩, hrest⟩
      have hroom : stack.length + 1 ≤ limit := by omega
      exact ⟨hroom, (ih stack hroom).mpr ⟨⟨hunique, by omega⟩, hrest⟩⟩
  | emptyObject h =>
    intro stack hstack _
    rw [scanKeys_openObject, ← scanKeys_skipSpace, h, scanKeys_close limit stack _ (.inl rfl)]
    simp [Value.UniqueKeys, Value.UniqueMembers, Value.depth, Value.depthMembers]
  | @object text rest members h ih =>
    intro stack hstack _
    rw [scanKeys_openObject, ← scanKeys_skipSpace, Value.UniqueKeys, Value.depth]
    constructor
    · rintro ⟨hroom, hscan⟩
      obtain ⟨⟨hnodup, -, hunique, hdepth⟩, hrest⟩ := (ih [] stack hroom).mp hscan
      exact ⟨⟨⟨hnodup, hunique⟩, by omega⟩, hrest⟩
    · rintro ⟨⟨⟨hnodup, hunique⟩, hdepth⟩, hrest⟩
      have hroom : stack.length + 1 ≤ limit := by omega
      exact ⟨hroom, (ih [] stack hroom).mpr
        ⟨⟨hnodup, fun _ _ => List.not_mem_nil, hunique, by omega⟩, hrest⟩⟩
  | @lastItem text after rest item h hclose ih =>
    intro outer hroom
    have hcolon := colonFollows_of_skipSpace hclose (by decide)
    rw [ih (.array :: outer) hroom (hcolon.trans (by decide)), ← scanKeys_skipSpace limit _ after,
      hclose, scanKeys_close limit outer _ (.inr rfl)]
    simp only [Value.UniqueItems, and_true, Value.depthItems, List.length_cons, Nat.max_zero]
  | @moreItems text after next rest item items h hcomma hitems ih ihItems =>
    intro outer hroom
    have hcolon := colonFollows_of_skipSpace hcomma (by decide)
    rw [ih (.array :: outer) hroom (hcolon.trans (by decide)), ← scanKeys_skipSpace limit _ after,
      hcomma, scanKeys_ordinary limit _ (by decide), ← scanKeys_skipSpace limit _ next,
      ihItems outer hroom, Value.UniqueItems, Value.depthItems, List.length_cons]
    constructor
    · rintro ⟨⟨hitem, hdepth⟩, ⟨hrestItems, hrestDepth⟩, hscan⟩
      exact ⟨⟨⟨hitem, hrestItems⟩, by omega⟩, hscan⟩
    · rintro ⟨⟨⟨hitem, hrestItems⟩, hdepth⟩, hscan⟩
      exact ⟨⟨hitem, by omega⟩, ⟨hrestItems, by omega⟩, hscan⟩
  | @lastMember text colon next after rest name value hname hcolon h hclose ih =>
    intro keys outer hroom
    have hkey := colonFollows_of_skipSpace hcolon (by decide)
    have hend := colonFollows_of_skipSpace hclose (by decide)
    rw [scanKeys_key limit outer hname (hkey.trans (by decide)), ← scanKeys_skipSpace limit _ colon,
      hcolon, scanKeys_ordinary limit _ (by decide), ← scanKeys_skipSpace limit _ next,
      ih (.object (name :: keys) :: outer) hroom (hend.trans (by decide)),
      ← scanKeys_skipSpace limit _ after, hclose, scanKeys_close limit outer _ (.inl rfl)]
    simp only [List.map_cons, List.map_nil, List.nodup_cons, List.nodup_nil, List.not_mem_nil,
      not_false_eq_true, List.mem_singleton, forall_eq, Value.UniqueMembers, and_true,
      Value.depthMembers, List.length_cons, Nat.max_zero, true_and]
    exact and_assoc.symm
  | @moreMembers text colon next after more rest name value members hname hcolon h hcomma hmembers ih
      ihMembers =>
    intro keys outer hroom
    have hkey := colonFollows_of_skipSpace hcolon (by decide)
    have hend := colonFollows_of_skipSpace hcomma (by decide)
    rw [scanKeys_key limit outer hname (hkey.trans (by decide)), ← scanKeys_skipSpace limit _ colon,
      hcolon, scanKeys_ordinary limit _ (by decide), ← scanKeys_skipSpace limit _ next,
      ih (.object (name :: keys) :: outer) hroom (hend.trans (by decide)),
      ← scanKeys_skipSpace limit _ after, hcomma, scanKeys_ordinary limit _ (by decide),
      ← scanKeys_skipSpace limit _ more, ihMembers (name :: keys) outer hroom, List.map_cons,
      List.nodup_cons, Value.UniqueMembers, Value.depthMembers, List.length_cons]
    simp only [List.mem_cons, forall_eq_or_imp, not_or]
    constructor
    · rintro ⟨hnew, ⟨hvalue, hdepth⟩, ⟨hnodup, hdisjoint, hunique, hrestDepth⟩, hscan⟩
      exact ⟨⟨⟨fun hmem => (hdisjoint name hmem).1 rfl, hnodup⟩,
        ⟨hnew, fun other hmem => (hdisjoint other hmem).2⟩, ⟨hvalue, hunique⟩, by omega⟩, hscan⟩
    · rintro ⟨⟨⟨hfresh, hnodup⟩, ⟨hnew, hdisjoint⟩, ⟨hvalue, hunique⟩, hdepth⟩, hscan⟩
      refine ⟨hnew, ⟨hvalue, by omega⟩, ⟨hnodup, fun other hmem => ⟨?_, hdisjoint other hmem⟩,
        hunique, by omega⟩, hscan⟩
      rintro rfl
      exact hfresh hmem

theorem hasUniqueJsonKeys_iff (limit : Nat) {text : Text} {value : Value}
    (h : parse text = some value) :
    hasUniqueJsonKeys limit text = true ↔ value.UniqueKeys ∧ value.depth ≤ limit := by
  obtain ⟨rest, hreads, hend⟩ := parse_eq_some.mp h
  have hvalue := partAccepted limit hreads [] (Nat.zero_le _) (colonFollows_of_end hend)
  have hrest : scanKeys limit [] rest = true := by
    rw [← scanKeys_skipSpace, hend, scanKeys]
    rfl
  rw [hasUniqueJsonKeys, ← scanKeys_skipSpace, hvalue, List.length_nil, Nat.zero_add, hrest]
  simp only [and_true]

/-- On the texts that `JSON.parse` accepts both scans are exact: they pass a text
when no object in it, however deep, repeats a decoded name and nothing is nested
deeper than the limit, and only then. -/
theorem uniqueJsonKeys_exact {text : Text} {value : Value} (h : parse text = some value) :
    (guestHasUniqueJsonKeys text = true ↔ value.UniqueKeys ∧ value.depth ≤ 32) ∧
      (trustedFileHasUniqueJsonKeys text = true ↔ value.UniqueKeys ∧ value.depth ≤ 16) :=
  ⟨hasUniqueJsonKeys_iff guestMaxJsonDepth h, hasUniqueJsonKeys_iff trustedFileMaxJsonDepth h⟩

/-- The theorem on two texts: one object repeats a name in another spelling, in the
other text only different objects share a name. -/
theorem uniqueJsonKeys_exact_names :
    (∃ value, parse (units "\x7b\"a\":1,\"\\u0061\":[]\x7d") = some value ∧
      ¬ (value.UniqueKeys ∧ value.depth ≤ 32)) ∧
    ∃ value, parse (units "\x7b\"a\":1,\"b\":\x7b\"a\":[]\x7d\x7d") = some value ∧
      value.UniqueKeys ∧ value.depth ≤ 16 := by
  have hrepeated : (parse (units "\x7b\"a\":1,\"\\u0061\":[]\x7d")).isSome = true := by
    decide +kernel
  have hapart : (parse (units "\x7b\"a\":1,\"b\":\x7b\"a\":[]\x7d\x7d")).isSome = true := by
    decide +kernel
  obtain ⟨first, hfirst⟩ := Option.isSome_iff_exists.mp hrepeated
  obtain ⟨second, hsecond⟩ := Option.isSome_iff_exists.mp hapart
  refine ⟨⟨first, hfirst, fun h => ?_⟩, second, hsecond, ?_⟩
  · exact absurd ((uniqueJsonKeys_exact hfirst).1.mpr h) (by decide +kernel)
  · exact (uniqueJsonKeys_exact hsecond).2.mp (by decide +kernel)

end Outscan

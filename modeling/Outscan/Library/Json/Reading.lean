import Outscan.Library.Json.Grammar

/-! The parser accepts exactly what the grammar derives, with the same values. -/
namespace Json

theorem skipSpace_length_le (text : Text) : (skipSpace text).length ≤ text.length :=
  (List.dropWhile_sublist _).length_le

theorem exists_space (text : Text) :
    ∃ space, text = space ++ skipSpace text ∧ ∀ u ∈ space, isSpace u = true :=
  ⟨text.takeWhile isSpace, (List.takeWhile_append_dropWhile ..).symm,
    fun _ h => List.mem_takeWhile_imp h⟩

/-! ### Strings -/

def Quotable : Text → Bool
  | [] => true
  | u :: rest =>
    if u = unit '\\' then
      match rest with
      | [] => false
      | _ :: after => Quotable after
    else u != unit '"' && Quotable rest

theorem quotable_cons {u : UInt16} (hback : u ≠ unit '\\') (hquote : u ≠ unit '"') (rest : Text) :
    Quotable (u :: rest) = Quotable rest := by
  rw [Quotable.eq_def]
  dsimp only
  rw [if_neg hback, bne_iff_ne.mpr hquote, Bool.true_and]

theorem quotable_escape (e : UInt16) (rest : Text) :
    Quotable (unit '\\' :: e :: rest) = Quotable rest := by
  rw [Quotable.eq_def]
  dsimp only
  rw [if_pos rfl]

theorem hexValue_ne {u : UInt16} {n : Nat} (h : hexValue u = some n) :
    u ≠ unit '\\' ∧ u ≠ unit '"' := by
  have hback : hexValue (unit '\\') = none := by decide
  have hquote : hexValue (unit '"') = none := by decide
  constructor
  · rintro rfl
    rw [hback] at h
    cases h
  · rintro rfl
    rw [hquote] at h
    cases h

theorem quotable_hex {a b c d decoded : UInt16} (h : hexUnit a b c d = some decoded)
    (rest : Text) : Quotable (a :: b :: c :: d :: rest) = Quotable rest := by
  simp only [hexUnit, Option.bind_eq_bind, Option.bind_eq_some_iff] at h
  obtain ⟨_, ha, _, hb, _, hc, _, hd, -⟩ := h
  rw [quotable_cons (hexValue_ne ha).1 (hexValue_ne ha).2,
    quotable_cons (hexValue_ne hb).1 (hexValue_ne hb).2,
    quotable_cons (hexValue_ne hc).1 (hexValue_ne hc).2,
    quotable_cons (hexValue_ne hd).1 (hexValue_ne hd).2]

theorem readString_quote (tail : Text) : readString (unit '"' :: tail) = some ([], tail) := by
  rw [readString.eq_def]
  dsimp only
  rw [if_pos rfl]

theorem readString_hex {a b c d decoded : UInt16} (h : hexUnit a b c d = some decoded)
    (tail : Text) : readString (unit '\\' :: unit 'u' :: a :: b :: c :: d :: tail) =
      (readString tail).map fun (units, rest) => (decoded :: units, rest) := by
  rw [readString.eq_def]
  dsimp only
  rw [if_neg (by decide), if_pos rfl, if_pos rfl, h]

theorem readString_short {e decoded : UInt16} (hu : e ≠ unit 'u') (h : shortEscape e = some decoded)
    (tail : Text) : readString (unit '\\' :: e :: tail) =
      (readString tail).map fun (units, rest) => (decoded :: units, rest) := by
  rw [readString.eq_def]
  dsimp only
  rw [if_neg (by decide), if_pos rfl, if_neg hu, h]

theorem readString_plain {u : UInt16} (hquote : u ≠ unit '"') (hback : u ≠ unit '\\')
    (hcontrol : ¬ u < 0x20) (tail : Text) : readString (u :: tail) =
      (readString tail).map fun (units, rest) => (u :: units, rest) := by
  rw [readString.eq_def]
  dsimp only
  rw [if_neg hquote, if_neg hback, if_neg hcontrol]

/-- What is read of a string depends on the text up to its closing quote alone. -/
theorem readString_split {text value rest : Text} (h : readString text = some (value, rest)) :
    ∃ raw, text = raw ++ unit '"' :: rest ∧ Quotable raw = true ∧
      ∀ tail, readString (raw ++ unit '"' :: tail) = some (value, tail) := by
  fun_induction readString text generalizing value rest
  case case2 after =>
    cases h
    exact ⟨[], rfl, rfl, readString_quote⟩
  case case4 a b c d tail decoded hhex _ ih =>
    obtain ⟨⟨units, after⟩, hread, heq⟩ := Option.map_eq_some_iff.mp h
    cases heq
    obtain ⟨raw, htail, hquotable, hraw⟩ := ih hread
    refine ⟨unit '\\' :: unit 'u' :: a :: b :: c :: d :: raw, ?_, ?_, fun next => ?_⟩
    · simp only [htail, List.cons_append]
    · rw [quotable_escape, quotable_hex hhex, hquotable]
    · simp only [List.cons_append, readString_hex hhex, hraw, Option.map_some]
  case case7 e tail hu decoded hshort _ ih =>
    obtain ⟨⟨units, after⟩, hread, heq⟩ := Option.map_eq_some_iff.mp h
    cases heq
    obtain ⟨raw, htail, hquotable, hraw⟩ := ih hread
    refine ⟨unit '\\' :: e :: raw, ?_, ?_, fun next => ?_⟩
    · simp only [htail, List.cons_append]
    · rw [quotable_escape, hquotable]
    · simp only [List.cons_append, readString_short hu hshort, hraw, Option.map_some]
  case case10 u tail hquote hback hcontrol ih =>
    obtain ⟨⟨units, after⟩, hread, heq⟩ := Option.map_eq_some_iff.mp h
    cases heq
    obtain ⟨raw, htail, hquotable, hraw⟩ := ih hread
    refine ⟨u :: raw, ?_, ?_, fun next => ?_⟩
    · simp only [htail, List.cons_append]
    · rw [quotable_cons hback hquote, hquotable]
    · simp only [List.cons_append, readString_plain hquote hback hcontrol, hraw, Option.map_some]
  all_goals cases h

theorem readString_length {text value rest : Text} (h : readString text = some (value, rest)) :
    rest.length < text.length := by
  obtain ⟨raw, rfl, -⟩ := readString_split h
  rw [List.length_append, List.length_cons]
  omega

/-! ### Numbers and words -/

def isNumeric (u : UInt16) : Bool :=
  isDigit u || u == unit '-' || u == unit '+' || u == unit '.' || u == unit 'e' || u == unit 'E'

theorem isNumeric_of_isDigit {u : UInt16} (h : isDigit u = true) : isNumeric u = true := by
  simp only [isNumeric, h, Bool.true_or]

theorem exists_digits (text : Text) :
    ∃ digits, text = digits ++ text.dropWhile isDigit ∧ digits = text.takeWhile isDigit ∧
      ∀ u ∈ digits, isNumeric u = true :=
  ⟨text.takeWhile isDigit, (List.takeWhile_append_dropWhile ..).symm, rfl,
    fun _ h => isNumeric_of_isDigit (List.mem_takeWhile_imp h)⟩

theorem readMinus_split {text rest : Text} {negative : Bool}
    (h : readMinus text = (negative, rest)) :
    ∃ sign, text = sign ++ rest ∧ ∀ u ∈ sign, isNumeric u = true := by
  cases text with
  | nil =>
    cases h
    exact ⟨[], rfl, by simp⟩
  | cons u text =>
    rw [readMinus] at h
    split at h
    · rename_i hminus
      cases h
      exact ⟨[u], rfl, by simp [hminus, isNumeric]⟩
    · cases h
      exact ⟨[], rfl, by simp⟩

theorem readFraction_split {text digits rest : Text} (h : readFraction text = some (digits, rest)) :
    ∃ front, text = front ++ rest ∧ ∀ u ∈ front, isNumeric u = true := by
  cases text with
  | nil =>
    cases h
    exact ⟨[], rfl, by simp⟩
  | cons u text =>
    rw [readFraction] at h
    split at h
    · rename_i hpoint
      obtain ⟨found, htext, -, hnumeric⟩ := exists_digits text
      dsimp only at h
      split at h
      · cases h
      · cases h
        refine ⟨u :: found, by rw [List.cons_append, ← htext], ?_⟩
        simp only [List.mem_cons, forall_eq_or_imp]
        exact ⟨by simp [hpoint, isNumeric], hnumeric⟩
    · cases h
      exact ⟨[], rfl, by simp⟩

theorem readSign_split {text rest : Text} {negative : Bool}
    (h : readSign text = (negative, rest)) :
    ∃ sign, text = sign ++ rest ∧ ∀ u ∈ sign, isNumeric u = true := by
  cases text with
  | nil =>
    cases h
    exact ⟨[], rfl, by simp⟩
  | cons u text =>
    rw [readSign] at h
    split at h
    · rename_i hplus
      cases h
      exact ⟨[u], rfl, by simp [hplus, isNumeric]⟩
    · exact readMinus_split h

theorem readExponent_split {text rest : Text} {value : Int}
    (h : readExponent text = some (value, rest)) :
    ∃ front, text = front ++ rest ∧ ∀ u ∈ front, isNumeric u = true := by
  cases text with
  | nil =>
    cases h
    exact ⟨[], rfl, by simp⟩
  | cons u text =>
    rw [readExponent.eq_def] at h
    dsimp only at h
    split at h
    · rename_i hmark
      have hmarkNumeric : isNumeric u = true := by rcases hmark with rfl | rfl <;> decide
      obtain ⟨sign, htext, hsign⟩ := readSign_split (Prod.eta (readSign text)).symm
      obtain ⟨digits, hunsigned, -, hdigits⟩ := exists_digits (readSign text).2
      split at h
      · cases h
      · cases h
        refine ⟨u :: (sign ++ digits), ?_, ?_⟩
        · rw [List.cons_append, List.append_assoc, ← hunsigned, ← htext]
        · simp only [List.mem_cons, List.mem_append]
          rintro x (rfl | hx | hx)
          · exact hmarkNumeric
          · exact hsign x hx
          · exact hdigits x hx
    · cases h
      exact ⟨[], rfl, by simp⟩

theorem readNumber_split {text rest : Text} {value : Decimal}
    (h : readNumber text = some (value, rest)) :
    ∃ first front, text = first :: front ++ rest ∧
      ∀ u ∈ first :: front, isNumeric u = true := by
  obtain ⟨sign, htext, hsign⟩ := readMinus_split (Prod.eta (readMinus text)).symm
  obtain ⟨whole, hunsigned, hwhole, hdigits⟩ := exists_digits (readMinus text).2
  rw [readNumber] at h
  dsimp only at h
  rw [← hwhole] at h
  split at h
  · cases h
  · rename_i hshape
    simp only [Option.bind_eq_bind, Option.bind_eq_some_iff] at h
    obtain ⟨⟨fraction, afterFraction⟩, hfraction, ⟨exponent, afterExponent⟩, hexponent, hvalue⟩ := h
    cases hvalue
    obtain ⟨point, hpoint, hpointNumeric⟩ := readFraction_split hfraction
    dsimp only at hexponent
    obtain ⟨power, hpower, hpowerNumeric⟩ := readExponent_split hexponent
    have hsplit : text = sign ++ (whole ++ (point ++ power)) ++ afterExponent := by
      rw [htext, hunsigned, hpoint, hpower]
      simp only [List.append_assoc]
    have hnumeric : ∀ u ∈ sign ++ (whole ++ (point ++ power)), isNumeric u = true := by
      simp only [List.mem_append]
      rintro u (hu | hu | hu | hu)
      · exact hsign u hu
      · exact hdigits u hu
      · exact hpointNumeric u hu
      · exact hpowerNumeric u hu
    have hne : sign ++ (whole ++ (point ++ power)) ≠ [] := by
      intro hnil
      simp only [List.append_eq_nil_iff] at hnil
      simp [hnil.2.1] at hshape
    obtain ⟨first, front, hfront⟩ := List.exists_cons_of_ne_nil hne
    rw [hfront] at hsplit hnumeric
    exact ⟨first, front, hsplit, hnumeric⟩

theorem readWord_eq_some {word : String} {text rest : Text} :
    readWord word text = some rest ↔ text = units word ++ rest := by
  rw [readWord]
  constructor
  · intro h
    split at h
    · rename_i htake
      obtain rfl := Option.some.inj h
      conv_lhs => rw [← List.take_append_drop (units word).length text, htake]
    · cases h
  · rintro rfl
    rw [List.take_left' rfl, List.drop_left' rfl, if_pos rfl]

theorem readNumber_length {text rest : Text} {value : Decimal}
    (h : readNumber text = some (value, rest)) : rest.length < text.length := by
  obtain ⟨first, front, rfl, -⟩ := readNumber_split h
  rw [List.cons_append, List.length_cons, List.length_append]
  omega

/-! ### What is derived -/

theorem Reads.length_lt {text rest : Text} {part : Part} (h : Reads text part rest) :
    rest.length < text.length := by
  induction h with
  | nullWord rest => exact Nat.lt_of_lt_of_eq (Nat.lt_add_of_pos_left (by decide)) List.length_append.symm
  | trueWord rest => exact Nat.lt_of_lt_of_eq (Nat.lt_add_of_pos_left (by decide)) List.length_append.symm
  | falseWord rest => exact Nat.lt_of_lt_of_eq (Nat.lt_add_of_pos_left (by decide)) List.length_append.symm
  | number h => exact readNumber_length h
  | string h =>
    have := readString_length h
    rw [List.length_cons]
    omega
  | @emptyArray text rest h =>
    have hle := skipSpace_length_le text
    rw [h, List.length_cons] at hle
    rw [List.length_cons]
    omega
  | @array text rest items h ih =>
    have := skipSpace_length_le text
    rw [List.length_cons]
    omega
  | @emptyObject text rest h =>
    have hle := skipSpace_length_le text
    rw [h, List.length_cons] at hle
    rw [List.length_cons]
    omega
  | @object text rest members h ih =>
    have := skipSpace_length_le text
    rw [List.length_cons]
    omega
  | @lastItem text after rest item h hclose ih =>
    have hle := skipSpace_length_le after
    rw [hclose, List.length_cons] at hle
    omega
  | @moreItems text after next rest item items h hcomma hitems ih ihItems =>
    have hle := skipSpace_length_le after
    have := skipSpace_length_le next
    rw [hcomma, List.length_cons] at hle
    omega
  | @lastMember text colon next after rest name value hname hcolon h hclose ih =>
    have := readString_length hname
    have hle := skipSpace_length_le colon
    have := skipSpace_length_le next
    have hend := skipSpace_length_le after
    rw [hcolon, List.length_cons] at hle
    rw [hclose, List.length_cons] at hend
    rw [List.length_cons]
    omega
  | @moreMembers text colon next after more rest name value members hname hcolon h hcomma hmembers ih
      ihMembers =>
    have := readString_length hname
    have hle := skipSpace_length_le colon
    have := skipSpace_length_le next
    have hend := skipSpace_length_le after
    have := skipSpace_length_le more
    rw [hcolon, List.length_cons] at hle
    rw [hcomma, List.length_cons] at hend
    rw [List.length_cons]
    omega

theorem reads_of_readScalar {text rest : Text} {value : Value}
    (h : readScalar text = some (value, rest)) : Reads text (.value value) rest := by
  rw [readScalar] at h
  split at h
  · rename_i hword
    cases h
    rw [readWord_eq_some.mp hword]
    exact .nullWord _
  · rename_i hword _
    cases h
    rw [readWord_eq_some.mp hword]
    exact .trueWord _
  · rename_i hword _ _
    cases h
    rw [readWord_eq_some.mp hword]
    exact .falseWord _
  · obtain ⟨⟨number, after⟩, hread, heq⟩ := Option.map_eq_some_iff.mp h
    cases heq
    exact .number hread

/-- Whatever the parser reads is derived. -/
theorem reads_of_read (fuel : Nat) :
    (∀ {text rest value}, readValue fuel text = some (value, rest) →
      Reads text (.value value) rest) ∧
    (∀ {text rest items}, readItems fuel text = some (items, rest) →
      Reads text (.items items) rest) ∧
    ∀ {text rest members}, readMembers fuel text = some (members, rest) →
      Reads text (.members members) rest := by
  induction fuel with
  | zero => exact ⟨fun h => (nomatch h), fun h => (nomatch h), fun h => (nomatch h)⟩
  | succ fuel ih =>
    obtain ⟨ihValue, ihItems, ihMembers⟩ := ih
    refine ⟨fun {text rest value} h => ?_, fun {text rest items} h => ?_,
      fun {text rest members} h => ?_⟩
    · cases text with
      | nil => cases h
      | cons u text =>
        rw [readValue] at h
        split at h
        · rename_i hquote
          obtain ⟨⟨found, after⟩, hread, heq⟩ := Option.map_eq_some_iff.mp h
          cases heq
          rw [hquote]
          exact .string hread
        split at h
        · rename_i hopen
          rw [hopen]
          split at h
          · cases h
          · rename_i next after hskip
            split at h
            · rename_i hclose
              cases h
              rw [hclose] at hskip
              exact .emptyArray hskip
            · obtain ⟨⟨items, last⟩, hread, heq⟩ := Option.map_eq_some_iff.mp h
              cases heq
              rw [← hskip] at hread
              exact .array (ihItems hread)
        split at h
        · rename_i hopen
          rw [hopen]
          split at h
          · cases h
          · rename_i next after hskip
            split at h
            · rename_i hclose
              cases h
              rw [hclose] at hskip
              exact .emptyObject hskip
            · obtain ⟨⟨members, last⟩, hread, heq⟩ := Option.map_eq_some_iff.mp h
              cases heq
              rw [← hskip] at hread
              exact .object (ihMembers hread)
        · exact reads_of_readScalar h
    · rw [readItems] at h
      split at h
      · cases h
      · rename_i item after hitem
        split at h
        · cases h
        · rename_i next last hskip
          split at h
          · rename_i hclose
            cases h
            rw [hclose] at hskip
            exact .lastItem (ihValue hitem) hskip
          split at h
          · rename_i hcomma
            obtain ⟨⟨more, final⟩, hread, heq⟩ := Option.map_eq_some_iff.mp h
            cases heq
            rw [hcomma] at hskip
            exact .moreItems (ihValue hitem) hskip (ihItems hread)
          · cases h
    · cases text with
      | nil => cases h
      | cons quote text =>
        rw [readMembers] at h
        split at h
        · cases h
        rename_i hquote
        rw [ne_eq, not_not] at hquote
        rw [hquote]
        split at h
        · cases h
        rename_i name colon hname
        split at h
        · cases h
        rename_i mark next hcolon
        split at h
        · cases h
        rename_i hmark
        rw [ne_eq, not_not] at hmark
        rw [hmark] at hcolon
        split at h
        · cases h
        rename_i value after hvalue
        split at h
        · cases h
        rename_i last final hskip
        split at h
        · rename_i hclose
          cases h
          rw [hclose] at hskip
          exact .lastMember hname hcolon (ihValue hvalue) hskip
        split at h
        · rename_i hcomma
          obtain ⟨⟨more, rest⟩, hread, heq⟩ := Option.map_eq_some_iff.mp h
          cases heq
          rw [hcomma] at hskip
          exact .moreMembers hname hcolon (ihValue hvalue) hskip (ihMembers hread)
        · cases h

/-! ### What is derived is read -/

theorem readValue_scalar {u : UInt16} {rest : Text} (hquote : u ≠ unit '"') (harray : u ≠ unit '[')
    (hobject : u ≠ unit '\x7b') (fuel : Nat) :
    readValue (fuel + 1) (u :: rest) = readScalar (u :: rest) := by
  rw [readValue, if_neg hquote, if_neg harray, if_neg hobject]

theorem isNumeric_ne {u : UInt16} (h : isNumeric u = true) :
    u ≠ unit '"' ∧ u ≠ unit '[' ∧ u ≠ unit '\x7b' ∧ u ≠ unit ']' ∧ u ≠ unit '\x7d' ∧
      u ≠ unit 'n' ∧ u ≠ unit 't' ∧ u ≠ unit 'f' := by
  refine ⟨?_, ?_, ?_, ?_, ?_, ?_, ?_, ?_⟩ <;>
    · rintro rfl
      exact absurd h (by decide)

/-- The first unit of a value decides what is read; none of them is white space or
closes an array or an object. -/
theorem Reads.first {text rest : Text} {part : Part} (h : Reads text part rest) :
    ∃ u tail, text = u :: tail ∧ u ≠ unit ']' ∧ u ≠ unit '\x7d' ∧ isSpace u = false := by
  induction h with
  | nullWord rest => exact ⟨_, _, rfl, by decide, by decide, by decide⟩
  | trueWord rest => exact ⟨_, _, rfl, by decide, by decide, by decide⟩
  | falseWord rest => exact ⟨_, _, rfl, by decide, by decide, by decide⟩
  | number h =>
    obtain ⟨first, front, rfl, hnumeric⟩ := readNumber_split h
    have hfirst := hnumeric first (List.mem_cons_self ..)
    obtain ⟨-, -, -, hclose, hbrace, -⟩ := isNumeric_ne hfirst
    refine ⟨first, _, rfl, hclose, hbrace, ?_⟩
    cases hspace : isSpace first with
    | false => rfl
    | true =>
      simp only [isSpace, Bool.or_eq_true, beq_iff_eq] at hspace
      rcases hspace with ((rfl | rfl) | rfl) | rfl <;> exact absurd hfirst (by decide)
  | string | emptyArray | array | emptyObject | object | lastMember | moreMembers =>
    exact ⟨_, _, rfl, by decide, by decide, by decide⟩
  | lastItem _ _ ih => exact ih
  | moreItems _ _ _ ih _ => exact ih

theorem skipSpace_of_reads {text rest : Text} {part : Part} (h : Reads text part rest) :
    skipSpace text = text := by
  obtain ⟨u, tail, rfl, -, -, hspace⟩ := h.first
  exact List.dropWhile_cons_of_neg (by simp [hspace])

def Part.ReadBy (fuel : Nat) (text rest : Text) : Part → Prop
  | .value found => 2 * text.length ≤ fuel + 1 → readValue fuel text = some (found, rest)
  | .items found => 2 * text.length ≤ fuel → readItems fuel text = some (found, rest)
  | .members found => 2 * text.length ≤ fuel → readMembers fuel text = some (found, rest)

theorem readWord_ne {word : String} {text : Text} {u : UInt16} {rest : Text}
    (hword : (units word).head? ≠ some u) (hne : units word ≠ []) (htext : text = u :: rest) :
    readWord word text = none := by
  cases h : readWord word text with
  | none => rfl
  | some after =>
    obtain ⟨first, tail, hfirst⟩ := List.exists_cons_of_ne_nil hne
    rw [readWord_eq_some.mp h, hfirst] at htext
    rw [hfirst, (List.cons.inj htext).1] at hword
    exact absurd rfl hword

theorem readScalar_number {text rest : Text} {value : Decimal}
    (h : readNumber text = some (value, rest)) :
    readScalar text = some (.number value, rest) := by
  obtain ⟨first, front, rfl, hnumeric⟩ := readNumber_split h
  obtain ⟨-, -, -, -, -, hn, ht, hf⟩ := isNumeric_ne (hnumeric first (List.mem_cons_self ..))
  have hnull : readWord "null" (first :: front ++ rest) = none :=
    readWord_ne (fun h => hn (Option.some.inj h).symm) (by decide) rfl
  have htrue : readWord "true" (first :: front ++ rest) = none :=
    readWord_ne (fun h => ht (Option.some.inj h).symm) (by decide) rfl
  have hfalse : readWord "false" (first :: front ++ rest) = none :=
    readWord_ne (fun h => hf (Option.some.inj h).symm) (by decide) rfl
  rw [readScalar, hnull, htrue, hfalse, h]
  rfl

theorem readScalar_null (rest : Text) :
    readScalar (units "null" ++ rest) = some (.null, rest) := by
  have hnull : readWord "null" (units "null" ++ rest) = some rest := readWord_eq_some.mpr rfl
  rw [readScalar, hnull]

theorem readScalar_true (rest : Text) :
    readScalar (units "true" ++ rest) = some (.bool true, rest) := by
  have hnull : readWord "null" (units "true" ++ rest) = none :=
    readWord_ne (by decide) (by decide) rfl
  have htrue : readWord "true" (units "true" ++ rest) = some rest := readWord_eq_some.mpr rfl
  rw [readScalar, hnull, htrue]

theorem readScalar_false (rest : Text) :
    readScalar (units "false" ++ rest) = some (.bool false, rest) := by
  have hnull : readWord "null" (units "false" ++ rest) = none :=
    readWord_ne (by decide) (by decide) rfl
  have htrue : readWord "true" (units "false" ++ rest) = none :=
    readWord_ne (by decide) (by decide) rfl
  have hfalse : readWord "false" (units "false" ++ rest) = some rest := readWord_eq_some.mpr rfl
  rw [readScalar, hnull, htrue, hfalse]

/-- Whatever is derived the parser reads, given fuel for twice the length. -/
theorem readBy_of_reads {text rest : Text} {part : Part} (h : Reads text part rest) :
    ∀ fuel, part.ReadBy fuel text rest := by
  have hsome : ∀ {fuel : Nat} {text rest : Text} {part : Part}, Reads text part rest →
      2 * text.length ≤ fuel + 1 → ∃ less, fuel = less + 1 := fun hreads hfuel =>
    ⟨_, (Nat.succ_pred_eq_of_pos (by have := hreads.length_lt; omega)).symm⟩
  induction h with
  | nullWord rest =>
    intro fuel hfuel
    obtain ⟨less, rfl⟩ := hsome (.nullWord rest) hfuel
    exact (readValue_scalar (by decide) (by decide) (by decide) less).trans (readScalar_null rest)
  | trueWord rest =>
    intro fuel hfuel
    obtain ⟨less, rfl⟩ := hsome (.trueWord rest) hfuel
    exact (readValue_scalar (by decide) (by decide) (by decide) less).trans (readScalar_true rest)
  | falseWord rest =>
    intro fuel hfuel
    obtain ⟨less, rfl⟩ := hsome (.falseWord rest) hfuel
    exact (readValue_scalar (by decide) (by decide) (by decide) less).trans (readScalar_false rest)
  | number h =>
    intro fuel hfuel
    obtain ⟨less, rfl⟩ := hsome (.number h) hfuel
    obtain ⟨first, front, rfl, hnumeric⟩ := readNumber_split h
    obtain ⟨hquote, harray, hobject, -⟩ := isNumeric_ne (hnumeric first (List.mem_cons_self ..))
    exact (readValue_scalar hquote harray hobject less).trans (readScalar_number h)
  | string h =>
    intro fuel hfuel
    obtain ⟨less, rfl⟩ := hsome (.string h) hfuel
    rw [readValue, if_pos rfl, h]
    rfl
  | emptyArray h =>
    intro fuel hfuel
    obtain ⟨less, rfl⟩ := hsome (.emptyArray h) hfuel
    rw [readValue, if_neg (by decide), if_pos rfl, h]
    exact if_pos rfl
  | @array text rest items h ih =>
    intro fuel hfuel
    obtain ⟨less, rfl⟩ := hsome (.array h) hfuel
    obtain ⟨u, tail, htext, hclose, -, -⟩ := h.first
    have hle := skipSpace_length_le text
    have hread := ih less (by rw [List.length_cons] at hfuel; omega)
    rw [readValue, if_neg (by decide), if_pos rfl, htext]
    dsimp only
    rw [if_neg hclose, ← htext, hread]
    rfl
  | emptyObject h =>
    intro fuel hfuel
    obtain ⟨less, rfl⟩ := hsome (.emptyObject h) hfuel
    rw [readValue, if_neg (by decide), if_neg (by decide), if_pos rfl, h]
    exact if_pos rfl
  | @object text rest members h ih =>
    intro fuel hfuel
    obtain ⟨less, rfl⟩ := hsome (.object h) hfuel
    obtain ⟨u, tail, htext, -, hclose, -⟩ := h.first
    have hle := skipSpace_length_le text
    have hread := ih less (by rw [List.length_cons] at hfuel; omega)
    rw [readValue, if_neg (by decide), if_neg (by decide), if_pos rfl, htext]
    dsimp only
    rw [if_neg hclose, ← htext, hread]
    rfl
  | @lastItem text after rest item h hclose ih =>
    intro fuel hfuel
    obtain ⟨less, rfl⟩ := hsome (.lastItem h hclose) (Nat.le_succ_of_le hfuel)
    rw [readItems, ih less (by omega)]
    dsimp only
    rw [hclose]
    exact if_pos rfl
  | @moreItems text after next rest item items h hcomma hitems ih ihItems =>
    intro fuel hfuel
    obtain ⟨less, rfl⟩ := hsome (.moreItems h hcomma hitems) (Nat.le_succ_of_le hfuel)
    have hshort := h.length_lt
    have hafter := skipSpace_length_le after
    have hnext := skipSpace_length_le next
    rw [hcomma, List.length_cons] at hafter
    rw [readItems, ih less (by omega)]
    dsimp only
    rw [hcomma]
    dsimp only
    rw [if_neg (by decide), if_pos rfl, ihItems less (by omega)]
    rfl
  | @lastMember text colon next after rest name value hname hcolon h hclose ih =>
    intro fuel hfuel
    obtain ⟨less, rfl⟩ := hsome (.lastMember hname hcolon h hclose) (Nat.le_succ_of_le hfuel)
    have hstring := readString_length hname
    have hle := skipSpace_length_le colon
    have hnext := skipSpace_length_le next
    rw [hcolon, List.length_cons] at hle
    rw [List.length_cons] at hfuel
    rw [readMembers, if_neg (by simp), hname]
    dsimp only
    rw [hcolon]
    dsimp only
    rw [if_neg (by simp), ih less (by omega)]
    dsimp only
    rw [hclose]
    exact if_pos rfl
  | @moreMembers text colon next after more rest name value members hname hcolon h hcomma hmembers ih
      ihMembers =>
    intro fuel hfuel
    obtain ⟨less, rfl⟩ :=
      hsome (.moreMembers hname hcolon h hcomma hmembers) (Nat.le_succ_of_le hfuel)
    have hstring := readString_length hname
    have hle := skipSpace_length_le colon
    have hnext := skipSpace_length_le next
    have hshort := h.length_lt
    have hend := skipSpace_length_le after
    have hmore := skipSpace_length_le more
    rw [hcolon, List.length_cons] at hle
    rw [hcomma, List.length_cons] at hend
    rw [List.length_cons] at hfuel
    rw [readMembers, if_neg (by simp), hname]
    dsimp only
    rw [hcolon]
    dsimp only
    rw [if_neg (by simp), ih less (by omega)]
    dsimp only
    rw [hcomma]
    dsimp only
    rw [if_neg (by decide), if_pos rfl, ihMembers less (by omega)]
    rfl

theorem parse_eq_some {text : Text} {value : Value} :
    parse text = some value ↔
      ∃ rest, Reads (skipSpace text) (.value value) rest ∧ skipSpace rest = [] := by
  rw [parse]
  constructor
  · intro h
    split at h
    · rename_i found rest hread
      split at h
      · rename_i hend
        cases h
        exact ⟨rest, (reads_of_read _).1 hread, List.isEmpty_iff.mp hend⟩
      · cases h
    · cases h
  · rintro ⟨rest, hreads, hend⟩
    have hle := skipSpace_length_le text
    have hread := readBy_of_reads hreads (2 * text.length + 1) (by omega)
    rw [hread]
    dsimp only
    rw [if_pos (List.isEmpty_iff.mpr hend)]

end Json

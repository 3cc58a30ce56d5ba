import Outscan.Library.Json.Reading
import Outscan.Library.Utf16

/-! Writing JSON values without white space, and reading them back. -/
namespace Json

/-! ### Numbers -/

def writeNat (n : Nat) : Text := (Nat.toDigits 10 n).map fun c => unit c

def writeSign (negative : Bool) : Text := if negative then [unit '-'] else []

def writeExponent (exponent : Int) : Text :=
  if exponent = 0 then []
  else unit 'e' :: (writeSign (decide (exponent < 0)) ++ writeNat exponent.natAbs)

def writeNumber (value : Decimal) : Text :=
  writeSign value.negative ++ writeNat value.coefficient ++ writeExponent value.exponent

/-! ### Strings -/

def hexDigit (n : Nat) : UInt16 := unit (Nat.digitChar n)

def hexEscape (u : UInt16) : Text :=
  [unit '\\', unit 'u', hexDigit (u.toNat / 4096), hexDigit (u.toNat / 256 % 16),
    hexDigit (u.toNat / 16 % 16), hexDigit (u.toNat % 16)]

def escapeUnit (u : UInt16) : Text :=
  if u = unit '"' then [unit '\\', unit '"']
  else if u = unit '\\' then [unit '\\', unit '\\']
  else if u = 0x08 then [unit '\\', unit 'b']
  else if u = 0x0c then [unit '\\', unit 'f']
  else if u = 0x0a then [unit '\\', unit 'n']
  else if u = 0x0d then [unit '\\', unit 'r']
  else if u = 0x09 then [unit '\\', unit 't']
  else if u < 0x20 ∨ Utf16.isHigh u = true ∨ Utf16.isLow u = true then hexEscape u
  else [u]

/-- The body of a string; surrogate pairs stand as they are, lone surrogates are escaped. -/
def writeString : Text → Text
  | [] => []
  | [u] => escapeUnit u
  | u :: v :: rest =>
    if Utf16.isHigh u = true ∧ Utf16.isLow v = true then u :: v :: writeString rest
    else escapeUnit u ++ writeString (v :: rest)

def quoted (text : Text) : Text := unit '"' :: (writeString text ++ [unit '"'])

/-! ### Values -/

mutual

def write : Value → Text
  | .null => units "null"
  | .bool true => units "true"
  | .bool false => units "false"
  | .number value => writeNumber value
  | .string text => quoted text
  | .array items => unit '[' :: writeItems items
  | .object members => unit '\x7b' :: writeMembers members

def writeItems : List Value → Text
  | [] => [unit ']']
  | item :: rest => write item ++ ((if rest.isEmpty then [] else [unit ',']) ++ writeItems rest)

def writeMembers : List (Text × Value) → Text
  | [] => [unit '\x7d']
  | (name, value) :: rest =>
    quoted name ++ (unit ':' :: (write value ++
      ((if rest.isEmpty then [] else [unit ',']) ++ writeMembers rest)))

end

/-! ### Reading numbers back -/

def Ends (rest : Text) : Prop := ∀ u ∈ rest.head?, isNumeric u = false

theorem unit_toNat_digit {c : Char} (h : Numeral.isDigit 10 c = true) :
    (unit c).toNat = c.toNat ∧ 48 ≤ c.toNat ∧ c.toNat ≤ 57 := by
  obtain ⟨hlow, hhigh⟩ := Numeral.toNat_of_isDigit_ten h
  refine ⟨?_, hlow, hhigh⟩
  rw [UInt16.toNat_ofNat', Nat.mod_eq_of_lt (by omega)]

theorem isDigit_unit {c : Char} (h : Numeral.isDigit 10 c = true) : isDigit (unit c) = true := by
  obtain ⟨hunit, hlow, hhigh⟩ := unit_toNat_digit h
  have hzero : (unit '0').toNat = 48 := by decide
  have hnine : (unit '9').toNat = 57 := by decide
  simp only [isDigit, Bool.and_eq_true, decide_eq_true_eq, UInt16.le_iff_toNat_le]
  omega

theorem isDigit_of_mem_writeNat {n : Nat} {u : UInt16} (h : u ∈ writeNat n) : isDigit u = true := by
  obtain ⟨c, hc, rfl⟩ := List.mem_map.mp h
  exact isDigit_unit (Numeral.isDigit_of_mem_toDigits (by omega) (by omega) n c hc)

theorem writeNat_ne_nil (n : Nat) : writeNat n ≠ [] := by
  unfold writeNat
  simp [Nat.toDigits_ne_nil]

theorem digitsValue_map {digits : List Char} (h : ∀ c ∈ digits, Numeral.isDigit 10 c = true) :
    digitsValue (digits.map fun c => unit c) = Numeral.value 10 digits := by
  unfold digitsValue Numeral.value
  rw [List.foldl_map]
  refine List.foldl_ext _ _ _ fun total c hc => ?_
  obtain ⟨hunit, hlow, hhigh⟩ := unit_toNat_digit (h c hc)
  rw [hunit, Numeral.digitValue, if_pos ⟨hlow, hhigh⟩, Option.getD_some]

@[simp] theorem digitsValue_writeNat (n : Nat) : digitsValue (writeNat n) = n := by
  rw [writeNat, digitsValue_map (Numeral.isDigit_of_mem_toDigits (by omega) (by omega) n),
    Numeral.value_toDigits (by omega) (by omega)]

theorem isDigit_of_ends {rest : Text} (h : Ends rest) : ∀ u ∈ rest.head?, isDigit u = false := by
  intro u hu
  cases hdigit : isDigit u with
  | false => rfl
  | true => rw [← h u hu, isNumeric_of_isDigit hdigit]

theorem digits_append (digits : Text) {rest : Text} (hdigits : ∀ u ∈ digits, isDigit u = true)
    (hrest : ∀ u ∈ rest.head?, isDigit u = false) :
    (digits ++ rest).takeWhile isDigit = digits ∧ (digits ++ rest).dropWhile isDigit = rest := by
  have htake : rest.takeWhile isDigit = [] := by
    cases rest with
    | nil => rfl
    | cons u tail => rw [List.takeWhile_cons_of_neg (by simp [hrest u rfl])]
  have hdrop : rest.dropWhile isDigit = rest := by
    cases rest with
    | nil => rfl
    | cons u tail => rw [List.dropWhile_cons_of_neg (by simp [hrest u rfl])]
  rw [List.takeWhile_append_of_pos hdigits, List.dropWhile_append_of_pos hdigits, htake, hdrop,
    List.append_nil]
  exact ⟨rfl, rfl⟩

theorem readMinus_write (negative : Bool) {rest : Text} (h : ∀ u ∈ rest.head?, u ≠ unit '-') :
    readMinus (writeSign negative ++ rest) = (negative, rest) := by
  cases negative with
  | true => rfl
  | false =>
    cases rest with
    | nil => rfl
    | cons u tail =>
      change readMinus (u :: tail) = _
      rw [readMinus, if_neg (h u rfl)]

theorem readSign_write (negative : Bool) (rest : Text)
    (h : ∀ u ∈ rest.head?, isDigit u = true) :
    readSign (writeSign negative ++ rest) = (negative, rest) := by
  have hminus : ∀ u ∈ rest.head?, u ≠ unit '-' := by
    rintro u hu rfl
    exact absurd (h _ hu) (by decide)
  cases negative with
  | true => rfl
  | false =>
    cases rest with
    | nil => rfl
    | cons u tail =>
      have hplus : u ≠ unit '+' := by
        rintro rfl
        exact absurd (h _ rfl) (by decide)
      change readSign (u :: tail) = _
      rw [readSign, if_neg hplus]
      exact readMinus_write false hminus

theorem head_writeNat (n : Nat) (rest : Text) :
    ∃ u, (writeNat n ++ rest).head? = some u ∧ isDigit u = true := by
  obtain ⟨u, tail, htext⟩ := List.exists_cons_of_ne_nil (writeNat_ne_nil n)
  refine ⟨u, by rw [htext]; rfl, isDigit_of_mem_writeNat (n := n) ?_⟩
  rw [htext]
  exact List.mem_cons_self

theorem readExponent_write (exponent : Int) {rest : Text} (h : Ends rest) :
    readExponent (writeExponent exponent ++ rest) = some (exponent, rest) := by
  unfold writeExponent
  by_cases hzero : exponent = 0
  · subst hzero
    cases rest with
    | nil => rfl
    | cons u tail =>
      have hletter : ¬ (u = unit 'e' ∨ u = unit 'E') := by
        rintro (rfl | rfl)
        · exact absurd (h _ rfl) (by decide)
        · exact absurd (h _ rfl) (by decide)
      rw [if_pos rfl, List.nil_append, readExponent, if_neg hletter]
  · obtain ⟨u, hhead, hdigit⟩ := head_writeNat exponent.natAbs rest
    have hsign := readSign_write (decide (exponent < 0)) (writeNat exponent.natAbs ++ rest)
      (by
        intro v hv
        rw [hhead] at hv
        cases hv
        exact hdigit)
    obtain ⟨htake, hdrop⟩ := digits_append (writeNat exponent.natAbs)
      (fun u hu => isDigit_of_mem_writeNat hu) (isDigit_of_ends h)
    have hne : (writeNat exponent.natAbs).isEmpty = false := by
      rw [List.isEmpty_eq_false_iff]
      exact writeNat_ne_nil _
    rw [if_neg hzero, List.cons_append, List.append_assoc, readExponent, if_pos (.inl rfl), hsign]
    dsimp only
    rw [htake, hdrop, hne, digitsValue_writeNat]
    have hvalue : (if decide (exponent < 0) = true then -(exponent.natAbs : Int)
        else (exponent.natAbs : Int)) = exponent := by
      split
      · rename_i hneg
        have hneg' := of_decide_eq_true hneg
        omega
      · rename_i hpos
        have hpos' : ¬ exponent < 0 := fun hneg => hpos (decide_eq_true hneg)
        omega
    simp only [Bool.false_eq_true, if_false, hvalue]

theorem ends_writeExponent (exponent : Int) {rest : Text} (h : Ends rest) :
    ∀ u ∈ (writeExponent exponent ++ rest).head?, isDigit u = false ∧ u ≠ unit '.' := by
  intro u hu
  unfold writeExponent at hu
  split at hu
  · refine ⟨isDigit_of_ends h u hu, ?_⟩
    rintro rfl
    exact absurd (h _ hu) (by decide)
  · cases hu
    decide

theorem readNumber_write (value : Decimal) {rest : Text} (h : Ends rest) :
    readNumber (writeNumber value ++ rest) = some (value, rest) := by
  obtain ⟨negative, coefficient, exponent⟩ := value
  have hafter := ends_writeExponent exponent h
  obtain ⟨u, hhead, hdigit⟩ := head_writeNat coefficient (writeExponent exponent ++ rest)
  have hminus : readMinus (writeNumber ⟨negative, coefficient, exponent⟩ ++ rest) =
      (negative, writeNat coefficient ++ (writeExponent exponent ++ rest)) := by
    unfold writeNumber
    rw [List.append_assoc, List.append_assoc]
    refine readMinus_write negative fun v hv => ?_
    rw [hhead] at hv
    cases hv
    rintro rfl
    exact absurd hdigit (by decide)
  obtain ⟨htake, hdrop⟩ := digits_append (writeNat coefficient)
    (fun u hu => isDigit_of_mem_writeNat hu) (fun u hu => (hafter u hu).1)
  have hlead : ¬ ((writeNat coefficient).isEmpty ||
      ((writeNat coefficient).head? == some (unit '0') &&
        decide (1 < (writeNat coefficient).length))) = true := by
    obtain ⟨-, hdigits, hzero⟩ := Numeral.isDecimal_iff.mp (Numeral.isDecimal_toDigits coefficient)
    simp only [Bool.or_eq_true, Bool.and_eq_true, beq_iff_eq, decide_eq_true_eq,
      List.isEmpty_iff, not_or, not_and]
    refine ⟨writeNat_ne_nil _, fun hfirst hlength => ?_⟩
    unfold writeNat at hfirst hlength
    rw [List.length_map] at hlength
    rw [List.head?_map, Option.map_eq_some_iff] at hfirst
    obtain ⟨c, hc, hunit⟩ := hfirst
    refine hzero hlength ?_
    rw [hc]
    congr 1
    have hcode := unit_toNat_digit (hdigits c (List.mem_of_mem_head? hc))
    rw [hunit] at hcode
    rw [← Char.ofNat_toNat c, ← hcode.1]
    decide
  have hfraction : readFraction (writeExponent exponent ++ rest) =
      some ([], writeExponent exponent ++ rest) := by
    cases htext : writeExponent exponent ++ rest with
    | nil => rfl
    | cons v tail =>
      rw [htext] at hafter
      rw [readFraction, if_neg (hafter v rfl).2]
  unfold readNumber
  rw [hminus]
  dsimp only
  rw [htake, hdrop, if_neg hlead, hfraction, Option.bind_eq_bind, Option.bind_some]
  dsimp only
  rw [readExponent_write exponent h, Option.bind_eq_bind, Option.bind_some]
  simp

/-! ### Reading strings back -/

theorem hexValue_hexDigit {n : Nat} (h : n < 16) : hexValue (hexDigit n) = some n := by
  have hall : ∀ n : Fin 16, hexValue (hexDigit n) = some n.val := by decide
  exact hall ⟨n, h⟩

theorem hexUnit_hexEscape (u : UInt16) :
    hexUnit (hexDigit (u.toNat / 4096)) (hexDigit (u.toNat / 256 % 16))
      (hexDigit (u.toNat / 16 % 16)) (hexDigit (u.toNat % 16)) = some u := by
  have hlt := u.toNat_lt
  unfold hexUnit
  rw [hexValue_hexDigit (by omega), hexValue_hexDigit (by omega), hexValue_hexDigit (by omega),
    hexValue_hexDigit (by omega)]
  have hvalue : ((u.toNat / 4096 * 16 + u.toNat / 256 % 16) * 16 + u.toNat / 16 % 16) * 16 +
      u.toNat % 16 = u.toNat := by
    omega
  simp only [Option.bind_eq_bind, Option.bind_some, hvalue, UInt16.ofNat_toNat]

theorem readString_escapeUnit (u : UInt16) (rest : Text) :
    readString (escapeUnit u ++ rest) =
      (readString rest).map fun (units, rest) => (u :: units, rest) := by
  unfold escapeUnit
  split
  · subst_vars
    exact readString_short (by decide) rfl rest
  split
  · subst_vars
    exact readString_short (by decide) rfl rest
  split
  · subst_vars
    exact readString_short (by decide) rfl rest
  split
  · subst_vars
    exact readString_short (by decide) rfl rest
  split
  · subst_vars
    exact readString_short (by decide) rfl rest
  split
  · subst_vars
    exact readString_short (by decide) rfl rest
  split
  · subst_vars
    exact readString_short (by decide) rfl rest
  split
  · exact readString_hex (hexUnit_hexEscape u) rest
  · rename_i hquote hback _ _ _ _ _ hplain
    exact readString_plain hquote hback (fun hlow => hplain (.inl hlow)) rest

theorem surrogate_plain {u : UInt16} (h : Utf16.isHigh u = true ∨ Utf16.isLow u = true) :
    u ≠ unit '"' ∧ u ≠ unit '\\' ∧ ¬ u < 0x20 := by
  have hge : 0xd800 ≤ u.toNat := by
    simp only [Utf16.isHigh, Utf16.isLow, Bool.and_eq_true, decide_eq_true_eq] at h
    omega
  refine ⟨?_, ?_, ?_⟩
  · rintro rfl
    exact absurd hge (by decide)
  · rintro rfl
    exact absurd hge (by decide)
  · intro hlow
    have hlt : u.toNat < 32 := hlow
    omega

theorem readString_write (text rest : Text) :
    readString (writeString text ++ (unit '"' :: rest)) = some (text, rest) := by
  fun_induction writeString text with
  | case1 => exact readString_quote rest
  | case2 u => rw [readString_escapeUnit, readString_quote, Option.map_some]
  | case3 u v tail hpair ih =>
    obtain ⟨hquote, hback, hlow⟩ := surrogate_plain (.inl hpair.1)
    obtain ⟨hquote', hback', hlow'⟩ := surrogate_plain (.inr hpair.2)
    rw [List.cons_append, List.cons_append, readString_plain hquote hback hlow,
      readString_plain hquote' hback' hlow', ih]
    rfl
  | case4 u v tail hpair ih => rw [List.append_assoc, readString_escapeUnit, ih, Option.map_some]

theorem readString_quoted (name rest : Text) :
    ∃ text, quoted name ++ rest = unit '"' :: text ∧ readString text = some (name, rest) := by
  refine ⟨writeString name ++ (unit '"' :: rest), ?_, readString_write name rest⟩
  simp [quoted]

/-! ### Reading values back -/

theorem skipSpace_mark {u : UInt16} (h : isSpace u = false) (rest : Text) :
    skipSpace (u :: rest) = u :: rest :=
  List.dropWhile_cons_of_neg (by simp [h])

theorem ends_separator (more : Bool) {close : UInt16} (hclose : isNumeric close = false)
    (rest : Text) : Ends ((if more then [] else [unit ',']) ++ (close :: rest)) := by
  intro u hu
  cases more with
  | true =>
    cases hu
    exact hclose
  | false =>
    cases hu
    decide

mutual

/-- The grammar reads what is written, in front of anything that ends a number. -/
theorem reads_write : ∀ (value : Value) (rest : Text), Ends rest →
    Reads (write value ++ rest) (.value value) rest
  | .null, rest, _ => by
    rw [write]
    exact .nullWord rest
  | .bool true, rest, _ => by
    rw [write]
    exact .trueWord rest
  | .bool false, rest, _ => by
    rw [write]
    exact .falseWord rest
  | .number value, rest, h => by
    rw [write]
    exact .number (readNumber_write value h)
  | .string text, rest, _ => by
    rw [write]
    obtain ⟨tail, htail, hread⟩ := readString_quoted text rest
    rw [htail]
    exact .string hread
  | .array [], rest, _ => by
    rw [write, writeItems]
    exact .emptyArray (skipSpace_mark (by decide) rest)
  | .array (item :: items), rest, _ => by
    rw [write, List.cons_append]
    have hitems := reads_writeItems (item :: items) rest (List.cons_ne_nil _ _)
    refine .array ?_
    rw [skipSpace_of_reads hitems]
    exact hitems
  | .object [], rest, _ => by
    rw [write, writeMembers]
    exact .emptyObject (skipSpace_mark (by decide) rest)
  | .object (member :: members), rest, _ => by
    rw [write, List.cons_append]
    have hmembers := reads_writeMembers (member :: members) rest (List.cons_ne_nil _ _)
    refine .object ?_
    rw [skipSpace_of_reads hmembers]
    exact hmembers

theorem reads_writeItems : ∀ (items : List Value) (rest : Text), items ≠ [] →
    Reads (writeItems items ++ rest) (.items items) rest
  | [], _, h => absurd rfl h
  | [item], rest, _ => by
    rw [writeItems, writeItems, List.append_assoc]
    refine .lastItem (reads_write item _ ?_) (skipSpace_mark (by decide) rest)
    exact ends_separator true (by decide) rest
  | item :: next :: items, rest, _ => by
    rw [writeItems, List.append_assoc]
    have hitems := reads_writeItems (next :: items) rest (List.cons_ne_nil _ _)
    refine .moreItems (reads_write item _ ?_) (skipSpace_mark (by decide) _) ?_
    · exact fun u hu => by
        cases hu
        decide
    · change Reads (skipSpace (writeItems (next :: items) ++ rest)) _ rest
      rw [skipSpace_of_reads hitems]
      exact hitems

theorem reads_writeMembers : ∀ (members : List (Text × Value)) (rest : Text), members ≠ [] →
    Reads (writeMembers members ++ rest) (.members members) rest
  | [], _, h => absurd rfl h
  | [(name, value)], rest, _ => by
    rw [writeMembers, writeMembers, List.append_assoc, List.cons_append, List.append_assoc]
    obtain ⟨tail, htail, hread⟩ := readString_quoted name
      (unit ':' :: (write value ++ ([] ++ [unit '\x7d'] ++ rest)))
    have hvalue := reads_write value ([unit '\x7d'] ++ rest) (ends_separator true (by decide) rest)
    refine (congrArg (fun text => Reads text _ rest) htail).mpr ?_
    refine .lastMember hread (skipSpace_mark (by decide) _) ?_ (skipSpace_mark (by decide) rest)
    rw [List.nil_append, skipSpace_of_reads hvalue]
    exact hvalue
  | (name, value) :: next :: members, rest, _ => by
    rw [writeMembers, List.append_assoc, List.cons_append, List.append_assoc]
    have hmembers := reads_writeMembers (next :: members) rest (List.cons_ne_nil _ _)
    obtain ⟨tail, htail, hread⟩ := readString_quoted name
      (unit ':' :: (write value ++ (unit ',' :: (writeMembers (next :: members) ++ rest))))
    have hvalue := reads_write value (unit ',' :: (writeMembers (next :: members) ++ rest))
      fun u hu => by
        cases hu
        decide
    refine (congrArg (fun text => Reads text _ rest) htail).mpr ?_
    refine .moreMembers hread (skipSpace_mark (by decide) _)
      ((skipSpace_of_reads hvalue).symm ▸ hvalue) (skipSpace_mark (by decide) _) ?_
    rw [skipSpace_of_reads hmembers]
    exact hmembers

end

theorem parse_write_append (value : Value) (space : Text) (h : ∀ u ∈ space, isSpace u = true) :
    parse (write value ++ space) = some value := by
  have hends : Ends space := by
    intro u hu
    have hspace := h u (List.mem_of_mem_head? hu)
    simp only [isSpace, Bool.or_eq_true, beq_iff_eq] at hspace
    rcases hspace with ((rfl | rfl) | rfl) | rfl <;> decide
  have hreads := reads_write value space hends
  refine parse_eq_some.mpr ⟨space, ?_, List.dropWhile_eq_nil_iff.mpr h⟩
  rw [skipSpace_of_reads hreads]
  exact hreads

@[simp] theorem parse_write (value : Value) : parse (write value) = some value := by
  have h := parse_write_append value [] (fun _ hu => absurd hu (List.not_mem_nil))
  rwa [List.append_nil] at h

theorem write_injective : Function.Injective write := by
  intro first second h
  have hfirst := parse_write first
  rw [h, parse_write] at hfirst
  exact (Option.some.inj hfirst).symm

end Json

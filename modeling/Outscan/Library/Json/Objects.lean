import Outscan.Library.Datum
import Outscan.Library.Double
import Outscan.Library.Json.Bytes

/-! What a program sees of a parsed JSON value: texts, numbers as doubles, and objects in which
the last member of a name counts. -/
namespace Json

open Dynamic

/-! ### Texts -/

def textOf (text : String) : Text := Utf16.encode text.toList

instance (text : Text) : Decidable (Utf16.WellFormed text) :=
  inferInstanceAs (Decidable (none ∉ Utf16.read text))

def text? (units : Text) : Option String :=
  if Utf16.WellFormed units then some (String.ofList (Utf16.toChars units)) else none

@[simp] theorem text?_textOf (text : String) : text? (textOf text) = some text := by
  rw [text?, textOf, if_pos (Utf16.wellFormed_encode _), Utf16.toChars_encode,
    String.ofList_toList]

theorem text?_eq_some {units : Text} {text : String} :
    text? units = some text ↔ units = textOf text := by
  constructor
  · intro h
    unfold text? at h
    split at h
    · rename_i hwell
      rw [← Option.some.inj h, textOf, String.toList_ofList, Utf16.encode_toChars hwell]
    · cases h
  · rintro rfl
    exact text?_textOf text

theorem textOf_injective : Function.Injective textOf := by
  intro first second h
  have hfirst := text?_textOf first
  rw [h, text?_textOf] at hfirst
  exact (Option.some.inj hfirst).symm

/-! ### Numbers -/

def Decimal.toRat (value : Decimal) : ℚ :=
  (if value.negative then -1 else 1) * value.coefficient * 10 ^ value.exponent

def Decimal.whole? (value : Decimal) : Option Int := Double.whole? value.toRat

def Decimal.natural (n : Nat) : Decimal := ⟨false, n, 0⟩

theorem whole?_natural {n : Nat} (h : n < 2 ^ 53) : (Decimal.natural n).whole? = some (n : Int) := by
  have hvalue : (Decimal.natural n).toRat = n := by
    simp [Decimal.natural, Decimal.toRat]
  rw [Decimal.whole?, hvalue, Double.whole?_natCast h]

def Decimal.double (value : Decimal) : Number :=
  match value.whole? with
  | some n => if n = 0 ∧ value.negative = true then .negativeZero else .whole n
  | none => .other (Double.bits value.toRat)

@[simp] theorem double_natural {n : Nat} (h : n < 2 ^ 53) :
    (Decimal.natural n).double = .whole n := by
  have hpos : (Decimal.natural n).negative = false := rfl
  unfold Decimal.double
  simp only [whole?_natural h, hpos, Bool.false_eq_true, and_false, if_false]

/-! ### Objects -/

section Objects

variable {α β : Type}

def lastMembers : List (Text × α) → List (Text × α)
  | [] => []
  | (name, value) :: rest =>
    if name ∈ rest.map Prod.fst then lastMembers rest else (name, value) :: lastMembers rest

theorem lastMembers_of_nodup {members : List (Text × α)} (h : (members.map Prod.fst).Nodup) :
    lastMembers members = members := by
  induction members with
  | nil => rfl
  | cons first rest ih =>
    obtain ⟨hnot, hrest⟩ := List.nodup_cons.mp h
    rw [lastMembers, if_neg hnot, ih hrest]

/-- The members under names that are texts; there is none when one of the names is not. -/
def named : List (Text × α) → Option (List (String × α))
  | [] => some []
  | (name, value) :: rest => do
    let key ← text? name
    let fields ← named rest
    some ((key, value) :: fields)

theorem named_eq_some {members : List (Text × α)} {fields : List (String × α)} :
    named members = some fields ↔
      members = fields.map fun (field : String × α) => (textOf field.1, field.2) := by
  induction members generalizing fields with
  | nil => cases fields <;> simp [named]
  | cons first rest ih =>
    simp only [named, Option.bind_eq_bind, Option.bind_eq_some_iff, Option.some.injEq]
    constructor
    · intro h
      obtain ⟨key, hkey, others, hothers, rfl⟩ := h
      rw [List.map_cons, ← ih.mp hothers, ← text?_eq_some.mp hkey]
    · intro h
      cases fields with
      | nil => cases h
      | cons field others =>
        obtain ⟨hfirst, hrest⟩ := List.cons.inj h
        subst hfirst
        exact ⟨field.1, text?_textOf _, others, ih.mpr hrest, rfl⟩

def literal (fields : List (String × α)) : List (Text × α) :=
  fields.map fun field => (textOf field.1, field.2)

theorem nodup_literal {fields : List (String × α)} (h : (fields.map Prod.fst).Nodup) :
    ((literal fields).map Prod.fst).Nodup := by
  unfold literal
  rw [List.map_map]
  have hnames := h.map textOf_injective
  rwa [List.map_map] at hnames

theorem named_literal (fields : List (String × α)) : named (literal fields) = some fields :=
  named_eq_some.mpr rfl

end Objects

/-! ### Values -/

mutual

/-- A parsed value. A text with a lone surrogate counts as a value of no type that is asked for,
and so does an object that has such a text among its names. -/
def Value.datum : Value → Datum
  | .null => .null
  | .bool value => .bool value
  | .number value => .number value.double
  | .string text => (text? text).elim (.other 0) .string
  | .array items => .array (itemData items)
  | .object members => (named (lastMembers (memberData members))).elim (.other 0) .object

def itemData : List Value → List Datum
  | [] => []
  | item :: rest => item.datum :: itemData rest

def memberData : List (Text × Value) → List (Text × Datum)
  | [] => []
  | (name, value) :: rest => (name, value.datum) :: memberData rest

end

theorem itemData_eq_map (items : List Value) : itemData items = items.map Value.datum := by
  induction items with
  | nil => rfl
  | cons item rest ih => rw [itemData, ih, List.map_cons]

theorem memberData_literal (fields : List (String × Value)) :
    memberData (literal fields) = literal (fields.map fun field => (field.1, field.2.datum)) := by
  induction fields with
  | nil => rfl
  | cons field rest ih =>
    unfold literal at ih ⊢
    rw [List.map_cons, memberData, ih]
    rfl

@[simp] theorem datum_textOf (text : String) :
    (Value.string (textOf text)).datum = .string text := by
  rw [Value.datum, text?_textOf, Option.elim_some]

@[simp] theorem datum_natural {n : Nat} (h : n < 2 ^ 53) :
    (Value.number (.natural n)).datum = .number (.whole n) := by
  rw [Value.datum, double_natural h]

@[simp] theorem datum_array (items : List Value) :
    (Value.array items).datum = .array (items.map Value.datum) := by
  rw [Value.datum, itemData_eq_map]

theorem datum_literal {fields : List (String × Value)} (h : (fields.map Prod.fst).Nodup) :
    (Value.object (literal fields)).datum =
      .object (fields.map fun field => (field.1, field.2.datum)) := by
  have hnames : ((fields.map fun field => (field.1, field.2.datum)).map Prod.fst).Nodup := by
    rw [List.map_map]
    exact h
  rw [Value.datum, memberData_literal, lastMembers_of_nodup (nodup_literal hnames), named_literal,
    Option.elim_some]

/-! ### Members of a value -/

def Value.get? (name : String) : Value → Option Value
  | .object members => (lastMembers members).lookup (textOf name)
  | _ => none

/-- An object with as many members as `names`, among them one of each name. -/
def Value.hasExactKeys (names : List String) : Value → Bool
  | .object members =>
    let own := (lastMembers members).map Prod.fst
    decide (own.length = names.length) && names.all fun name => own.contains (textOf name)
  | _ => false

def Value.items? : Value → Option (List Value)
  | .array items => some items
  | _ => none

def Value.units? : Value → Option Text
  | .string units => some units
  | _ => none

def Value.string? (value : Value) : Option String := value.units?.bind text?

def Value.natural? : Value → Option Nat
  | .number value =>
    match value.double with
    | .whole n => if 0 ≤ n then some n.toNat else none
    | .negativeZero => some 0
    | .other _ => none
  | _ => none

@[simp] theorem string?_textOf (text : String) : (Value.string (textOf text)).string? = some text :=
  text?_textOf text

@[simp] theorem natural?_natural {n : Nat} (h : n < 2 ^ 53) :
    (Value.number (.natural n)).natural? = some n := by
  unfold Value.natural?
  dsimp only
  rw [double_natural h]
  dsimp only
  rw [if_pos (Int.natCast_nonneg n), Int.toNat_natCast]

theorem lookup_literal {α : Type} (fields : List (String × α)) (name : String) :
    (literal fields).lookup (textOf name) = fields.lookup name := by
  induction fields with
  | nil => rfl
  | cons field rest ih =>
    unfold literal at ih ⊢
    rw [List.map_cons, List.lookup_cons, List.lookup_cons, ih]
    by_cases hname : name = field.1
    · rw [hname, beq_self_eq_true, beq_self_eq_true]
    · rw [beq_false_of_ne hname, beq_false_of_ne fun h => hname (textOf_injective h)]

theorem get?_literal {fields : List (String × Value)} (h : (fields.map Prod.fst).Nodup)
    (name : String) : (Value.object (literal fields)).get? name = fields.lookup name := by
  rw [Value.get?, lastMembers_of_nodup (nodup_literal h), lookup_literal]

theorem lookup_cons_ite {α : Type} (key : String) (value : α) (rest : List (String × α))
    (name : String) :
    List.lookup name ((key, value) :: rest) =
      if name = key then some value else rest.lookup name := by
  rw [List.lookup_cons]
  by_cases h : name = key
  · rw [if_pos h, beq_iff_eq.mpr h]
  · rw [if_neg h, beq_false_of_ne h]

theorem hasExactKeys_literal {fields : List (String × Value)} (h : (fields.map Prod.fst).Nodup)
    {names : List String} (hnames : fields.map Prod.fst = names) :
    (Value.object (literal fields)).hasExactKeys names = true := by
  have hown : (literal fields).map Prod.fst = names.map textOf := by
    rw [← hnames, literal, List.map_map, List.map_map]
    rfl
  unfold Value.hasExactKeys
  dsimp only
  rw [lastMembers_of_nodup (nodup_literal h), hown, List.length_map, decide_eq_true rfl,
    Bool.true_and, List.all_eq_true]
  intro name hname
  exact List.contains_iff_mem.mpr (List.mem_map_of_mem hname)

/-! ### Written objects have distinct names and little depth -/

namespace Value

def Tame (limit : Nat) (value : Value) : Prop := value.UniqueKeys ∧ value.depth ≤ limit

theorem tame_string (limit : Nat) (text : Text) : (Value.string text).Tame limit :=
  ⟨trivial, Nat.zero_le _⟩

theorem tame_number (limit : Nat) (value : Decimal) : (Value.number value).Tame limit :=
  ⟨trivial, Nat.zero_le _⟩

theorem tame_array {limit : Nat} {items : List Value} (h : ∀ item ∈ items, item.Tame limit) :
    (Value.array items).Tame (limit + 1) := by
  have hitems : UniqueItems items ∧ depthItems items ≤ limit := by
    induction items with
    | nil => exact ⟨trivial, Nat.zero_le _⟩
    | cons item rest ih =>
      have hitem := h item List.mem_cons_self
      have hrest := ih fun other hother => h other (List.mem_cons_of_mem _ hother)
      exact ⟨⟨hitem.1, hrest.1⟩, Nat.max_le.mpr ⟨hitem.2, hrest.2⟩⟩
  exact ⟨hitems.1, Nat.succ_le_succ hitems.2⟩

theorem tame_literal {limit : Nat} {fields : List (String × Value)}
    (hnames : (fields.map Prod.fst).Nodup) (h : ∀ field ∈ fields, field.2.Tame limit) :
    (Value.object (literal fields)).Tame (limit + 1) := by
  have hmembers : UniqueMembers (literal fields) ∧ depthMembers (literal fields) ≤ limit := by
    clear hnames
    induction fields with
    | nil => exact ⟨trivial, Nat.zero_le _⟩
    | cons field rest ih =>
      have hfield := h field List.mem_cons_self
      have hrest := ih fun other hother => h other (List.mem_cons_of_mem _ hother)
      exact ⟨⟨hfield.1, hrest.1⟩, Nat.max_le.mpr ⟨hfield.2, hrest.2⟩⟩
  exact ⟨⟨nodup_literal hnames, hmembers.1⟩, Nat.succ_le_succ hmembers.2⟩

end Value

/-! ### What is written is not long -/

theorem length_quoted_textOf_le (text : String) :
    (quoted (textOf text)).length ≤ 12 * text.length + 2 := by
  have hunits : (textOf text).length ≤ 2 * text.toList.length := Utf16.length_encode_le _
  have hwritten := length_writeString_le (textOf text)
  rw [String.length_toList] at hunits
  rw [quoted, List.length_cons, List.length_append, List.length_singleton]
  omega

theorem length_write_natural_le {n width : Nat} (hwidth : 0 < width) (h : n < 10 ^ width) :
    (write (.number (.natural n))).length ≤ width := by
  have hdigits : (Nat.toDigits 10 n).length ≤ width :=
    (Nat.length_toDigits_le_iff (by decide) hwidth).mpr h
  simpa [write, writeNumber, writeSign, writeExponent, writeNat, Decimal.natural] using hdigits

theorem length_write_array_le {items : List Value} {bound : Nat}
    (h : ∀ item ∈ items, (write item).length ≤ bound) :
    (write (.array items)).length ≤ items.length * (bound + 1) + 2 := by
  have hitems : (writeItems items).length ≤ items.length * (bound + 1) + 1 := by
    induction items with
    | nil => simp [writeItems]
    | cons item rest ih =>
      have hitem := h item List.mem_cons_self
      have hrest := ih fun other hother => h other (List.mem_cons_of_mem _ hother)
      have hcomma : (if rest.isEmpty then [] else [unit ',']).length ≤ 1 := by split <;> simp
      rw [writeItems, List.length_append, List.length_append, List.length_cons, Nat.succ_mul]
      omega
  rw [write, List.length_cons]
  omega

theorem length_write_literal_le {fields : List (String × Value)} {width bound : Nat}
    (hnames : ∀ name ∈ fields.map Prod.fst, name.length ≤ width)
    (hvalues : ∀ value ∈ fields.map Prod.snd, (write value).length ≤ bound) :
    (write (.object (literal fields))).length ≤ fields.length * (12 * width + bound + 4) + 2 := by
  have hmembers : (writeMembers (literal fields)).length ≤
      fields.length * (12 * width + bound + 4) + 1 := by
    induction fields with
    | nil => simp [literal, writeMembers]
    | cons field rest ih =>
      rw [List.map_cons, List.forall_mem_cons] at hnames hvalues
      have hname := length_quoted_textOf_le field.1
      have hrest := ih hnames.2 hvalues.2
      have hcomma : (if (literal rest).isEmpty then [] else [unit ',']).length ≤ 1 := by
        split <;> simp
      unfold literal at hrest hcomma ⊢
      rw [List.map_cons, writeMembers, List.length_append, List.length_cons, List.length_append,
        List.length_append, List.length_cons, Nat.succ_mul]
      omega
  rw [write, List.length_cons]
  omega

end Json

import Outscan.GuestScanner.SecurityTxt

/-! The verdict on a `security.txt` depends on its fields alone: not on their
order, on the kind of line ends, or on comments and blank lines. -/
namespace Outscan

/-! ### Lines and their text -/

structure TextLine where
  content : List Char
  carriageReturn : Bool
deriving DecidableEq, Repr

def TextLine.text (line : TextLine) : List Char :=
  line.content ++ if line.carriageReturn then ['\r', '\n'] else ['\n']

def renderLines (lines : List TextLine) : List Char := lines.flatMap TextLine.text

def textLines : List Char → List TextLine
  | '\r' :: '\n' :: rest => ⟨[], true⟩ :: textLines rest
  | '\n' :: rest => ⟨[], false⟩ :: textLines rest
  | c :: rest =>
    match textLines rest with
    | [] => []
    | line :: more => { line with content := c :: line.content } :: more
  | [] => []

/-- Neither a byte order mark nor one of the characters that no file may hold. -/
def IsPlainChar (c : Char) : Prop := c.toNat ≠ 0xfeff ∧ isForbiddenInSecurityTxt c = false

def TextLine.Plain (line : TextLine) : Prop :=
  ∀ c ∈ line.content, IsPlainChar c ∧ c ≠ '\r' ∧ c ≠ '\n'

theorem returnsPaired_cons {c : Char} {rest : List Char}
    (hreturn : ∀ more, c = '\r' → rest = '\n' :: more → False)
    (h : returnsPaired (c :: rest) = true) : c ≠ '\r' ∧ returnsPaired rest = true := by
  by_cases hc : c = '\r'
  · subst hc
    rw [returnsPaired] at h
    · cases h
    · exact fun more hrest => hreturn more rfl hrest
  · rw [returnsPaired] at h
    · exact ⟨hc, h⟩
    · exact hreturn
    · exact hc

theorem ends_tail {c : Char} {rest : List Char} (hc : c ≠ '\n')
    (h : c :: rest = [] ∨ (c :: rest).getLast? = some '\n') :
    rest ≠ [] ∧ rest.getLast? = some '\n' := by
  cases rest with
  | nil =>
    rcases h with h | h
    · cases h
    · exact absurd (Option.some.inj h) hc
  | cons d more => exact ⟨List.cons_ne_nil _ _, by simpa using h⟩

theorem renderLines_textLines {text : List Char} (hpaired : returnsPaired text = true)
    (hends : text = [] ∨ text.getLast? = some '\n') : renderLines (textLines text) = text := by
  have htail : ∀ {c : Char} {rest : List Char}, (c :: rest).getLast? = some '\n' →
      rest = [] ∨ rest.getLast? = some '\n' := by
    intro c rest h
    cases rest with
    | nil => exact .inl rfl
    | cons d more => exact .inr (by simpa using h)
  fun_induction textLines text with
  | case1 rest ih =>
    have hlast := hends.resolve_left (List.cons_ne_nil _ _)
    have hrest := ih (by simpa [returnsPaired] using hpaired) (htail (c := '\n') (by simpa using hlast))
    exact congrArg (fun rest => '\r' :: '\n' :: rest) hrest
  | case2 rest ih =>
    have hlast := hends.resolve_left (List.cons_ne_nil _ _)
    have hrest := ih (by simpa [returnsPaired] using hpaired) (htail hlast)
    exact congrArg ('\n' :: ·) hrest
  | case3 c rest hreturn hfeed hnil ih =>
    obtain ⟨hne, hlast⟩ := ends_tail hfeed hends
    have hrest := ih (returnsPaired_cons hreturn hpaired).2 (.inr hlast)
    rw [hnil] at hrest
    exact absurd hrest.symm hne
  | case4 c rest hreturn hfeed line more hlines ih =>
    obtain ⟨-, hlast⟩ := ends_tail hfeed hends
    have hrest := ih (returnsPaired_cons hreturn hpaired).2 (.inr hlast)
    rw [hlines] at hrest
    exact congrArg (c :: ·) hrest
  | case5 => rfl

theorem textLines_plain {text : List Char} (hpaired : returnsPaired text = true)
    (hplain : ∀ c ∈ text, IsPlainChar c) : ∀ line ∈ textLines text, line.Plain := by
  fun_induction textLines text with
  | case1 rest ih =>
    refine List.forall_mem_cons.mpr ⟨by simp [TextLine.Plain], ih (by simpa [returnsPaired] using hpaired) ?_⟩
    exact fun c hc => hplain c (List.mem_cons_of_mem _ (List.mem_cons_of_mem _ hc))
  | case2 rest ih =>
    refine List.forall_mem_cons.mpr ⟨by simp [TextLine.Plain], ih (by simpa [returnsPaired] using hpaired) ?_⟩
    exact fun c hc => hplain c (List.mem_cons_of_mem _ hc)
  | case3 c rest hreturn hfeed hnil ih => simp
  | case4 c rest hreturn hfeed line more hlines ih =>
    obtain ⟨hc, hrest⟩ := returnsPaired_cons hreturn hpaired
    have hall := ih hrest fun d hd => hplain d (List.mem_cons_of_mem _ hd)
    rw [hlines] at hall
    obtain ⟨hline, hmore⟩ := List.forall_mem_cons.mp hall
    refine List.forall_mem_cons.mpr ⟨?_, hmore⟩
    exact List.forall_mem_cons.mpr ⟨⟨hplain c List.mem_cons_self, hc, hfeed⟩, hline⟩
  | case5 => simp

theorem joinReturns_append {content rest : List Char} (h : '\r' ∉ content) :
    joinReturns (content ++ rest) = content ++ joinReturns rest := by
  induction content with
  | nil => rfl
  | cons c more ih =>
    obtain ⟨hc, hmore⟩ := List.ne_and_not_mem_of_not_mem_cons h
    rw [List.cons_append, joinReturns, ih hmore, List.cons_append]
    exact fun _ heq => absurd heq.symm hc

theorem returnsPaired_append {content rest : List Char} (h : '\r' ∉ content) :
    returnsPaired (content ++ rest) = returnsPaired rest := by
  induction content with
  | nil => rfl
  | cons c more ih =>
    obtain ⟨hc, hmore⟩ := List.ne_and_not_mem_of_not_mem_cons h
    rw [List.cons_append, returnsPaired, ih hmore]
    · exact fun _ heq => absurd heq.symm hc
    · exact fun heq => hc heq.symm

section Rendered

variable {lines : List TextLine}

theorem TextLine.Plain.not_mem_return {line : TextLine} (h : line.Plain) : '\r' ∉ line.content :=
  fun hmem => (h _ hmem).2.1 rfl

theorem TextLine.Plain.not_mem_feed {line : TextLine} (h : line.Plain) : '\n' ∉ line.content :=
  fun hmem => (h _ hmem).2.2 rfl

theorem joinReturns_renderLines (h : ∀ line ∈ lines, line.Plain) :
    joinReturns (renderLines lines) = lines.flatMap fun line => line.content ++ ['\n'] := by
  induction lines with
  | nil => rfl
  | cons line rest ih =>
    obtain ⟨hline, hrest⟩ := List.forall_mem_cons.mp h
    have htail := ih hrest
    unfold renderLines at htail ⊢
    rw [List.flatMap_cons, List.flatMap_cons, TextLine.text, List.append_assoc,
      joinReturns_append hline.not_mem_return, List.append_assoc, ← htail]
    split <;> rfl

theorem returnsPaired_renderLines (h : ∀ line ∈ lines, line.Plain) :
    returnsPaired (renderLines lines) = true := by
  induction lines with
  | nil => rfl
  | cons line rest ih =>
    obtain ⟨hline, hrest⟩ := List.forall_mem_cons.mp h
    have htail := ih hrest
    unfold renderLines at htail ⊢
    rw [List.flatMap_cons, TextLine.text, List.append_assoc,
      returnsPaired_append hline.not_mem_return]
    split <;> exact htail

theorem splitOn_renderLines (h : ∀ line ∈ lines, line.Plain) :
    ((joinReturns (renderLines lines)).splitOn '\n').dropLast = lines.map TextLine.content := by
  have hjoin : (lines.flatMap fun line => line.content ++ ['\n']) =
      ['\n'].intercalate (lines.map TextLine.content ++ [[]]) := by
    clear h
    induction lines with
    | nil => rfl
    | cons line rest ih =>
      rw [List.flatMap_cons, ih, List.map_cons, List.cons_append]
      cases rest <;> simp [List.intercalate_cons_cons]
  have hclean : ∀ part ∈ lines.map TextLine.content ++ [[]], '\n' ∉ part := by
    intro part hpart
    rcases List.mem_append.mp hpart with hmem | hlast
    · obtain ⟨line, hline, rfl⟩ := List.mem_map.mp hmem
      exact (h line hline).not_mem_feed
    · rw [List.mem_singleton.mp hlast]
      exact List.not_mem_nil
  rw [joinReturns_renderLines h, hjoin, List.splitOn_intercalate '\n' hclean (by simp),
    List.dropLast_concat]

theorem mem_renderLines {c : Char} (h : ∀ line ∈ lines, line.Plain) (hc : c ∈ renderLines lines) :
    IsPlainChar c := by
  obtain ⟨line, hline, hmem⟩ := List.mem_flatMap.mp hc
  rcases List.mem_append.mp hmem with hcontent | hend
  · exact (h line hline c hcontent).1
  · have hcases : c = '\r' ∨ c = '\n' := by
      split at hend <;> simp_all
    rcases hcases with rfl | rfl <;> exact ⟨by decide, by decide⟩

theorem getLast?_renderLines (hne : lines ≠ []) : (renderLines lines).getLast? = some '\n' := by
  have hlast : ∀ line : TextLine, line.text.getLast? = some '\n' := by
    intro line
    unfold TextLine.text
    split <;> simp
  rw [← List.dropLast_concat_getLast hne, renderLines, List.flatMap_append, List.flatMap_singleton,
    List.getLast?_append, hlast]
  rfl

end Rendered

/-! ### Fields -/

def isContentLine (line : List Char) : Bool := !((jsTrim line).isEmpty || line.head? == some '#')

def loweredName (name : List Char) : String := String.ofList (name.map Char.toLower)

/-- The value of the line if it is the field `name`. -/
def valueIn (name : String) (line : List Char) : Option (List Char) :=
  if isContentLine line then
    (fieldOf line).bind fun field => if loweredName field.1 = name then some field.2 else none
  else none

/-- The values of the fields `name`, in order. -/
def valuesOf (name : String) (lines : List (List Char)) : List (List Char) :=
  lines.filterMap (valueIn name)

section Fields

variable (runtime : ScannerRuntime) (canonicalHost : String) (nowUnixMs : Nat)

/-- What the loop asks of the lines, with `started` expiry fields before them. -/
structure SoundFields (started : Nat) (lines : List (List Char)) : Prop where
  fields : ∀ line ∈ lines, isContentLine line = true → (fieldOf line).isSome = true
  contacts : ∀ value ∈ valuesOf "contact" lines, validContact runtime value = true
  expires : ∀ value ∈ valuesOf "expires" lines, validExpires runtime value nowUnixMs = true
  once : valuesOf "expires" lines = [] ∨ started + (valuesOf "expires" lines).length ≤ 1
  canonicals : ∀ value ∈ valuesOf "canonical" lines, canonicalMatch runtime value canonicalHost ≠ none

def tally (counts : FieldCounts) (lines : List (List Char)) : FieldCounts where
  contacts := counts.contacts + (valuesOf "contact" lines).length
  expires := counts.expires + (valuesOf "expires" lines).length
  canonicalSeen := counts.canonicalSeen ||
    (valuesOf "canonical" lines).any fun value => canonicalMatch runtime value canonicalHost == some true

variable {runtime canonicalHost nowUnixMs}

theorem soundFields_singleton {started : Nat} {line : List Char}
    (hfields : isContentLine line = true → (fieldOf line).isSome = true) :
    SoundFields runtime canonicalHost nowUnixMs started [line] ↔
      (∀ value ∈ valuesOf "contact" [line], validContact runtime value = true) ∧
      (∀ value ∈ valuesOf "expires" [line], validExpires runtime value nowUnixMs = true) ∧
      (valuesOf "expires" [line] = [] ∨ started + (valuesOf "expires" [line]).length ≤ 1) ∧
      ∀ value ∈ valuesOf "canonical" [line], canonicalMatch runtime value canonicalHost ≠ none := by
  constructor
  · intro h
    exact ⟨h.contacts, h.expires, h.once, h.canonicals⟩
  · rintro ⟨hcontacts, hexpires, honce, hcanonicals⟩
    exact ⟨by simpa using hfields, hcontacts, hexpires, honce, hcanonicals⟩

theorem valuesOf_append (name : String) (first second : List (List Char)) :
    valuesOf name (first ++ second) = valuesOf name first ++ valuesOf name second :=
  List.filterMap_append

theorem tally_append (counts : FieldCounts) (first second : List (List Char)) :
    tally runtime canonicalHost counts (first ++ second) =
      tally runtime canonicalHost (tally runtime canonicalHost counts first) second := by
  simp only [tally, valuesOf_append, List.length_append, List.any_append, Nat.add_assoc,
    Bool.or_assoc]

theorem soundFields_append {started : Nat} {first second : List (List Char)} :
    SoundFields runtime canonicalHost nowUnixMs started (first ++ second) ↔
      SoundFields runtime canonicalHost nowUnixMs started first ∧
        SoundFields runtime canonicalHost nowUnixMs
          (started + (valuesOf "expires" first).length) second := by
  have honce : ∀ a b : List (List Char), (a ++ b = [] ∨ started + (a ++ b).length ≤ 1) ↔
      (a = [] ∨ started + a.length ≤ 1) ∧ (b = [] ∨ started + a.length + b.length ≤ 1) := by
    intro a b
    rw [List.append_eq_nil_iff, List.length_append]
    cases b <;> cases a <;> simp
    omega
  constructor
  · rintro ⟨hfields, hcontacts, hexpires, honly, hcanonicals⟩
    simp only [valuesOf_append, List.forall_mem_append] at hfields hcontacts hexpires honly hcanonicals
    obtain ⟨hfirst, hsecond⟩ := (honce _ _).mp honly
    exact ⟨⟨hfields.1, hcontacts.1, hexpires.1, hfirst, hcanonicals.1⟩,
      ⟨hfields.2, hcontacts.2, hexpires.2, hsecond, hcanonicals.2⟩⟩
  · rintro ⟨h₁, h₂⟩
    refine ⟨List.forall_mem_append.mpr ⟨h₁.fields, h₂.fields⟩, ?_, ?_, ?_, ?_⟩
    · rw [valuesOf_append]
      exact List.forall_mem_append.mpr ⟨h₁.contacts, h₂.contacts⟩
    · rw [valuesOf_append]
      exact List.forall_mem_append.mpr ⟨h₁.expires, h₂.expires⟩
    · rw [valuesOf_append]
      exact (honce _ _).mpr ⟨h₁.once, h₂.once⟩
    · rw [valuesOf_append]
      exact List.forall_mem_append.mpr ⟨h₁.canonicals, h₂.canonicals⟩

theorem valuesOf_singleton {line name value : List Char} (hcontent : isContentLine line = true)
    (hfield : fieldOf line = some (name, value)) (wanted : String) :
    valuesOf wanted [line] = if loweredName name = wanted then [value] else [] := by
  unfold valuesOf
  rw [List.filterMap_cons, valueIn, if_pos hcontent, hfield, Option.bind_some]
  by_cases hname : loweredName name = wanted <;> simp [hname]

theorem valuesOf_of_not_content {line : List Char} (h : isContentLine line = false)
    (wanted : String) : valuesOf wanted [line] = [] := by
  unfold valuesOf
  rw [List.filterMap_cons, valueIn, h]
  rfl

theorem checkLine_eq_some {counts next : FieldCounts} {line : List Char}
    (hlength : utf8Length line ≤ maxSecurityTxtLineBytes) :
    checkLine runtime canonicalHost nowUnixMs counts line = some next ↔
      SoundFields runtime canonicalHost nowUnixMs counts.expires [line] ∧
        next = tally runtime canonicalHost counts [line] := by
  rw [checkLine, if_neg (Nat.not_lt.mpr hlength)]
  cases hcontent : isContentLine line with
  | false =>
    have hskip : ((jsTrim line).isEmpty || line.head? == some '#') = true := by
      rwa [isContentLine, Bool.not_eq_false'] at hcontent
    have hnone := valuesOf_of_not_content hcontent
    rw [if_pos hskip]
    have hsound : SoundFields runtime canonicalHost nowUnixMs counts.expires [line] := by
      constructor <;> simp [hnone, hcontent]
    have htally : tally runtime canonicalHost counts [line] = counts := by
      simp [tally, hnone]
    rw [htally]
    constructor
    · intro h
      exact ⟨hsound, (Option.some.inj h).symm⟩
    · rintro ⟨-, rfl⟩
      rfl
  | true =>
    have hkeep : ¬ ((jsTrim line).isEmpty || line.head? == some '#') = true := by
      rwa [isContentLine, Bool.not_eq_true', Bool.eq_false_iff] at hcontent
    rw [if_neg hkeep]
    cases hfield : fieldOf line with
    | none =>
      constructor
      · intro h
        cases h
      · rintro ⟨hsound, -⟩
        have hsome := hsound.fields line List.mem_cons_self hcontent
        rw [hfield] at hsome
        cases hsome
    | some field =>
      obtain ⟨name, value⟩ := field
      have hvalues := valuesOf_singleton hcontent hfield
      rw [soundFields_singleton fun _ => by rw [hfield]; rfl]
      simp only [tally, hvalues]
      change (if loweredName name = "contact" then _ else _) = _ ↔ _
      by_cases hcontact : loweredName name = "contact"
      · cases hvalid : validContact runtime value <;> simp [hcontact, hvalid, eq_comm (a := next)]
      · rw [if_neg hcontact]
        change (if loweredName name = "expires" then _ else _) = _ ↔ _
        by_cases hexpires : loweredName name = "expires"
        · cases hvalid : validExpires runtime value nowUnixMs <;>
            simp [hexpires, hvalid, eq_comm (a := next)]
        · rw [if_neg hexpires]
          change (if loweredName name = "canonical" then _ else _) = _ ↔ _
          by_cases hcanonical : loweredName name = "canonical"
          · rw [if_pos hcanonical]
            cases hmatch : canonicalMatch runtime value canonicalHost with
            | none => simp [hcanonical, hmatch]
            | some named =>
              cases named <;> simp [hcanonical, hmatch, eq_comm (a := next)]
          · simp [hcontact, hexpires, hcanonical, eq_comm (a := next)]

theorem tally_nil (counts : FieldCounts) : tally runtime canonicalHost counts [] = counts := by
  simp [tally, valuesOf]

theorem soundFields_nil (started : Nat) :
    SoundFields runtime canonicalHost nowUnixMs started [] := by
  constructor <;> simp [valuesOf]

theorem checkLines_eq_some {counts final : FieldCounts} {lines : List (List Char)}
    (hlength : ∀ line ∈ lines, utf8Length line ≤ maxSecurityTxtLineBytes) :
    lines.foldlM (checkLine runtime canonicalHost nowUnixMs) counts = some final ↔
      SoundFields runtime canonicalHost nowUnixMs counts.expires lines ∧
        final = tally runtime canonicalHost counts lines := by
  induction lines generalizing counts with
  | nil =>
    rw [tally_nil]
    constructor
    · intro h
      exact ⟨soundFields_nil _, (Option.some.inj h).symm⟩
    · rintro ⟨-, rfl⟩
      rfl
  | cons line rest ih =>
    obtain ⟨hline, hrest⟩ := List.forall_mem_cons.mp hlength
    rw [List.foldlM_cons, Option.bind_eq_bind, Option.bind_eq_some_iff,
      ← List.singleton_append (x := line), soundFields_append, tally_append]
    constructor
    · rintro ⟨next, hnext, hfinal⟩
      obtain ⟨hsound, rfl⟩ := (checkLine_eq_some hline).mp hnext
      obtain ⟨htail, rfl⟩ := (ih hrest).mp hfinal
      exact ⟨⟨hsound, htail⟩, rfl⟩
    · rintro ⟨⟨hsound, htail⟩, rfl⟩
      exact ⟨_, (checkLine_eq_some hline).mpr ⟨hsound, rfl⟩, (ih hrest).mpr ⟨htail, rfl⟩⟩

/-! ### The field that names the file -/

theorem fieldOf_split {before line name value : List Char}
    (h : fieldOf.split before line = some (name, value)) :
    ∃ front, name = before.reverse ++ front ∧ line = front ++ ':' :: ' ' :: value := by
  fun_induction fieldOf.split before line with
  | case1 before value =>
    cases h
    exact ⟨[], (List.append_nil _).symm, rfl⟩
  | case2 before c rest _ ih =>
    obtain ⟨front, rfl, rfl⟩ := ih h
    exact ⟨c :: front, by rw [List.reverse_cons, List.append_assoc]; rfl, rfl⟩
  | case3 => cases h

theorem fieldOf_split_append {before front value : List Char} (h : ':' ∉ front) :
    fieldOf.split before (front ++ ':' :: ' ' :: value) =
      some (before.reverse ++ front, value) := by
  induction front generalizing before with
  | nil => rw [List.nil_append, List.append_nil, fieldOf.split]
  | cons c more ih =>
    obtain ⟨hc, hmore⟩ := List.ne_and_not_mem_of_not_mem_cons h
    rw [List.cons_append, fieldOf.split, ih hmore, List.reverse_cons, List.append_assoc]
    · rfl
    · exact fun _ heq => absurd heq.symm hc

theorem fieldOf_eq_some {line name value : List Char} (h : fieldOf line = some (name, value)) :
    line = name ++ ':' :: ' ' :: value := by
  unfold fieldOf at h
  split at h
  · cases h
  · rename_i found rest hsplit
    split at h
    · cases h
    · cases h
      obtain ⟨front, rfl, rfl⟩ := fieldOf_split hsplit
      rfl

theorem toLower_of_isJsSpace {c : Char} (h : isJsSpace c = true) : c.toLower = c := by
  simp only [isJsSpace, Bool.or_eq_true, Bool.and_eq_true, decide_eq_true_eq, beq_iff_eq] at h
  unfold Char.toLower
  rw [dif_neg]
  rintro ⟨hlow, hhigh⟩
  have hlowNat : 65 ≤ c.toNat := hlow
  have hhighNat : c.toNat ≤ 90 := hhigh
  omega

theorem jsTrim_ne_nil {c : Char} {rest : List Char} (h : isJsSpace c = false) :
    jsTrim (c :: rest) ≠ [] := by
  rw [jsTrim, List.dropWhile_cons_of_neg (by simp [h])]
  intro hnil
  rw [List.reverse_eq_nil_iff, List.dropWhile_eq_nil_iff] at hnil
  have hspace := hnil c (by simp)
  rw [h] at hspace
  cases hspace

theorem eq_of_toLower {c d : Char} (hd : d.toNat < 97) (h : c.toLower = d) : c = d := by
  unfold Char.toLower at h
  split at h
  · rename_i hupper
    have hvalue : c.toNat + 32 < 2 ^ 32 := by
      have hhigh : c.toNat ≤ 90 := hupper.2
      omega
    have hsum : d.toNat = c.toNat + 32 := by
      rw [← h]
      change (c.val + 32).toNat = _
      rw [UInt32.toNat_add]
      exact Nat.mod_eq_of_lt hvalue
    have hlow : 65 ≤ c.toNat := hupper.1
    omega
  · exact h

theorem canonicalLine_split {line : List Char}
    (h : (line.take 11).map Char.toLower = "canonical: ".toList) :
    ∃ name value, line = name ++ ':' :: ' ' :: value ∧ loweredName name = "canonical" ∧
      ':' ∉ name ∧ isContentLine line = true := by
  have htext : "canonical: ".toList = "canonical".toList ++ [':', ' '] := by decide
  rw [htext, List.map_eq_append_iff] at h
  obtain ⟨name, separator, htake, hname, hseparator⟩ := h
  obtain ⟨colon, tail, rfl, hcolon, htail⟩ := List.map_eq_cons_iff.mp hseparator
  obtain ⟨space, rest, rfl, hspace, hrest⟩ := List.map_eq_cons_iff.mp htail
  rw [List.map_eq_nil_iff] at hrest
  subst hrest
  rw [eq_of_toLower (by decide) hcolon, eq_of_toLower (by decide) hspace] at htake
  have hline : line = name ++ ':' :: ' ' :: line.drop 11 := by
    conv_lhs => rw [← List.take_append_drop 11 line, htake]
    rw [List.append_assoc]
    rfl
  refine ⟨name, line.drop 11, hline, ?_, ?_, ?_⟩
  · rw [loweredName, hname, String.ofList_toList]
  · intro hmem
    have hlowered := List.mem_map_of_mem (f := Char.toLower) hmem
    rw [hname] at hlowered
    exact absurd hlowered (by decide)
  · obtain ⟨first, more, rfl, hfirst, -⟩ := List.map_eq_cons_iff.mp
      (hname.trans (show "canonical".toList = 'c' :: "anonical".toList by decide))
    have hblank : isJsSpace first = false := by
      rw [Bool.eq_false_iff]
      intro hspaces
      rw [toLower_of_isJsSpace hspaces] at hfirst
      subst hfirst
      exact absurd hspaces (by decide)
    have hcomment : first ≠ '#' := by
      rintro rfl
      exact absurd hfirst (by decide)
    rw [hline, isContentLine, List.cons_append, Bool.not_eq_true', Bool.or_eq_false_iff]
    refine ⟨?_, by simpa using hcomment⟩
    rw [List.isEmpty_eq_false_iff]
    exact jsTrim_ne_nil hblank

/-- A line is one that the second scan takes for a canonical field exactly when the
loop took it for one. -/
theorem isCanonicalLine_iff {line : List Char}
    (hfields : isContentLine line = true → (fieldOf line).isSome = true) :
    isCanonicalLine line = true ↔ valueIn "canonical" line ≠ none := by
  rw [isCanonicalLine, beq_iff_eq]
  constructor
  · intro h
    obtain ⟨name, value, rfl, hname, hcolon, hcontent⟩ := canonicalLine_split h
    obtain ⟨⟨found, rest⟩, hfield⟩ := Option.isSome_iff_exists.mp (hfields hcontent)
    have hsame : found = name := by
      unfold fieldOf at hfield
      rw [fieldOf_split_append hcolon] at hfield
      dsimp only at hfield
      split at hfield
      · cases hfield
      · cases hfield
        rfl
    rw [valueIn, if_pos hcontent, hfield, Option.bind_some, hsame, if_pos hname]
    exact Option.some_ne_none _
  · intro h
    obtain ⟨value, hvalue⟩ := Option.ne_none_iff_exists'.mp h
    unfold valueIn at hvalue
    split at hvalue
    · obtain ⟨⟨name, found⟩, hfield, hname⟩ := Option.bind_eq_some_iff.mp hvalue
      split at hname
      · rename_i hcanonical
        have hlowered : name.map Char.toLower = "canonical".toList := by
          rw [← hcanonical, loweredName, String.toList_ofList]
        have hlength : name.length = 9 := by
          have hcount := congrArg List.length hlowered
          rwa [List.length_map] at hcount
        rw [fieldOf_eq_some hfield, List.take_append, hlength, List.take_of_length_le (by omega),
          List.map_append, hlowered]
        rfl
      · cases hname
    · cases hvalue

theorem any_isCanonicalLine {lines : List (List Char)}
    (hfields : ∀ line ∈ lines, isContentLine line = true → (fieldOf line).isSome = true) :
    lines.any isCanonicalLine = true ↔ valuesOf "canonical" lines ≠ [] := by
  rw [List.any_eq_true]
  constructor
  · rintro ⟨line, hline, hcanonical⟩
    obtain ⟨value, hvalue⟩ :=
      Option.ne_none_iff_exists'.mp ((isCanonicalLine_iff (hfields line hline)).mp hcanonical)
    exact List.ne_nil_of_mem (List.mem_filterMap.mpr ⟨line, hline, hvalue⟩)
  · intro hne
    obtain ⟨value, hmem⟩ := List.exists_mem_of_ne_nil _ hne
    obtain ⟨line, hline, hvalue⟩ := List.mem_filterMap.mp hmem
    exact ⟨line, hline, (isCanonicalLine_iff (hfields line hline)).mpr (by simp [hvalue])⟩

structure AcceptedFields (runtime : ScannerRuntime) (canonicalHost : String) (nowUnixMs : Nat)
    (lines : List (List Char)) : Prop where
  sound : SoundFields runtime canonicalHost nowUnixMs 0 lines
  contact : valuesOf "contact" lines ≠ []
  expires : (valuesOf "expires" lines).length = 1
  canonical : valuesOf "canonical" lines ≠ [] →
    ∃ value ∈ valuesOf "canonical" lines, canonicalMatch runtime value canonicalHost = some true

theorem length_le_of_checkLines {counts final : FieldCounts} {lines : List (List Char)}
    (h : lines.foldlM (checkLine runtime canonicalHost nowUnixMs) counts = some final) :
    ∀ line ∈ lines, utf8Length line ≤ maxSecurityTxtLineBytes := by
  induction lines generalizing counts with
  | nil => simp
  | cons line rest ih =>
    rw [List.foldlM_cons, Option.bind_eq_bind, Option.bind_eq_some_iff] at h
    obtain ⟨next, hnext, hrest⟩ := h
    refine List.forall_mem_cons.mpr ⟨?_, ih hrest⟩
    unfold checkLine at hnext
    split at hnext
    · cases hnext
    · rename_i hshort
      exact Nat.le_of_not_gt hshort

variable (runtime canonicalHost nowUnixMs) in
def verdictOfLines (lines : List (List Char)) : Bool :=
  match lines.foldlM (checkLine runtime canonicalHost nowUnixMs)
      { contacts := 0, expires := 0, canonicalSeen := false } with
  | none => false
  | some counts =>
    decide (counts.contacts > 0) && counts.expires == 1 &&
      (!lines.any isCanonicalLine || counts.canonicalSeen)

theorem verdictOfLines_iff {lines : List (List Char)} :
    verdictOfLines runtime canonicalHost nowUnixMs lines = true ↔
      (∀ line ∈ lines, utf8Length line ≤ maxSecurityTxtLineBytes) ∧
        AcceptedFields runtime canonicalHost nowUnixMs lines := by
  unfold verdictOfLines
  have hcounts : ∀ {lines : List (List Char)},
      SoundFields runtime canonicalHost nowUnixMs 0 lines →
      ((decide ((tally runtime canonicalHost ⟨0, 0, false⟩ lines).contacts > 0) &&
        (tally runtime canonicalHost ⟨0, 0, false⟩ lines).expires == 1 &&
        (!lines.any isCanonicalLine ||
          (tally runtime canonicalHost ⟨0, 0, false⟩ lines).canonicalSeen)) = true ↔
        valuesOf "contact" lines ≠ [] ∧ (valuesOf "expires" lines).length = 1 ∧
        (valuesOf "canonical" lines ≠ [] → ∃ value ∈ valuesOf "canonical" lines,
          canonicalMatch runtime value canonicalHost = some true)) := by
    intro lines hsound
    have hany := any_isCanonicalLine hsound.fields
    rw [Bool.and_eq_true, Bool.and_eq_true, Bool.or_eq_true, Bool.not_eq_true', ← Bool.not_eq_true,
      hany, and_assoc, decide_eq_true_eq, beq_iff_eq]
    simp only [tally, Nat.zero_add, Bool.false_or, List.any_eq_true, beq_iff_eq, gt_iff_lt,
      List.length_pos_iff]
    rw [← imp_iff_not_or]
  constructor
  · intro h
    split at h
    · cases h
    · rename_i counts hfold
      have hlength := length_le_of_checkLines hfold
      obtain ⟨hsound, rfl⟩ := (checkLines_eq_some hlength).mp hfold
      obtain ⟨hcontact, hexpires, hcanonical⟩ := (hcounts hsound).mp h
      exact ⟨hlength, hsound, hcontact, hexpires, hcanonical⟩
  · rintro ⟨hlength, h⟩
    rw [(checkLines_eq_some hlength).mpr ⟨h.sound, rfl⟩]
    exact (hcounts h.sound).mpr ⟨h.contact, h.expires, h.canonical⟩

end Fields

/-! ### Layouts -/

/-- One layout is made into another: lines change places, line ends change, and lines
that are blank or comments come and go. -/
inductive Relayout : List TextLine → List TextLine → Prop where
  | permute {lines lines' : List TextLine} (h : lines.Perm lines') : Relayout lines lines'
  | ends {lines lines' : List TextLine}
      (h : lines.map TextLine.content = lines'.map TextLine.content) : Relayout lines lines'
  | insert (before after : List TextLine) (line : TextLine) (hplain : line.Plain)
      (hskip : isContentLine line.content = false) :
      Relayout (before ++ after) (before ++ line :: after)
  | remove (before after : List TextLine) (line : TextLine)
      (hskip : isContentLine line.content = false) :
      Relayout (before ++ line :: after) (before ++ after)
  | trans {first second third : List TextLine} (h : Relayout first second)
      (h' : Relayout second third) : Relayout first third

/-- The limits on a file: its size, its lines and their length. -/
structure WithinLimits (lines : List TextLine) : Prop where
  bytes : (Utf8.encode (renderLines lines)).length ≤ guestSecurityTxtMaxBytes
  count : lines.length ≤ maxSecurityTxtLines
  length : ∀ line ∈ lines, utf8Length line.content ≤ maxSecurityTxtLineBytes

theorem Relayout.plain {lines lines' : List TextLine} (h : Relayout lines lines')
    (hplain : ∀ line ∈ lines, line.Plain) : ∀ line ∈ lines', line.Plain := by
  induction h with
  | permute h => exact fun line hline => hplain line (h.mem_iff.mpr hline)
  | @ends lines lines' h =>
    intro line hline
    have hmem : line.content ∈ lines.map TextLine.content := by
      rw [h]
      exact List.mem_map_of_mem hline
    obtain ⟨other, hother, hsame⟩ := List.mem_map.mp hmem
    have hold := hplain other hother
    unfold TextLine.Plain at hold ⊢
    rwa [hsame] at hold
  | insert before after line hline _ =>
    intro other hother
    rcases List.mem_append.mp hother with hbefore | hrest
    · exact hplain other (List.mem_append_left _ hbefore)
    · rcases List.mem_cons.mp hrest with rfl | hafter
      · exact hline
      · exact hplain other (List.mem_append_right _ hafter)
  | remove before after line _ =>
    intro other hother
    apply hplain
    rcases List.mem_append.mp hother with hbefore | hafter
    · exact List.mem_append_left _ hbefore
    · exact List.mem_append_right _ (List.mem_cons_of_mem _ hafter)
  | trans _ _ ih ih' => exact ih' (ih hplain)

theorem Relayout.content {lines lines' : List TextLine} (h : Relayout lines lines') :
    ((lines.map TextLine.content).filter isContentLine).Perm
      ((lines'.map TextLine.content).filter isContentLine) := by
  induction h with
  | permute h => exact (h.map _).filter _
  | ends h => rw [h]
  | insert before after line _ hskip =>
    rw [List.map_append, List.map_append, List.filter_append, List.filter_append, List.map_cons,
      List.filter_cons_of_neg (by simp [hskip])]
  | remove before after line hskip =>
    rw [List.map_append, List.map_append, List.filter_append, List.filter_append, List.map_cons,
      List.filter_cons_of_neg (by simp [hskip])]
  | trans _ _ ih ih' => exact ih.trans ih'

theorem valuesOf_filter (name : String) (lines : List (List Char)) :
    valuesOf name (lines.filter isContentLine) = valuesOf name lines := by
  unfold valuesOf
  rw [List.filterMap_filter]
  apply List.filterMap_congr
  intro line _
  unfold valueIn
  split <;> rfl

theorem AcceptedFields.perm {runtime : ScannerRuntime} {canonicalHost : String} {nowUnixMs : Nat}
    {lines lines' : List (List Char)}
    (h : (lines.filter isContentLine).Perm (lines'.filter isContentLine))
    (haccepted : AcceptedFields runtime canonicalHost nowUnixMs lines) :
    AcceptedFields runtime canonicalHost nowUnixMs lines' := by
  have hvalues : ∀ name, (valuesOf name lines).Perm (valuesOf name lines') := by
    intro name
    rw [← valuesOf_filter name lines, ← valuesOf_filter name lines']
    exact h.filterMap _
  have hempty : ∀ name, valuesOf name lines = [] ↔ valuesOf name lines' = [] := by
    intro name
    rw [← List.length_eq_zero_iff, ← List.length_eq_zero_iff, (hvalues name).length_eq]
  constructor
  · constructor
    · intro line hline hcontent
      have hmem := h.mem_iff.mpr (List.mem_filter.mpr ⟨hline, hcontent⟩)
      exact haccepted.sound.fields line (List.mem_of_mem_filter hmem) hcontent
    · exact fun value hvalue =>
        haccepted.sound.contacts value ((hvalues _).mem_iff.mpr hvalue)
    · exact fun value hvalue =>
        haccepted.sound.expires value ((hvalues _).mem_iff.mpr hvalue)
    · rw [← hempty, ← (hvalues _).length_eq]
      exact haccepted.sound.once
    · exact fun value hvalue =>
        haccepted.sound.canonicals value ((hvalues _).mem_iff.mpr hvalue)
  · rw [ne_eq, ← hempty]
    exact haccepted.contact
  · rw [← (hvalues _).length_eq]
    exact haccepted.expires
  · intro hne
    obtain ⟨value, hvalue, hmatch⟩ := haccepted.canonical fun hnil => hne ((hempty _).mp hnil)
    exact ⟨value, (hvalues _).mem_iff.mp hvalue, hmatch⟩

/-! ### The verdict -/

section Verdict

variable {runtime : ScannerRuntime} {canonicalHost : String} {nowUnixMs : Nat}

/-- The parser sees the lines of a file, whatever their ends. -/
theorem parseBody_renderLines {lines : List TextLine} (hplain : ∀ line ∈ lines, line.Plain)
    (hne : lines ≠ []) (hlimits : WithinLimits lines) :
    parseBody runtime (Utf8.encode (renderLines lines)) canonicalHost nowUnixMs =
      verdictOfLines runtime canonicalHost nowUnixMs (lines.map TextLine.content) := by
  have hlast := getLast?_renderLines hne
  have hrendered : renderLines lines ≠ [] := by
    intro hnil
    rw [hnil] at hlast
    cases hlast
  have hempty : (Utf8.encode (renderLines lines)).length ≠ 0 := by
    intro hzero
    rw [List.length_eq_zero_iff] at hzero
    exact hrendered (Utf8.encode_injective hzero)
  have hbytes := hlimits.bytes
  have hmark : (renderLines lines).head?.any (fun c => c.toNat == 0xfeff) = false := by
    rw [Option.any_eq_false]
    intro c hc
    have hplainChar := (mem_renderLines hplain (List.mem_of_mem_head? hc)).1
    simpa using hplainChar
  have hforbidden : (renderLines lines).any isForbiddenInSecurityTxt = false := by
    rw [List.any_eq_false]
    intro c hc
    rw [(mem_renderLines hplain hc).2]
    decide
  have hcount : ¬ ((lines.map TextLine.content).length = 0 ∨
      (lines.map TextLine.content).length > maxSecurityTxtLines) := by
    rw [List.length_map, not_or]
    exact ⟨fun hzero => hne (List.length_eq_zero_iff.mp hzero), Nat.not_lt.mpr hlimits.count⟩
  rw [parseBody, if_neg (by
    rw [Bool.or_eq_true, decide_eq_true_eq, decide_eq_true_eq, not_or]
    exact ⟨hempty, Nat.not_lt.mpr hbytes⟩), Utf8.decode_encode]
  dsimp only
  rw [if_neg (by rw [hmark, hlast, returnsPaired_renderLines hplain, hforbidden]; decide),
    splitOn_renderLines hplain, if_neg (by
      rwa [Bool.or_eq_true, decide_eq_true_eq, decide_eq_true_eq])]
  rfl

theorem acceptedFields_of_parseBody {body : List UInt8}
    (h : parseBody runtime body canonicalHost nowUnixMs = true) :
    ∃ text, Utf8.decode body = some text ∧
      AcceptedFields runtime canonicalHost nowUnixMs
        ((joinReturns text).splitOn '\n').dropLast := by
  unfold parseBody at h
  split at h
  · cases h
  · split at h
    · cases h
    · rename_i text htext
      split at h
      · cases h
      · dsimp only at h
        split at h
        · cases h
        · exact ⟨text, htext, (verdictOfLines_iff.mp h).2⟩

theorem inspectGuestSecurityTxt_pass_iff {response : PinnedTransportResponse} :
    inspectGuestSecurityTxt runtime response canonicalHost nowUnixMs = .pass ↔
      response.statusCode = 200 ∧ validContentType (singleHeader response "content-type") = true ∧
        parseBody runtime response.body canonicalHost nowUnixMs = true := by
  unfold inspectGuestSecurityTxt
  split
  · rename_i h
    rw [Bool.and_eq_true, Bool.and_eq_true, decide_eq_true_eq, and_assoc] at h
    simpa using h
  · rename_i h
    rw [Bool.and_eq_true, Bool.and_eq_true, decide_eq_true_eq, and_assoc] at h
    simpa using h

theorem validExpires_unexpired {value : List Char}
    (h : validExpires runtime value nowUnixMs = true) :
    ∃ timestamp, runtime.dateParse (String.ofList value) = some timestamp ∧
      (nowUnixMs : Int) < timestamp := by
  unfold validExpires at h
  split at h
  · rename_i stated timestamp hstated htimestamp
    split at h
    · cases h
    · rename_i hlater
      rw [Bool.or_eq_true, decide_eq_true_eq, not_or] at hlater
      exact ⟨timestamp, htimestamp, Int.not_le.mp hlater.1⟩
  · cases h

theorem canonicalMatch_eq_true {value : List Char}
    (h : canonicalMatch runtime value canonicalHost = some true) :
    ∃ uri, runtime.parseAbsoluteUrl (String.ofList value) = some uri ∧ uri.protocol = "https:" ∧
      uri.username = "" ∧ uri.password = "" ∧ uri.hostname = canonicalHost ∧ uri.port = "" ∧
      uri.pathname = guestSecurityTxtPath ∧ uri.search = "" ∧ uri.hash = "" := by
  unfold canonicalMatch at h
  split at h
  · cases h
  · rename_i uri huri
    split at h
    · cases h
    · rename_i hplain
      simp only [Bool.or_eq_true, decide_eq_true_eq, not_or, not_not] at hplain
      simp only [Option.some.injEq, Bool.and_eq_true, beq_iff_eq] at h
      obtain ⟨⟨⟨hprotocol, husername⟩, hpassword⟩, -⟩ := hplain
      obtain ⟨⟨⟨⟨hhostname, hport⟩, hpathname⟩, hsearch⟩, hhash⟩ := h
      exact ⟨uri, huri, hprotocol, husername, hpassword, hhostname, hport, hpathname, hsearch, hhash⟩

end Verdict

/-- The verdict is the same for every layout of the fields, and a file that passes has
a contact, one expiry in the future, and names itself if it names any file. -/
theorem inspectGuestSecurityTxt_layout (runtime : ScannerRuntime)
    (response : PinnedTransportResponse) (canonicalHost : String) (nowUnixMs : Nat) :
    (∀ text, Utf8.decode response.body = some text → (∀ c ∈ text, IsPlainChar c) →
      returnsPaired text = true → text.getLast? = some '\n' → WithinLimits (textLines text) →
      renderLines (textLines text) = text ∧
      ∀ lines, Relayout (textLines text) lines → lines ≠ [] → WithinLimits lines →
        inspectGuestSecurityTxt runtime { response with body := Utf8.encode (renderLines lines) }
            canonicalHost nowUnixMs =
          inspectGuestSecurityTxt runtime response canonicalHost nowUnixMs) ∧
    (inspectGuestSecurityTxt runtime response canonicalHost nowUnixMs = .pass →
      ∃ text lines, Utf8.decode response.body = some text ∧
        lines = ((joinReturns text).splitOn '\n').dropLast ∧
        valuesOf "contact" lines ≠ [] ∧
        (∃ value timestamp, valuesOf "expires" lines = [value] ∧
          runtime.dateParse (String.ofList value) = some timestamp ∧ (nowUnixMs : Int) < timestamp) ∧
        (valuesOf "canonical" lines ≠ [] → ∃ value ∈ valuesOf "canonical" lines,
          ∃ uri, runtime.parseAbsoluteUrl (String.ofList value) = some uri ∧
            uri.protocol = "https:" ∧ uri.username = "" ∧ uri.password = "" ∧
            uri.hostname = canonicalHost ∧ uri.port = "" ∧ uri.pathname = guestSecurityTxtPath ∧
            uri.search = "" ∧ uri.hash = "")) := by
  constructor
  · intro text hdecode hplain hpaired hends hlimits
    have hrender := renderLines_textLines hpaired (.inr hends)
    refine ⟨hrender, fun lines hlayout hne hlimits' => ?_⟩
    have hplainLines := textLines_plain hpaired hplain
    have hfirst : textLines text ≠ [] := by
      intro hnil
      rw [hnil] at hrender
      rw [← hrender] at hends
      cases hends
    have hbody : response.body = Utf8.encode (renderLines (textLines text)) := by
      rw [hrender]
      exact Utf8.decode_eq_some.mp hdecode
    have hsame : parseBody runtime (Utf8.encode (renderLines lines)) canonicalHost nowUnixMs =
        parseBody runtime response.body canonicalHost nowUnixMs := by
      rw [hbody, parseBody_renderLines hplainLines hfirst hlimits,
        parseBody_renderLines (hlayout.plain hplainLines) hne hlimits', Bool.eq_iff_iff,
        verdictOfLines_iff, verdictOfLines_iff]
      have hlength : ∀ {lines : List TextLine}, WithinLimits lines →
          ∀ line ∈ lines.map TextLine.content, utf8Length line ≤ maxSecurityTxtLineBytes := by
        intro lines hwithin line hline
        obtain ⟨other, hother, rfl⟩ := List.mem_map.mp hline
        exact hwithin.length other hother
      constructor
      · rintro ⟨-, h⟩
        exact ⟨hlength hlimits, h.perm hlayout.content.symm⟩
      · rintro ⟨-, h⟩
        exact ⟨hlength hlimits', h.perm hlayout.content⟩
    unfold inspectGuestSecurityTxt
    rw [← hsame]
    rfl
  · intro hpass
    obtain ⟨-, -, hbody⟩ := inspectGuestSecurityTxt_pass_iff.mp hpass
    obtain ⟨text, htext, haccepted⟩ := acceptedFields_of_parseBody hbody
    obtain ⟨value, hvalue⟩ := List.length_eq_one_iff.mp haccepted.expires
    obtain ⟨timestamp, htimestamp, hlater⟩ := validExpires_unexpired
      (haccepted.sound.expires value (by rw [hvalue]; exact List.mem_singleton_self value))
    refine ⟨text, _, htext, rfl, haccepted.contact, ⟨value, timestamp, hvalue, htimestamp, hlater⟩,
      fun hne => ?_⟩
    obtain ⟨named, hnamed, hmatch⟩ := haccepted.canonical hne
    exact ⟨named, hnamed, canonicalMatch_eq_true hmatch⟩

def securityTxtRuntime : ScannerRuntime where
  domainToASCII := some
  isIP _ := 0
  hmacSha256 _ _ := .fill 0
  parseUrl _ _ := none
  parseAbsoluteUrl text :=
    if text = "mailto:security@example.org" then
      some { protocol := "mailto:", username := "", password := "", port := "", hostname := "",
             pathname := "security@example.org", search := "", hash := "" }
    else none
  dateParse text := if text = "2030-01-01T00:00:00Z" then some 1893456000000 else none
  sha256 _ := .fill 0

def securityTxtResponse (text : List Char) : PinnedTransportResponse where
  statusCode := 200
  headers := [⟨"content-type", "text/plain; charset=utf-8"⟩]
  body := Utf8.encode text
  connectedAddress := "192.0.2.1"

def sampleContact (carriageReturn : Bool) : TextLine :=
  ⟨"Contact: mailto:security@example.org".toList, carriageReturn⟩

def sampleExpires (carriageReturn : Bool) : TextLine :=
  ⟨"Expires: 2030-01-01T00:00:00Z".toList, carriageReturn⟩

def sampleComment : TextLine := ⟨"# a comment".toList, false⟩

theorem inspectGuestSecurityTxt_layout_sample :
    inspectGuestSecurityTxt securityTxtRuntime
      (securityTxtResponse (renderLines [sampleComment, sampleExpires true, sampleContact false]))
      "example.org" 1800000000000 = .pass := by
  have hlines : textLines (renderLines [sampleContact false, sampleExpires false]) =
      [sampleContact false, sampleExpires false] := by
    decide +kernel
  have hplain : ∀ c ∈ renderLines [sampleContact false, sampleExpires false], IsPlainChar c := by
    have hall : (renderLines [sampleContact false, sampleExpires false]).all
        (fun c => c.toNat != 0xfeff && !isForbiddenInSecurityTxt c) = true := by decide +kernel
    intro c hc
    have hchar := List.all_eq_true.mp hall c hc
    rw [Bool.and_eq_true, bne_iff_ne, Bool.not_eq_true'] at hchar
    exact hchar
  have hpass : inspectGuestSecurityTxt securityTxtRuntime
      (securityTxtResponse (renderLines [sampleContact false, sampleExpires false]))
      "example.org" 1800000000000 = .pass := by
    decide +kernel
  have hcomment : sampleComment.Plain := by
    have hall : sampleComment.content.all (fun c => c.toNat != 0xfeff &&
        !isForbiddenInSecurityTxt c && c != '\r' && c != '\n') = true := by decide +kernel
    intro c hc
    have hchar := List.all_eq_true.mp hall c hc
    simp only [Bool.and_eq_true, bne_iff_ne, Bool.not_eq_true', and_assoc] at hchar
    exact ⟨⟨hchar.1, hchar.2.1⟩, hchar.2.2⟩
  have hends : Relayout [sampleExpires false, sampleContact false]
      [sampleExpires true, sampleContact false] := .ends rfl
  have hlayout : Relayout [sampleContact false, sampleExpires false]
      [sampleComment, sampleExpires true, sampleContact false] :=
    .trans (.permute (List.Perm.swap _ _ _))
      (.trans hends (.insert [] _ sampleComment hcomment (by decide +kernel)))
  have hsame := (inspectGuestSecurityTxt_layout securityTxtRuntime
    (securityTxtResponse (renderLines [sampleContact false, sampleExpires false])) "example.org"
    1800000000000).1 _ (Utf8.decode_encode _) hplain (by decide +kernel) (by decide +kernel)
    (by rw [hlines]; exact ⟨by decide +kernel, by decide +kernel, by decide +kernel⟩)
  rw [hlines] at hsame
  exact (hsame.2 _ hlayout (List.cons_ne_nil _ _)
    ⟨by decide +kernel, by decide +kernel, by decide +kernel⟩).trans hpass

end Outscan

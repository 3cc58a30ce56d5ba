import Mathlib.Data.List.Basic
import Outscan.Library.Numeral

/-! The proleptic Gregorian calendar from 1970 on, in universal time without leap
seconds, and the ISO text of a moment. -/
namespace Calendar

structure DateTime where
  year : Nat
  month : Nat
  day : Nat
  hour : Nat
  minute : Nat
  second : Nat
  millisecond : Nat
deriving DecidableEq, Repr

/-- Year, month and day, `days` days after the first of January 1970. Years are
counted from March on, in eras of 400 years. -/
def civil (days : Nat) : Nat × Nat × Nat :=
  let shifted := days + 719468
  let era := shifted / 146097
  let dayOfEra := shifted % 146097
  let yearOfEra := (dayOfEra - dayOfEra / 1460 + dayOfEra / 36524 - dayOfEra / 146096) / 365
  let dayOfYear := dayOfEra - (365 * yearOfEra + yearOfEra / 4 - yearOfEra / 100)
  let shiftedMonth := (5 * dayOfYear + 2) / 153
  let day := dayOfYear - (153 * shiftedMonth + 2) / 5 + 1
  let month := if shiftedMonth < 10 then shiftedMonth + 3 else shiftedMonth - 9
  (yearOfEra + era * 400 + (if month ≤ 2 then 1 else 0), month, day)

/-- The moment `ms` milliseconds after the epoch. -/
def ofUnixMs (ms : Nat) : DateTime :=
  let date := civil (ms / 86400000)
  let rest := ms % 86400000
  { year := date.1, month := date.2.1, day := date.2.2, hour := rest / 3600000,
    minute := rest / 60000 % 60, second := rest / 1000 % 60, millisecond := rest % 1000 }

/-- The digits of `number`, filled up with zeros to at least `width`. -/
def padded (width number : Nat) : List Char :=
  let digits := Nat.toDigits 10 number
  List.replicate (width - digits.length) '0' ++ digits

/-- `YYYY-MM-DDTHH:mm:ss.sssZ`, for years up to 9999. -/
def DateTime.isoText (moment : DateTime) : List Char :=
  padded 4 moment.year ++ '-' :: (padded 2 moment.month ++ '-' :: (padded 2 moment.day ++
    'T' :: (padded 2 moment.hour ++ ':' :: (padded 2 moment.minute ++ ':' ::
      (padded 2 moment.second ++ '.' :: (padded 3 moment.millisecond ++ ['Z']))))))

example : String.ofList (ofUnixMs 1709210096789).isoText = "2024-02-29T12:34:56.789Z" := by
  decide +kernel

/-! ### From a date back to its day -/

/-- The days from the first of March of the year 0 to a date. A day past the end of
its month runs on into the next. -/
def daysFromMarch (year month day : Nat) : Nat :=
  let shiftedYear := if month ≤ 2 then year - 1 else year
  let yearOfEra := shiftedYear % 400
  let shiftedMonth := if 2 < month then month - 3 else month + 9
  shiftedYear / 400 * 146097 + (365 * yearOfEra + yearOfEra / 4 - yearOfEra / 100) +
    ((153 * shiftedMonth + 2) / 5 + day - 1)

def daysFromCivil (year month day : Nat) : Nat := daysFromMarch year month day - 719468

theorem dayOfYear_le {dayOfEra yearOfEra : Nat} (h : dayOfEra < 146097)
    (hyear : yearOfEra =
      (dayOfEra - dayOfEra / 1460 + dayOfEra / 36524 - dayOfEra / 146096) / 365) :
    yearOfEra < 400 ∧ 365 * yearOfEra + yearOfEra / 4 - yearOfEra / 100 ≤ dayOfEra ∧
      dayOfEra - (365 * yearOfEra + yearOfEra / 4 - yearOfEra / 100) ≤ 365 := by
  have hlt : yearOfEra < 400 := by omega
  generalize hquad : dayOfEra / 1460 = quad at hyear
  generalize hcentury : dayOfEra / 36524 = century at hyear
  generalize hlast : dayOfEra / 146096 = last at hyear
  have hlast' : last = 0 ∨ last = 1 := by omega
  have hcentury' : century = 0 ∨ century = 1 ∨ century = 2 ∨ century = 3 ∨ century = 4 := by omega
  have hleap : quad = yearOfEra / 4 ∨ quad = yearOfEra / 4 + 1 := by
    rcases hlast' with rfl | rfl <;> rcases hcentury' with rfl | rfl | rfl | rfl | rfl <;> omega
  have hhundred : century = yearOfEra / 100 ∨ century = yearOfEra / 100 + 1 := by
    rcases hlast' with rfl | rfl <;> rcases hcentury' with rfl | rfl | rfl | rfl | rfl <;> omega
  refine ⟨hlt, ?_⟩
  rcases hlast' with rfl | rfl <;> rcases hleap with rfl | rfl <;> rcases hhundred with rfl | rfl <;> omega

theorem dayOfMonth_le {dayOfYear : Nat} (h : dayOfYear ≤ 365) :
    (5 * dayOfYear + 2) / 153 ≤ 11 ∧
      (153 * ((5 * dayOfYear + 2) / 153) + 2) / 5 ≤ dayOfYear ∧
      dayOfYear - (153 * ((5 * dayOfYear + 2) / 153) + 2) / 5 ≤ 30 := by
  omega

theorem civil_month_day (days : Nat) :
    1 ≤ (civil days).2.1 ∧ (civil days).2.1 ≤ 12 ∧ 1 ≤ (civil days).2.2 ∧ (civil days).2.2 ≤ 31 := by
  obtain ⟨-, -, hup⟩ := dayOfYear_le (Nat.mod_lt (days + 719468) (by decide)) rfl
  obtain ⟨hmonth, hbegin, hday⟩ := dayOfMonth_le hup
  simp only [civil]
  refine ⟨?_, ?_, ?_, ?_⟩
  · split <;> omega
  · split <;> omega
  · exact Nat.le_add_left 1 _
  · exact Nat.succ_le_succ hday

theorem daysFromMarch_shifted {era yearOfEra shiftedMonth day : Nat} (hyear : yearOfEra < 400)
    (hmonth : shiftedMonth ≤ 11) :
    daysFromMarch (yearOfEra + era * 400 +
        if (if shiftedMonth < 10 then shiftedMonth + 3 else shiftedMonth - 9) ≤ 2 then 1 else 0)
      (if shiftedMonth < 10 then shiftedMonth + 3 else shiftedMonth - 9) day =
    era * 146097 + (365 * yearOfEra + yearOfEra / 4 - yearOfEra / 100) +
      ((153 * shiftedMonth + 2) / 5 + day - 1) := by
  have hmod : (yearOfEra + era * 400) % 400 = yearOfEra := by omega
  have hdiv : (yearOfEra + era * 400) / 400 = era := by omega
  by_cases hm : shiftedMonth < 10
  · have hspring : ¬ shiftedMonth + 3 ≤ 2 := by omega
    have hlate : 2 < shiftedMonth + 3 := by omega
    have hback : shiftedMonth + 3 - 3 = shiftedMonth := by omega
    simp only [daysFromMarch, hm, hspring, hlate, if_true, if_false, Nat.add_zero, hmod, hdiv,
      hback]
  · have hwinter : shiftedMonth - 9 ≤ 2 := by omega
    have hearly : ¬ 2 < shiftedMonth - 9 := by omega
    have hback : shiftedMonth - 9 + 9 = shiftedMonth := by omega
    have hnew : yearOfEra + era * 400 + 1 - 1 = yearOfEra + era * 400 := by omega
    simp only [daysFromMarch, hm, hwinter, hearly, if_true, if_false, hnew, hmod, hdiv, hback]

theorem daysFromCivil_civil (days : Nat) :
    daysFromCivil (civil days).1 (civil days).2.1 (civil days).2.2 = days := by
  obtain ⟨hyear, hstart, hup⟩ := dayOfYear_le (Nat.mod_lt (days + 719468) (by decide)) rfl
  obtain ⟨hmonth, hbegin, -⟩ := dayOfMonth_le hup
  have hdays := Nat.div_add_mod (days + 719468) 146097
  have hcount : daysFromMarch (civil days).1 (civil days).2.1 (civil days).2.2 =
      days + 719468 := by
    simp only [civil]
    refine (daysFromMarch_shifted hyear hmonth).trans ?_
    omega
  exact Nat.sub_eq_of_eq_add hcount

def DateTime.toUnixMs (moment : DateTime) : Nat :=
  daysFromCivil moment.year moment.month moment.day * 86400000 + moment.hour * 3600000 +
    moment.minute * 60000 + moment.second * 1000 + moment.millisecond

theorem toUnixMs_ofUnixMs (ms : Nat) : (ofUnixMs ms).toUnixMs = ms := by
  simp only [DateTime.toUnixMs, ofUnixMs, daysFromCivil_civil]
  omega

/-! ### Later eras -/

theorem civil_add_eras (days eras : Nat) :
    civil (days + eras * 146097) = ((civil days).1 + eras * 400, (civil days).2) := by
  have hshift : days + eras * 146097 + 719468 = days + 719468 + eras * 146097 := by omega
  have hera : (days + 719468 + eras * 146097) / 146097 = (days + 719468) / 146097 + eras :=
    Nat.add_mul_div_right _ _ (by omega)
  have hday : (days + 719468 + eras * 146097) % 146097 = (days + 719468) % 146097 :=
    Nat.add_mul_mod_self_right ..
  simp only [civil, hshift, hera, hday, Nat.add_mul]
  ext
  · dsimp only
    omega
  · rfl
  · rfl

theorem ofUnixMs_add_eras (ms eras : Nat) :
    ofUnixMs (ms + eras * 12622780800000) =
      { ofUnixMs ms with year := (ofUnixMs ms).year + eras * 400 } := by
  have hdays : (ms + eras * 12622780800000) / 86400000 = ms / 86400000 + eras * 146097 := by omega
  have hrest : (ms + eras * 12622780800000) % 86400000 = ms % 86400000 := by omega
  simp only [ofUnixMs, hdays, hrest, civil_add_eras]

/-- A moment read from a count is found again in any later era. -/
theorem ofUnixMs_toUnixMs_later (ms eras : Nat) :
    ofUnixMs ({ ofUnixMs ms with year := (ofUnixMs ms).year + eras * 400 } : DateTime).toUnixMs =
      { ofUnixMs ms with year := (ofUnixMs ms).year + eras * 400 } := by
  rw [← ofUnixMs_add_eras, toUnixMs_ofUnixMs]

/-! ### Reading the ISO text -/

/-- A number of exactly `width` digits, and what follows it. -/
def readNumber (width : Nat) (text : List Char) : Option (Nat × List Char) :=
  let digits := text.take width
  if digits.length = width ∧ digits.all (Numeral.isDigit 10) then
    some (Numeral.value 10 digits, text.drop width)
  else none

def readMark (mark : Char) : List Char → Option (List Char)
  | [] => none
  | c :: rest => if c = mark then some rest else none

/-- The numbers in a text of the form `YYYY-MM-DDTHH:mm:ss.sssZ`. -/
def parseIso (text : List Char) : Option DateTime := do
  let (year, text) ← readNumber 4 text
  let (month, text) ← readNumber 2 (← readMark '-' text)
  let (day, text) ← readNumber 2 (← readMark '-' text)
  let (hour, text) ← readNumber 2 (← readMark 'T' text)
  let (minute, text) ← readNumber 2 (← readMark ':' text)
  let (second, text) ← readNumber 2 (← readMark ':' text)
  let (millisecond, text) ← readNumber 3 (← readMark '.' text)
  let text ← readMark 'Z' text
  if text.isEmpty then some { year, month, day, hour, minute, second, millisecond } else none

theorem value_replicate_zero (count : Nat) (digits : List Char) :
    Numeral.value 10 (List.replicate count '0' ++ digits) = Numeral.value 10 digits := by
  have hzero : ∀ count : Nat, (List.replicate count '0').foldl
      (fun total c => 10 * total + (Numeral.digitValue c).getD 0) 0 = 0 := by
    intro count
    induction count with
    | zero => rfl
    | succ count ih =>
      rw [List.replicate_succ, List.foldl_cons]
      exact ih
  rw [Numeral.value, List.foldl_append, hzero]
  rfl

section

variable {width number : Nat} (hwidth : 0 < width) (h : number < 10 ^ width)
include hwidth h

theorem length_padded : (padded width number).length = width := by
  have hle := (Nat.length_toDigits_le_iff (by decide) hwidth).mpr h
  rw [padded, List.length_append, List.length_replicate]
  omega

theorem readNumber_padded (rest : List Char) :
    readNumber width (padded width number ++ rest) = some (number, rest) := by
  have htake : (padded width number ++ rest).take width = padded width number :=
    List.take_left' (length_padded hwidth h)
  have hdrop : (padded width number ++ rest).drop width = rest :=
    List.drop_left' (length_padded hwidth h)
  have hdigits : (padded width number).all (Numeral.isDigit 10) = true := by
    rw [List.all_eq_true, padded]
    intro c hc
    rcases List.mem_append.mp hc with hzero | hdigit
    · rw [List.eq_of_mem_replicate hzero]
      decide
    · exact Numeral.isDigit_of_mem_toDigits (by decide) (by decide) number c hdigit
  have hvalue : Numeral.value 10 (padded width number) = number := by
    rw [padded, value_replicate_zero, Numeral.value_toDigits (by decide) (by decide)]
  rw [readNumber, htake, hdrop, if_pos ⟨length_padded hwidth h, hdigits⟩, hvalue]

end

@[simp] theorem readMark_self (mark : Char) (rest : List Char) :
    readMark mark (mark :: rest) = some rest := if_pos rfl

structure DateTime.Fits (moment : DateTime) : Prop where
  year : moment.year < 10 ^ 4
  month : moment.month < 10 ^ 2
  day : moment.day < 10 ^ 2
  hour : moment.hour < 10 ^ 2
  minute : moment.minute < 10 ^ 2
  second : moment.second < 10 ^ 2
  millisecond : moment.millisecond < 10 ^ 3

theorem parseIso_of_fits {moment : DateTime} (h : moment.Fits) :
    parseIso moment.isoText = some moment := by
  rw [parseIso, DateTime.isoText, readNumber_padded (by decide) h.year]
  simp only [Option.bind_eq_bind, Option.bind_some]
  rw [readMark_self, Option.bind_some, readNumber_padded (by decide) h.month]
  simp only [Option.bind_some]
  rw [readMark_self, Option.bind_some, readNumber_padded (by decide) h.day]
  simp only [Option.bind_some]
  rw [readMark_self, Option.bind_some, readNumber_padded (by decide) h.hour]
  simp only [Option.bind_some]
  rw [readMark_self, Option.bind_some, readNumber_padded (by decide) h.minute]
  simp only [Option.bind_some]
  rw [readMark_self, Option.bind_some, readNumber_padded (by decide) h.second]
  simp only [Option.bind_some]
  rw [readMark_self, Option.bind_some, readNumber_padded (by decide) h.millisecond]
  simp only [Option.bind_some]
  rw [readMark_self, Option.bind_some]
  rfl

theorem length_of_fits {moment : DateTime} (h : moment.Fits) : moment.isoText.length = 24 := by
  simp only [DateTime.isoText, List.length_append, List.length_cons, List.length_nil,
    length_padded (by decide : 0 < 4) h.year, length_padded (by decide : 0 < 2) h.month,
    length_padded (by decide : 0 < 2) h.day, length_padded (by decide : 0 < 2) h.hour,
    length_padded (by decide : 0 < 2) h.minute, length_padded (by decide : 0 < 2) h.second,
    length_padded (by decide : 0 < 3) h.millisecond]

theorem ascii_padded (width number : Nat) : ∀ c ∈ padded width number, c.toNat < 128 := by
  intro c hc
  rcases List.mem_append.mp hc with hzero | hdigit
  · rw [List.eq_of_mem_replicate hzero]
    decide
  · have hten := Numeral.isDigit_of_mem_toDigits (by decide) (by decide) number c hdigit
    have := Numeral.toNat_of_isDigit_ten hten
    omega

theorem ascii_isoText (moment : DateTime) : ∀ c ∈ moment.isoText, c.toNat < 128 := by
  simp only [DateTime.isoText, List.mem_append, List.mem_cons, List.not_mem_nil, or_false]
  intro c hc
  rcases hc with h | rfl | h | rfl | h | rfl | h | rfl | h | rfl | h | rfl | h | rfl
  all_goals first | exact ascii_padded _ _ _ h | decide

theorem civil_year_lt {days : Nat} (h : days ≤ 2932896) : (civil days).1 < 10 ^ 4 := by
  have hdays := Nat.div_add_mod (days + 719468) 146097
  obtain ⟨hyear, hstart, -⟩ := dayOfYear_le (Nat.mod_lt (days + 719468) (by decide)) rfl
  simp only [civil]
  generalize (days + 719468) % 146097 = dayOfEra at *
  generalize (days + 719468) / 146097 = era at *
  generalize (dayOfEra - dayOfEra / 1460 + dayOfEra / 36524 - dayOfEra / 146096) / 365 =
    yearOfEra at *
  have hera : era ≤ 24 := by omega
  by_cases hlast : era = 24 ∧ yearOfEra = 399
  · obtain ⟨rfl, rfl⟩ := hlast
    have hmonth : (5 * (dayOfEra - (365 * 399 + 399 / 4 - 399 / 100)) + 2) / 153 < 10 := by omega
    rw [if_pos hmonth, if_neg (by omega)]
    decide
  · have hnext : ∀ condition : Prop, [Decidable condition] → (if condition then 1 else 0) ≤ 1 := by
      intro condition _
      split <;> decide
    refine Nat.lt_of_le_of_lt (Nat.add_le_add_left (hnext _) _) ?_
    omega

theorem ofUnixMs_fits {ms : Nat} (h : ms < 253402300800000) : (ofUnixMs ms).Fits := by
  obtain ⟨-, hmonth, -, hday⟩ := civil_month_day (ms / 86400000)
  have hyear := @civil_year_lt (ms / 86400000) (by omega)
  simp only [ofUnixMs]
  constructor
  · exact hyear
  all_goals dsimp only; omega

end Calendar

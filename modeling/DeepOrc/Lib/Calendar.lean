import DeepOrc.Lib.Fields
import Mathlib.Tactic.IntervalCases

/-!
# Dates and instants

Seconds since 1970 as dates and times of the Gregorian calendar, the texts with a zone that stand for
them, and the instant that such a text is read back to.
-/

namespace DeepOrc.Lib.Calendar

open Fields (decimal)

abbrev Text := List Char

section Spans

variable (length : Nat → Nat)

/-- What the first spans take together. -/
def elapsed : Nat → Nat
  | 0 => 0
  | n + 1 => elapsed n + length n

/-- The span reached `rest` units after the start of span `index`, and how far into it. -/
def locate : Nat → Nat → Nat → Nat × Nat
  | 0, index, rest => (index, rest)
  | fuel + 1, index, rest =>
      if rest < length index then (index, rest) else locate fuel (index + 1) (rest - length index)

theorem elapsed_locate (fuel index rest : Nat) :
    elapsed length (locate length fuel index rest).1 + (locate length fuel index rest).2 =
      elapsed length index + rest := by
  induction fuel generalizing index rest with
  | zero => rfl
  | succ fuel ih =>
      rw [locate]
      by_cases within : rest < length index
      · rw [if_pos within]
      · rw [if_neg within, ih, elapsed]
        omega

/-- The spans before the one reached and the part of it that has passed make up the whole. -/
theorem elapsed_locate_zero (fuel rest : Nat) :
    elapsed length (locate length fuel 0 rest).1 + (locate length fuel 0 rest).2 = rest := by
  rw [elapsed_locate, elapsed, Nat.zero_add]

variable {length}

theorem le_elapsed {least : Nat} (lower : ∀ index, least ≤ length index) (n : Nat) : least * n ≤ elapsed length n := by
  induction n with
  | zero => exact Nat.le_refl 0
  | succ n ih =>
      have last := lower n
      rw [elapsed, Nat.mul_succ]
      omega

theorem elapsed_mono {first last : Nat} (ordered : first ≤ last) : elapsed length first ≤ elapsed length last := by
  induction ordered with
  | refl => exact Nat.le_refl _
  | step _ ih => exact Nat.le_trans ih (Nat.le_add_right _ _)

theorem locate_within (positive : ∀ index, 0 < length index) {fuel rest : Nat} (enough : rest < fuel) (index : Nat) :
    (locate length fuel index rest).2 < length (locate length fuel index rest).1 := by
  induction fuel generalizing index rest with
  | zero => omega
  | succ fuel ih =>
      rw [locate]
      by_cases within : rest < length index
      · rw [if_pos within]
        exact within
      · rw [if_neg within]
        have shorter := positive index
        exact ih (by omega) (index + 1)

theorem locate_lt {count rest : Nat} (before : rest < elapsed length count) (fuel : Nat) :
    (locate length fuel 0 rest).1 < count := by
  have whole := elapsed_locate_zero length fuel rest
  by_contra beyond
  have reached := @elapsed_mono length _ _ (Nat.le_of_not_lt beyond)
  omega

end Spans

/-! ### The Gregorian calendar -/

def isLeap (year : Nat) : Bool := year % 4 = 0 ∧ (year % 100 ≠ 0 ∨ year % 400 = 0)

/-- Year 1 has index 0. -/
def yearLength (index : Nat) : Nat := if isLeap (index + 1) then 366 else 365

/-- January has index 0. -/
def monthLength (leap : Bool) (index : Nat) : Nat :=
  [31, if leap then 29 else 28, 31, 30, 31, 30, 31, 31, 30, 31, 30, 31].getD index 31

theorem le_yearLength (index : Nat) : 365 ≤ yearLength index := by
  unfold yearLength
  split <;> omega

theorem monthLength_bounds (leap : Bool) (index : Nat) : 0 < monthLength leap index ∧ monthLength leap index ≤ 31 := by
  unfold monthLength
  by_cases known : index < 12
  · interval_cases index <;> cases leap <;> decide
  · rw [List.getD_eq_getElem?_getD, List.getElem?_eq_none (by simpa using known)]
    decide

theorem elapsed_monthLength (index : Nat) : elapsed (monthLength (isLeap (index + 1))) 12 = yearLength index := by
  unfold yearLength
  cases isLeap (index + 1) <;> rfl

structure Date where
  year : Nat
  month : Nat
  day : Nat
deriving DecidableEq

/-- The date so many days after the first of January of year 1. -/
def date (days : Nat) : Date :=
  let year := locate yearLength (days + 1) 0 days
  let month := locate (monthLength (isLeap (year.1 + 1))) (year.2 + 1) 0 year.2
  { year := year.1 + 1, month := month.1 + 1, day := month.2 + 1 }

namespace Date

/-- The days before a date. -/
def days (d : Date) : Nat :=
  elapsed yearLength (d.year - 1) + elapsed (monthLength (isLeap d.year)) (d.month - 1) + (d.day - 1)

/-- The dates there are, with a year of at most four digits. -/
def Valid (d : Date) : Prop :=
  (1 ≤ d.year ∧ d.year ≤ 9999) ∧ (1 ≤ d.month ∧ d.month ≤ 12) ∧
    1 ≤ d.day ∧ d.day ≤ monthLength (isLeap d.year) (d.month - 1)

instance (d : Date) : Decidable d.Valid := inferInstanceAs (Decidable (_ ∧ _))

end Date

theorem days_date (days : Nat) : (date days).days = days := by
  let year := locate yearLength (days + 1) 0 days
  have years : elapsed yearLength year.1 + year.2 = days := elapsed_locate_zero yearLength (days + 1) days
  have months := elapsed_locate_zero (monthLength (isLeap (year.1 + 1))) (year.2 + 1) year.2
  calc (date days).days
      = elapsed yearLength year.1 +
          elapsed (monthLength (isLeap (year.1 + 1)))
            (locate (monthLength (isLeap (year.1 + 1))) (year.2 + 1) 0 year.2).1 +
          (locate (monthLength (isLeap (year.1 + 1))) (year.2 + 1) 0 year.2).2 := rfl
    _ = elapsed yearLength year.1 + year.2 := by rw [Nat.add_assoc, months]
    _ = days := years

theorem date_valid {days : Nat} (early : days < 365 * 9999) : (date days).Valid := by
  let year := locate yearLength (days + 1) 0 days
  let month := locate (monthLength (isLeap (year.1 + 1))) (year.2 + 1) 0 year.2
  have years : year.1 < 9999 := locate_lt (Nat.lt_of_lt_of_le early (le_elapsed le_yearLength 9999)) _
  have inYear : year.2 < yearLength year.1 :=
    locate_within (fun index => Nat.lt_of_lt_of_le (by decide) (le_yearLength index)) (Nat.lt_succ_self days) 0
  have months : month.1 < 12 := locate_lt (by rw [elapsed_monthLength]; exact inYear) _
  have inMonth : month.2 < monthLength (isLeap (year.1 + 1)) month.1 :=
    locate_within (fun index => (monthLength_bounds _ index).1) (Nat.lt_succ_self year.2) 0
  exact ⟨⟨Nat.succ_pos _, years⟩, ⟨Nat.succ_pos _, months⟩, Nat.succ_pos _, inMonth⟩

/-! ### Date and time -/

/-- The days before 1970. -/
def epochDay : Nat := 719162

example : Date.days ⟨1970, 1, 1⟩ = epochDay := by decide +kernel

structure Moment where
  date : Date
  hour : Nat
  minute : Nat
  second : Nat
deriving DecidableEq

/-- What a clock in UTC shows at a Unix second. -/
def moment (unix : Nat) : Moment where
  date := date (unix / 86400 + epochDay)
  hour := unix % 86400 / 3600
  minute := unix % 3600 / 60
  second := unix % 60

namespace Moment

def Valid (m : Moment) : Prop := m.date.Valid ∧ m.hour < 24 ∧ m.minute < 60 ∧ m.second < 60

instance (m : Moment) : Decidable m.Valid := inferInstanceAs (Decidable (_ ∧ _))

/-- The Unix second at which a clock in UTC shows this. -/
def toUnix (m : Moment) : Int :=
  ((m.date.days : Int) - epochDay) * 86400 + m.hour * 3600 + m.minute * 60 + m.second

end Moment

theorem toUnix_moment (unix : Nat) : (moment unix).toUnix = unix := by
  rw [Moment.toUnix, moment, days_date]
  push_cast
  omega

theorem moment_valid {unix : Nat} (small : unix < 2 ^ 37) : (moment unix).Valid := by
  refine ⟨date_valid ?_, ?_, ?_, Nat.mod_lt unix (by decide)⟩
  · unfold epochDay
    omega
  · show unix % 86400 / 3600 < 24
    omega
  · show unix % 3600 / 60 < 60
    omega

/-! ### Texts -/

/-- Zeros in front up to a width. -/
def padZero (width n : Nat) : Text := List.replicate (width - (decimal n).length) '0' ++ decimal n

/-- Year to second, then the zone as it is given. -/
def isoText (m : Moment) (zone : Text) : Text :=
  padZero 4 m.date.year ++ '-' :: (padZero 2 m.date.month ++ '-' :: (padZero 2 m.date.day ++ 'T' ::
    (padZero 2 m.hour ++ ':' :: (padZero 2 m.minute ++ ':' :: (padZero 2 m.second ++ zone)))))

/-- A number of exactly so many digits at the start of a text. -/
def readDigits (width : Nat) (text : Text) : Option (Nat × Text) :=
  if width ≤ text.length ∧ (text.take width).all Char.isDigit then
    some ((text.take width).foldl (fun total c => total * 10 + (c.toNat - '0'.toNat)) 0, text.drop width)
  else none

def readMark (mark : Char) : Text → Option Text
  | [] => none
  | c :: rest => if c = mark then some rest else none

/-- The seconds a zone is ahead of UTC, `none` within where the text ends without one. -/
def readZone : Text → Option (Option Int)
  | [] => some none
  | sign :: rest => do
      let (hours, rest) ← readDigits 2 rest
      let rest ← readMark ':' rest
      let (minutes, rest) ← readDigits 2 rest
      let offset : Int := hours * 3600 + minutes * 60
      if rest ≠ [] ∨ 86400 ≤ offset then none
      else if sign = '+' then some (some offset)
      else if sign = '-' then some (some (-offset))
      else none

/-- `datetime.fromisoformat` on what `datetime.isoformat` gives for whole seconds. Any character may stand between
date and time. -/
def fromIsoFormat (text : Text) : Option (Moment × Option Int) := do
  let (year, rest) ← readDigits 4 text
  let rest ← readMark '-' rest
  let (month, rest) ← readDigits 2 rest
  let rest ← readMark '-' rest
  let (day, rest) ← readDigits 2 rest
  let (hour, rest) ← readDigits 2 (rest.drop 1)
  let rest ← readMark ':' rest
  let (minute, rest) ← readDigits 2 rest
  let rest ← readMark ':' rest
  let (second, rest) ← readDigits 2 rest
  let zone ← readZone rest
  let m : Moment := { date := { year, month, day }, hour, minute, second }
  if m.Valid then some (m, zone) else none

theorem length_padZero {width n : Nat} (wide : 0 < width) (small : n < 10 ^ width) :
    (padZero width n).length = width := by
  have digits : (decimal n).length ≤ width := (Nat.length_toDigits_le_iff (by decide) wide).mpr small
  rw [padZero, List.length_append, List.length_replicate]
  omega

theorem isDigit_of_mem_padZero {width n : Nat} {c : Char} (member : c ∈ padZero width n) : c.isDigit = true := by
  rcases List.mem_append.mp member with zero | digit
  · rw [List.eq_of_mem_replicate zero]
    decide
  · exact Fields.isDigit_of_mem_decimal digit

theorem foldl_padZero (width n : Nat) :
    (padZero width n).foldl (fun total c => total * 10 + (c.toNat - '0'.toNat)) 0 = n := by
  have zeros (count : Nat) :
      (List.replicate count '0').foldl (fun total c => total * 10 + (c.toNat - '0'.toNat)) 0 = 0 := by
    induction count with
    | zero => rfl
    | succ count ih => rw [List.replicate_succ, List.foldl_cons]; exact ih
  rw [padZero, List.foldl_append, zeros, Fields.foldl_decimal]

/-- Padded digits are read back, whatever follows them. -/
theorem readDigits_padZero {width n : Nat} (wide : 0 < width) (small : n < 10 ^ width) (rest : Text) :
    readDigits width (padZero width n ++ rest) = some (n, rest) := by
  have size := length_padZero wide small
  have numeric : (padZero width n).all Char.isDigit = true :=
    List.all_eq_true.mpr fun c member => isDigit_of_mem_padZero member
  rw [readDigits, List.take_left' size, List.drop_left' size, foldl_padZero, if_pos]
  exact ⟨by rw [List.length_append, size]; omega, numeric⟩

theorem readMark_cons (mark : Char) (rest : Text) : readMark mark (mark :: rest) = some rest := if_pos rfl

theorem Moment.Valid.fields_lt {m : Moment} (valid : m.Valid) :
    m.date.year < 10 ^ 4 ∧ m.date.month < 10 ^ 2 ∧ m.date.day < 10 ^ 2 ∧ m.hour < 10 ^ 2 ∧ m.minute < 10 ^ 2 ∧
      m.second < 10 ^ 2 := by
  obtain ⟨⟨years, months, days⟩, hours, minutes, seconds⟩ := valid
  have longest : monthLength (isLeap m.date.year) (m.date.month - 1) ≤ 31 := (monthLength_bounds _ _).2
  omega

/-- A valid date and time with a zone is read back. -/
theorem fromIsoFormat_isoText {m : Moment} (valid : m.Valid) (zone : Text) :
    fromIsoFormat (isoText m zone) = (readZone zone).map fun offset => (m, offset) := by
  obtain ⟨year, month, day, hour, minute, second⟩ := valid.fields_lt
  have two : 0 < 2 := by decide
  have separator (rest : Text) : ('T' :: rest).drop 1 = rest := rfl
  simp only [fromIsoFormat, isoText, readDigits_padZero (by decide : 0 < 4) year, readDigits_padZero two month,
    readDigits_padZero two day, readDigits_padZero two hour, readDigits_padZero two minute,
    readDigits_padZero two second, readMark_cons, separator, Option.bind_eq_bind, Option.bind_some]
  cases readZone zone with
  | none => rfl
  | some offset => exact if_pos valid

theorem isoText_eq_append (m : Moment) (zone : Text) : isoText m zone = isoText m [] ++ zone := by
  simp only [isoText, List.append_assoc, List.cons_append, List.append_nil]

theorem not_mem_isoText {m : Moment} {zone : Text} {c : Char} (letter : c.isDigit = false)
    (other : c ∉ ['-', ':', 'T']) (outside : c ∉ zone) : c ∉ isoText m zone := by
  have digits (width n : Nat) : c ∉ padZero width n := by
    intro member
    rw [isDigit_of_mem_padZero member] at letter
    exact absurd letter (by decide)
  simp only [List.mem_cons, List.not_mem_nil, or_false, not_or] at other
  simp [isoText, digits, other, outside]

end DeepOrc.Lib.Calendar

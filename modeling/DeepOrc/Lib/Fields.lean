import DeepOrc.Lib.Text
import Mathlib.Algebra.Ring.Nat
import Mathlib.Data.List.Basic
import Mathlib.Data.List.TakeWhile
import Mathlib.Tactic.Common

/-!
# Fields and numbers in text

Text trimmed and split at blanks, and integers read from decimal digits. What counts as a blank or a digit differs
between languages and is a parameter.
-/

namespace DeepOrc.Lib.Fields

abbrev Text := List Char

variable (blank : Char → Bool)

def trim (text : Text) : Text := ((text.dropWhile blank).reverse.dropWhile blank).reverse

/-- The fields between runs of blanks; `field` holds, reversed, what the current one has so far. -/
def fields (field : Text) : Text → List Text
  | [] => if field = [] then [] else [field.reverse]
  | c :: rest =>
      if blank c then if field = [] then fields [] rest else field.reverse :: fields [] rest
      else fields (c :: field) rest

def padLeft (width : Nat) (text : Text) : Text := List.replicate (width - text.length) ' ' ++ text

/-- The decimal digits of a number. -/
def decimal (n : Nat) : Text := Nat.toDigits 10 n

/-- The value of a text of digits; `none` where a character is none or there are no characters. -/
def digitsValue (digit : Char → Option Nat) (text : Text) : Option Nat :=
  if text = [] then none
  else text.foldl (fun total c => total.bind fun total => (digit c).map fun value => total * 10 + value) (some 0)

/-- The sign in front of a number, whether it is negative, and the rest. -/
def splitSign : Text → Bool × Text
  | '-' :: rest => (true, rest)
  | '+' :: rest => (false, rest)
  | rest => (false, rest)

/-- Blanks around a number are skipped, and single underscores may stand between its digits. -/
def readInt (digit : Char → Option Nat) (text : Text) : Option Int :=
  let (negative, digits) := splitSign (trim blank text)
  let parts := digits.splitOn '_'
  if parts.all (fun part => !part.isEmpty) then
    (digitsValue digit parts.flatten).map fun value => if negative then -(value : Int) else value
  else none

/-- Digits up to an unsigned word, which stays at its largest value once exceeded; `none` on a character that is no
digit before that. -/
def parseUint64 (total : Nat) : Text → Option Nat
  | [] => some total
  | c :: rest =>
      let next := total * 10 + (c.toNat - '0'.toNat)
      if !c.isDigit then none else if 2 ^ 64 ≤ next then some (2 ^ 64 - 1) else parseUint64 next rest

/-- The value beside the error: 0 where the text is no number, the nearest bound where it is out of range. -/
def parseInt64 (text : Text) : Int :=
  let (negative, digits) := splitSign text
  if digits = [] then 0
  else
    match parseUint64 0 digits with
    | none => 0
    | some value => if negative then -(min value (2 ^ 63) : Nat) else (min value (2 ^ 63 - 1) : Nat)

variable {blank}

/-! ### Trimming -/

/-- Without a blank at either end there is nothing to trim. -/
theorem trim_eq_self {text : Text} (first : ∀ c ∈ text.head?, blank c = false)
    (last : ∀ c ∈ text.getLast?, blank c = false) : trim blank text = text := by
  have front : text.dropWhile blank = text := by
    cases text with
    | nil => rfl
    | cons c rest => rw [List.dropWhile_cons_of_neg (by rw [first c rfl]; exact Bool.false_ne_true)]
  have back : text.reverse.dropWhile blank = text.reverse := by
    cases reversed : text.reverse with
    | nil => rfl
    | cons c rest =>
        have final : text.getLast? = some c := by rw [← List.head?_reverse, reversed, List.head?_cons]
        rw [List.dropWhile_cons_of_neg (by simp [last c final])]
  rw [trim, front, back, List.reverse_reverse]

theorem trim_append_blank {text : Text} {c : Char} (ending : blank c = true) :
    trim blank (text ++ [c]) = trim blank text := by
  unfold trim
  by_cases filled : text.dropWhile blank = []
  · have skipped : (text ++ [c]).dropWhile blank = [] := by
      rw [List.dropWhile_append, if_pos (by simp [filled]), List.dropWhile_cons_of_pos ending]
      rfl
    rw [skipped, filled]
  · rw [List.dropWhile_append, if_neg (by simpa using filled), List.reverse_append, List.reverse_singleton,
      List.singleton_append, List.dropWhile_cons_of_pos ending]

theorem trim_padLeft {width : Nat} {text : Text} (space : blank ' ' = true) (solid : ∀ c ∈ text, blank c = false) :
    trim blank (padLeft width text) = text := by
  have skipped : (padLeft width text).dropWhile blank = text.dropWhile blank :=
    List.dropWhile_append_of_pos fun c member => List.eq_of_mem_replicate member ▸ space
  rw [trim, skipped]
  exact trim_eq_self (fun c first => solid c (List.mem_of_mem_head? first))
    fun c last => solid c (List.mem_of_getLast? last)

/-- A text that begins and ends with something else than a blank. -/
structure Framed (blank : Char → Bool) (text : Text) : Prop where
  filled : text ≠ []
  first : ∀ c ∈ text.head?, blank c = false
  last : ∀ c ∈ text.getLast?, blank c = false

theorem framed_of_solid {text : Text} (filled : text ≠ []) (solid : ∀ c ∈ text, blank c = false) :
    Framed blank text where
  filled := filled
  first := fun c found => solid c (List.mem_of_mem_head? found)
  last := fun c found => solid c (List.mem_of_getLast? found)

/-- What stands between framed texts does not matter. -/
theorem Framed.append {front back : Text} (before : Framed blank front) (behind : Framed blank back) (middle : Text) :
    Framed blank (front ++ middle ++ back) where
  filled := List.append_ne_nil_of_right_ne_nil _ behind.filled
  first := by
    rw [List.append_assoc, List.head?_append_of_ne_nil _ before.filled]
    exact before.first
  last := by
    rw [List.getLast?_append_of_ne_nil _ behind.filled]
    exact behind.last

theorem framed_intercalate {texts : List Text} (separator : Text) (nonempty : texts ≠ [])
    (framed : ∀ text ∈ texts, Framed blank text) : Framed blank (separator.intercalate texts) := by
  induction texts with
  | nil => exact absurd rfl nonempty
  | cons text texts ih =>
      obtain ⟨here, later⟩ := List.forall_mem_cons.mp framed
      by_cases more : texts = []
      · rw [more, List.intercalate_singleton]
        exact here
      · rw [List.intercalate_cons_of_ne_nil more]
        exact here.append (ih more later) separator

theorem Framed.trim_append {text : Text} (framed : Framed blank text) {c : Char} (ending : blank c = true) :
    trim blank (text ++ [c]) = text := by
  rw [trim_append_blank ending, trim_eq_self framed.first framed.last]

/-! ### Fields -/

theorem fields_blank {c : Char} (skipped : blank c = true) (rest : Text) :
    fields blank [] (c :: rest) = fields blank [] rest := by
  simp [fields, skipped]

theorem fields_blanks {space : Text} (skipped : ∀ c ∈ space, blank c = true) (rest : Text) :
    fields blank [] (space ++ rest) = fields blank [] rest := by
  induction space with
  | nil => rfl
  | cons c space ih =>
      rw [List.cons_append, fields_blank (skipped c List.mem_cons_self)]
      exact ih fun other member => skipped other (List.mem_cons_of_mem c member)

theorem fields_word {word : Text} (solid : ∀ c ∈ word, blank c = false) (field rest : Text) :
    fields blank field (word ++ rest) = fields blank (word.reverse ++ field) rest := by
  induction word generalizing field with
  | nil => rfl
  | cons c word ih =>
      rw [List.cons_append, fields, if_neg (by simp [solid c List.mem_cons_self])]
      rw [ih (fun other member => solid other (List.mem_cons_of_mem c member)), List.reverse_cons, List.append_assoc]
      rfl

theorem fields_close {field : Text} (filled : field ≠ []) {c : Char} (ending : blank c = true) (rest : Text) :
    fields blank field (c :: rest) = field.reverse :: fields blank [] rest := by
  rw [fields, if_pos ending, if_neg filled]

/-- A cell is a field behind at least one blank. -/
structure IsCell (blank : Char → Bool) (cell : Text × Text) : Prop where
  apart : cell.1 ≠ []
  spaced : ∀ c ∈ cell.1, blank c = true
  filled : cell.2 ≠ []
  solid : ∀ c ∈ cell.2, blank c = false

/-- Cells one after the other are read back, whatever field stands before them and blanks behind them. -/
theorem fields_cells {cells : List (Text × Text)} (shaped : ∀ cell ∈ cells, IsCell blank cell) {space : Text}
    (skipped : ∀ c ∈ space, blank c = true) (field : Text) :
    fields blank field ((cells.flatMap fun cell => cell.1 ++ cell.2) ++ space) =
      (if field = [] then [] else [field.reverse]) ++ cells.map Prod.snd := by
  induction cells generalizing field with
  | nil =>
      rw [List.flatMap_nil, List.nil_append, List.map_nil, List.append_nil]
      by_cases empty : field = []
      · have trailing := fields_blanks skipped []
        rw [List.append_nil] at trailing
        rw [empty, trailing]
        rfl
      · cases space with
        | nil => simp [fields, empty]
        | cons c space =>
            have trailing := fields_blanks (fun other member => skipped other (List.mem_cons_of_mem c member)) []
            rw [List.append_nil] at trailing
            rw [fields_close empty (skipped c List.mem_cons_self), trailing, if_neg empty]
            rfl
  | cons cell cells ih =>
      obtain ⟨apart, spaced, filled, solid⟩ := shaped cell List.mem_cons_self
      have later := ih fun other member => shaped other (List.mem_cons_of_mem cell member)
      have word : fields blank [] (cell.2 ++ ((cells.flatMap fun cell => cell.1 ++ cell.2) ++ space)) =
          cell.2 :: cells.map Prod.snd := by
        rw [fields_word solid, later, List.append_nil, if_neg (by simpa using filled), List.reverse_reverse]
        rfl
      obtain ⟨c, space', first⟩ := List.exists_cons_of_ne_nil apart
      have rest : ∀ other ∈ space', blank other = true := fun other member =>
        spaced other (by rw [first]; exact List.mem_cons_of_mem c member)
      have opened : fields blank field (cell.1 ++ (cell.2 ++ ((cells.flatMap fun cell => cell.1 ++ cell.2) ++ space))) =
          (if field = [] then [] else [field.reverse]) ++ cell.2 :: cells.map Prod.snd := by
        by_cases empty : field = []
        · rw [empty, fields_blanks spaced, word]
          rfl
        · rw [first, List.cons_append, fields_close empty (spaced c (by rw [first]; exact List.mem_cons_self)),
            fields_blanks rest, word, if_neg empty]
          rfl
      rw [List.flatMap_cons, List.append_assoc, List.append_assoc, opened]
      rfl

/-! ### Numbers -/

theorem decimal_ne_nil (n : Nat) : decimal n ≠ [] := Nat.toDigits_ne_nil

theorem isDigit_of_mem_decimal {n : Nat} {c : Char} (member : c ∈ decimal n) : c.isDigit = true :=
  Nat.isDigit_of_mem_toDigits (by decide) (by decide) member

/-- No zero stands in front of a number. -/
theorem decimal_head {n : Nat} (positive : 0 < n) : ∃ c rest, decimal n = c :: rest ∧ c ≠ '0' := by
  induction n using Nat.strongRecOn with
  | ind n ih =>
      by_cases small : n < 10
      · have digit : ∀ n < 10, 0 < n → n.digitChar ≠ '0' := by decide
        exact ⟨n.digitChar, [], Nat.toDigits_of_lt_base small, digit n small positive⟩
      · obtain ⟨c, rest, text, first⟩ := ih (n / 10) (by omega) (by omega)
        refine ⟨c, rest ++ [(n % 10).digitChar], ?_, first⟩
        have longer : decimal n = decimal (n / 10) ++ [(n % 10).digitChar] :=
          Nat.toDigits_of_base_le (by decide) (by omega)
        rw [longer, text, List.cons_append]

theorem foldl_decimal (n : Nat) : (decimal n).foldl (fun total c => total * 10 + (c.toNat - '0'.toNat)) 0 = n := by
  have value := Nat.ofDigitChars_ten_toDigits (n := n)
  rw [Nat.ofDigitChars] at value
  simpa only [decimal, Nat.mul_comm] using value

theorem splitSign_decimal (n : Nat) : splitSign (decimal n) = (false, decimal n) := by
  unfold splitSign
  split
  · rename_i rest text
    have digit := isDigit_of_mem_decimal (text ▸ List.mem_cons_self : '-' ∈ decimal n)
    simp at digit
  · rename_i rest text
    have digit := isDigit_of_mem_decimal (text ▸ List.mem_cons_self : '+' ∈ decimal n)
    simp at digit
  · rfl

theorem mem_trim {text : Text} {c : Char} (member : c ∈ text) (solid : blank c = false) : c ∈ trim blank text := by
  have kept : ∀ text : Text, c ∈ text → c ∈ text.dropWhile blank := by
    intro text member
    rw [← List.takeWhile_append_dropWhile (p := blank) (l := text), List.mem_append] at member
    apply member.resolve_left
    intro skipped
    rw [List.mem_takeWhile_imp skipped] at solid
    cases solid
  rw [trim, List.mem_reverse]
  exact kept _ (List.mem_reverse.mpr (kept text member))

theorem digitsValue_foreign {digit : Char → Option Nat} {text : Text} {c : Char} (member : c ∈ text)
    (foreign : digit c = none) : digitsValue digit text = none := by
  have lost : ∀ text : Text, text.foldl (fun total c => total.bind fun total =>
      (digit c).map fun value => total * 10 + value) none = none := by
    intro text
    induction text with
    | nil => rfl
    | cons _ _ ih => exact ih
  obtain ⟨front, rest, rfl⟩ := List.append_of_mem member
  rw [digitsValue, if_neg (by simp), List.foldl_append, List.foldl_cons, foreign]
  cases List.foldl _ _ front <;> exact lost rest

/-- A character that no part of a number is made of. -/
theorem readInt_foreign {digit : Char → Option Nat} {text : Text} {c : Char} (member : c ∈ text)
    (solid : blank c = false) (unsigned : c ≠ '-' ∧ c ≠ '+') (other : c ≠ '_') (foreign : digit c = none) :
    readInt blank digit text = none := by
  have inside : c ∈ (splitSign (trim blank text)).2 := by
    have kept := mem_trim member solid
    unfold splitSign
    split
    · rename_i rest same
      rw [same] at kept
      exact (List.mem_cons.mp kept).resolve_left unsigned.1
    · rename_i rest same
      rw [same] at kept
      exact (List.mem_cons.mp kept).resolve_left unsigned.2
    · exact kept
  have part : c ∈ ((splitSign (trim blank text)).2.splitOn '_').flatten := by
    generalize (splitSign (trim blank text)).2 = digits at inside
    have whole : ['_'].intercalate (digits.splitOn '_') = digits := List.intercalate_splitOn '_'
    rw [← whole] at inside
    by_contra outside
    refine Text.notMem_intercalate other ?_ inside
    intro part listed held
    exact outside (List.mem_flatten.mpr ⟨part, listed, held⟩)
  unfold readInt
  dsimp only
  rw [digitsValue_foreign part foreign]
  split <;> rfl

/-- A reader of integers that knows the ASCII digits reads back the digits of a number. -/
theorem readInt_decimal {digit : Char → Option Nat} (solid : ∀ c, c.isDigit = true → blank c = false)
    (known : ∀ c, c.isDigit = true → digit c = some (c.toNat - '0'.toNat)) (n : Nat) :
    readInt blank digit (decimal n) = some (n : Int) := by
  have digits (c : Char) (member : c ∈ decimal n) : c.isDigit = true := isDigit_of_mem_decimal member
  have trimmed : trim blank (decimal n) = decimal n :=
    trim_eq_self (fun c first => solid c (digits c (List.mem_of_mem_head? first)))
      fun c last => solid c (digits c (List.mem_of_getLast? last))
  have whole : (decimal n).splitOn '_' = [decimal n] := by
    apply List.splitOn_eq_singleton
    intro member
    have digit := digits '_' member
    simp at digit
  have stepwise (text : Text) (numeric : ∀ c ∈ text, c.isDigit = true) (total : Nat) :
      text.foldl (fun total c => total.bind fun total => (digit c).map fun value => total * 10 + value) (some total) =
        some (text.foldl (fun total c => total * 10 + (c.toNat - '0'.toNat)) total) := by
    induction text generalizing total with
    | nil => rfl
    | cons c text ih =>
        rw [List.foldl_cons, List.foldl_cons, known c (numeric c List.mem_cons_self)]
        exact ih (fun other member => numeric other (List.mem_cons_of_mem c member)) _
  have value : digitsValue digit (decimal n) = some n := by
    rw [digitsValue, if_neg (decimal_ne_nil n), stepwise _ digits, foldl_decimal]
  simp only [readInt, trimmed, splitSign_decimal, whole, List.all_cons, List.all_nil, Bool.and_true,
    List.flatten_cons, List.flatten_nil, List.append_nil, value]
  simp [decimal_ne_nil]

theorem parseUint64_of_small {text : Text} (numeric : ∀ c ∈ text, c.isDigit = true) (total : Nat)
    (small : text.foldl (fun total c => total * 10 + (c.toNat - '0'.toNat)) total < 2 ^ 64) :
    parseUint64 total text = some (text.foldl (fun total c => total * 10 + (c.toNat - '0'.toNat)) total) := by
  have grows (text : Text) (total : Nat) :
      total ≤ text.foldl (fun total c => total * 10 + (c.toNat - '0'.toNat)) total := by
    induction text generalizing total with
    | nil => exact Nat.le_refl total
    | cons c text ih => exact Nat.le_trans (by omega) (ih (total * 10 + (c.toNat - '0'.toNat)))
  induction text generalizing total with
  | nil => rfl
  | cons c text ih =>
      have bounded : ¬2 ^ 64 ≤ total * 10 + (c.toNat - '0'.toNat) := by
        have := grows text (total * 10 + (c.toNat - '0'.toNat))
        rw [List.foldl_cons] at small
        omega
      simp only [parseUint64, numeric c List.mem_cons_self, Bool.not_true, Bool.false_eq_true, if_false,
        if_neg bounded]
      exact ih (fun other member => numeric other (List.mem_cons_of_mem c member)) _ small

theorem parseInt64_decimal {n : Nat} (small : n < 2 ^ 63) : parseInt64 (decimal n) = n := by
  have parsed : parseUint64 0 (decimal n) = some n := by
    have read := @parseUint64_of_small (decimal n) (fun c member => isDigit_of_mem_decimal member) 0
    rw [foldl_decimal] at read
    exact read (by omega)
  simp only [parseInt64, splitSign_decimal, if_neg (decimal_ne_nil n), parsed, Bool.false_eq_true, if_false]
  omega

end DeepOrc.Lib.Fields

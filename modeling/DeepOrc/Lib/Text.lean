import Mathlib.Data.List.Basic
import Mathlib.Data.List.Infix
import Mathlib.Tactic.Common

/-!
# Text cut by separators

What a search for a part finds in a text of fields, when no field holds the separator.
-/

namespace DeepOrc.Lib.Text

variable {α : Type*} {sep : α}

/-- A part without the separator lies on one side of it. -/
theorem infix_append_cons {part before after : List α} (absent : sep ∉ part) :
    part <:+: before ++ sep :: after ↔ part <:+: before ∨ part <:+: after := by
  constructor
  · intro inside
    obtain ⟨left, right, whole⟩ := inside
    rcases List.append_eq_append_iff.mp whole with ⟨rest, front, -⟩ | ⟨rest, front, back⟩
    · exact .inl ⟨left, rest, front.symm⟩
    · cases rest with
      | nil => exact .inl ⟨left, [], by simpa using front⟩
      | cons head tail =>
          obtain ⟨rfl, later⟩ := List.cons_eq_cons.mp back
          rcases List.append_eq_append_iff.mp front with ⟨held, -, split⟩ | ⟨held, -, split⟩
          · exact absurd (by simp [split]) absent
          · cases held with
            | nil => exact absurd (by rw [List.nil_append] at split; simp [← split]) absent
            | cons first held =>
                have rest := (List.cons_eq_cons.mp split).2
                exact .inr ⟨held, right, by simp only [later, rest, List.append_eq]⟩
  · rintro (⟨left, right, rfl⟩ | ⟨left, right, rfl⟩)
    · exact ⟨left, right ++ sep :: after, by simp⟩
    · exact ⟨before ++ sep :: left, right, by simp⟩

theorem not_infix_of_notMem {part text : List α} {c : α} (member : c ∈ part) (absent : c ∉ text) :
    ¬part <:+: text := fun inside => absent (inside.subset member)

/-- The first field ends at the first separator. -/
theorem append_cons_inj {field field' rest rest' : List α} (absent : sep ∉ field) (absent' : sep ∉ field') :
    field ++ sep :: rest = field' ++ sep :: rest' ↔ field = field' ∧ rest = rest' := by
  constructor
  · intro same
    induction field generalizing field' with
    | nil =>
        cases field' with
        | nil => exact ⟨rfl, (List.cons_eq_cons.mp same).2⟩
        | cons head tail =>
            have heads := (List.cons_eq_cons.mp same).1
            exact absurd (by simp [heads]) absent'
    | cons first field ih =>
        cases field' with
        | nil =>
            have heads := (List.cons_eq_cons.mp same).1
            exact absurd (by simp [heads]) absent
        | cons head tail =>
            obtain ⟨heads, tails⟩ := List.cons_eq_cons.mp same
            rw [List.mem_cons, not_or] at absent absent'
            obtain ⟨fields, rests⟩ := ih absent.2 absent'.2 tails
            exact ⟨by rw [heads, fields], rests⟩
  · rintro ⟨rfl, rfl⟩
    rfl

/-- A beginning with a separator fixes the first field. -/
theorem prefix_append_cons {field field' rest rest' : List α} (absent : sep ∉ field) (absent' : sep ∉ field') :
    field ++ sep :: rest <+: field' ++ sep :: rest' ↔ field = field' ∧ rest <+: rest' := by
  constructor
  · intro front
    obtain ⟨more, whole⟩ := front
    rw [List.append_assoc, List.cons_append] at whole
    obtain ⟨same, later⟩ := (append_cons_inj absent absent').mp whole
    exact ⟨same, more, later⟩
  · rintro ⟨rfl, more, rfl⟩
    exact ⟨more, by simp⟩

/-- A part with as many separators as the text takes the end of its first field and goes on from there. -/
theorem infix_of_count [DecidableEq α] {field field' rest rest' : List α} (absent : sep ∉ field)
    (absent' : sep ∉ field') (counts : rest.count sep = rest'.count sep) :
    field ++ sep :: rest <:+: field' ++ sep :: rest' ↔ field <:+ field' ∧ rest <+: rest' := by
  constructor
  · intro inside
    obtain ⟨left, right, whole⟩ := inside
    have counted := congrArg (List.count sep) whole
    simp only [List.count_append, List.count_cons_self, counts, List.count_eq_zero.mpr absent,
      List.count_eq_zero.mpr absent'] at counted
    have outside : sep ∉ left ++ field := by
      rw [List.mem_append, not_or]
      exact ⟨List.count_eq_zero.mp (by omega), absent⟩
    have regrouped : (left ++ field) ++ sep :: (rest ++ right) = field' ++ sep :: rest' := by
      simpa using whole
    obtain ⟨same, later⟩ := (append_cons_inj outside absent').mp regrouped
    exact ⟨⟨left, same⟩, right, later⟩
  · rintro ⟨⟨left, rfl⟩, right, rfl⟩
    exact ⟨left, right, by simp⟩

/-- The last of the parts that separators cut off. -/
theorem getLast?_splitOn [DecidableEq α] {front last : List α} (absent : sep ∉ last) :
    ((front ++ sep :: last).splitOn sep).getLast? = some last := by
  rw [List.splitOn_append_cons_self, List.splitOn_eq_singleton absent]
  exact List.getLast?_concat

/-- The last separator of a text. -/
theorem exists_last_sep {text : List α} (member : sep ∈ text) : ∃ front last, text = front ++ sep :: last ∧ sep ∉ last := by
  obtain ⟨last, front, backwards, absent⟩ := List.eq_append_cons_of_mem (List.mem_reverse.mpr member)
  refine ⟨front.reverse, last.reverse, ?_, fun inside => absent (List.mem_reverse.mp inside)⟩
  rw [← List.reverse_reverse text, backwards, List.reverse_append, List.reverse_cons, List.append_assoc]
  rfl

/-- A text without separators belongs whole to the last part. -/
theorem subset_last_part [DecidableEq α] {tail : List α} (absent : sep ∉ tail) (front : List α) :
    tail ⊆ (((front ++ tail).splitOn sep).getLast?).getD [] := by
  by_cases member : sep ∈ front
  · obtain ⟨start, last, rfl, free⟩ := exists_last_sep member
    have whole : sep ∉ last ++ tail := by
      rw [List.mem_append, not_or]
      exact ⟨free, absent⟩
    rw [List.append_assoc, List.cons_append, getLast?_splitOn whole]
    exact List.subset_append_right last tail
  · have whole : sep ∉ front ++ tail := by
      rw [List.mem_append, not_or]
      exact ⟨member, absent⟩
    rw [List.splitOn_eq_singleton whole]
    exact List.subset_append_right front tail

/-- Text without a separator joins the first part of what follows. -/
theorem splitOn_append [DecidableEq α] {front : List α} (absent : sep ∉ front) (text : List α) :
    (front ++ text).splitOn sep = (front ++ (text.splitOn sep).headD []) :: (text.splitOn sep).tail := by
  induction front with
  | nil =>
      obtain ⟨first, rest, parts⟩ := List.exists_cons_of_ne_nil (List.splitOn_ne_nil sep text)
      rw [List.nil_append, parts]
      rfl
  | cons c front ih =>
      obtain ⟨other, later⟩ := not_or.mp (mt List.mem_cons.mpr absent)
      rw [List.cons_append, List.splitOn_cons_eq_if_modifyHead, ih later]
      rw [if_neg (by simpa using Ne.symm other)]
      rfl

/-- Lines that each end with a separator, and the empty part after the last one. -/
theorem splitOn_intercalate_append [DecidableEq α] {lines : List (List α)} (some : lines ≠ []) :
    ([sep].intercalate lines ++ [sep]).splitOn sep = lines.flatMap (fun line => line.splitOn sep) ++ [[]] := by
  induction lines with
  | nil => exact absurd rfl some
  | cons line lines ih =>
      cases lines with
      | nil =>
          rw [List.intercalate_singleton, List.splitOn_append_cons_self, List.flatMap_singleton]
          rfl
      | cons next rest =>
          have later := ih (List.cons_ne_nil next rest)
          rw [List.intercalate_cons_cons, List.append_assoc, List.append_assoc, List.singleton_append,
            List.splitOn_append_cons_self, later]
          simp only [List.flatMap_cons, List.append_assoc]

theorem notMem_intercalate {c : α} (different : c ≠ sep) {parts : List (List α)}
    (absent : ∀ part ∈ parts, c ∉ part) : c ∉ [sep].intercalate parts := by
  induction parts with
  | nil => exact List.not_mem_nil
  | cons first rest ih =>
      have later := ih fun part member => absent part (List.mem_cons_of_mem _ member)
      have front := absent first List.mem_cons_self
      cases rest with
      | nil => simpa [List.intercalate_singleton] using front
      | cons second rest =>
          rw [List.intercalate_cons_cons, List.mem_append, List.mem_append, List.mem_singleton]
          tauto

/-! ### Decimal numerals -/

theorem isDigit_of_mem_numeral {n : Nat} {c : Char} (member : c ∈ (toString n).toList) : c.isDigit = true := by
  rw [Nat.toString_eq_repr, Nat.toList_repr] at member
  exact Nat.isDigit_of_mem_toDigits (by decide) (by decide) member

theorem numeral_injective : Function.Injective fun n : Nat => (toString n).toList := by
  intro one other same
  replace same : (toString one).toList = (toString other).toList := same
  rw [Nat.toString_eq_repr, Nat.toString_eq_repr, Nat.toList_repr, Nat.toList_repr] at same
  have read := congrArg (fun digits => Nat.ofDigitChars 10 digits 0) same
  simpa only [Nat.ofDigitChars_ten_toDigits] using read

theorem notMem_numeral {n : Nat} {c : Char} (other : c.isDigit = false) : c ∉ (toString n).toList := by
  intro member
  rw [isDigit_of_mem_numeral member] at other
  cases other

theorem head_intNumeral {n : Int} : (toString n).toList.head? = some '-' ↔ n < 0 := by
  cases n with
  | ofNat n =>
      constructor
      · intro minus
        have digit := isDigit_of_mem_numeral (n := n) (List.mem_of_mem_head? minus)
        exact absurd digit (by decide)
      · intro negative
        exact absurd negative (Int.not_lt.mpr (Int.natCast_nonneg n))
  | negSucc n =>
      constructor
      · intro _
        exact Int.negSucc_lt_zero n
      · intro _
        exact congrArg List.head? (String.toList_append (s := "-") (t := toString (n + 1)))

theorem intNumeral_injective : Function.Injective fun n : Int => toString n := by
  intro one other same
  replace same : toString one = toString other := same
  have signs : one < 0 ↔ other < 0 := by rw [← head_intNumeral, ← head_intNumeral, same]
  cases one with
  | ofNat one =>
      cases other with
      | ofNat other => exact congrArg Int.ofNat (numeral_injective (congrArg String.toList same))
      | negSucc other => exact absurd (signs.mpr (Int.negSucc_lt_zero other)) (Int.not_lt.mpr (Int.natCast_nonneg one))
  | negSucc one =>
      cases other with
      | ofNat other => exact absurd (signs.mp (Int.negSucc_lt_zero one)) (Int.not_lt.mpr (Int.natCast_nonneg other))
      | negSucc other =>
          have digits : "-" ++ toString (one + 1) = "-" ++ toString (other + 1) := same
          have letters := congrArg String.toList digits
          rw [String.toList_append, String.toList_append] at letters
          have equal := numeral_injective (List.append_cancel_left letters)
          rw [Nat.succ.inj equal]

theorem notMem_intNumeral {n : Int} {c : Char} (other : c.isDigit = false) (unsigned : c ≠ '-') : c ∉ (toString n).toList := by
  cases n with
  | ofNat n => exact notMem_numeral other
  | negSucc n =>
      show c ∉ ("-" ++ toString (n + 1)).toList
      rw [String.toList_append, List.mem_append]
      rintro (sign | digits)
      · exact unsigned (List.mem_singleton.mp sign)
      · exact notMem_numeral other digits

/-! ### Optional texts as conditions -/

/-- `value or …`: an empty text counts as none. -/
def given (value : Option String) : Option String := value.filter fun text => text ≠ ""

/-- Python's truth of an optional text. -/
def truthy (value : Option String) : Bool := (given value).isSome

/-- `first or second` -/
def orText (first second : Option String) : Option String := (given first).or second

@[simp] theorem given_none : given none = none := rfl

theorem given_some {text : String} (filled : text ≠ "") : given (some text) = some text :=
  Option.filter_eq_some_iff.mpr ⟨rfl, decide_eq_true filled⟩

theorem truthy_some {text : String} (filled : text ≠ "") : truthy (some text) = true := by
  rw [truthy, given_some filled]
  rfl

theorem orText_some {text : String} (filled : text ≠ "") (other : Option String) : orText (some text) other = some text := by
  rw [orText, given_some filled]
  rfl

@[simp] theorem orText_self (value : Option String) : orText value value = value := by
  rw [orText]
  cases found : given value with
  | none => rfl
  | some text => exact (Option.filter_eq_some_iff.mp found).1.symm

theorem ne_empty_of_given {value : Option String} {text : String} (found : given value = some text) : text ≠ "" :=
  of_decide_eq_true (Option.filter_eq_some_iff.mp found).2

end DeepOrc.Lib.Text

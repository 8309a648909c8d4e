import Mathlib.Data.List.Infix
import Mathlib.Tactic.Common

/-!
# Indented JSON

Documents as an encoder with indentation lays them out, and what a search of their text for a member finds: the
member may stand at any depth, and its name may be only the end of a longer one that has a quote in it.
-/

namespace DeepOrc.Lib

/-- The digits, signs and letters of a number. -/
structure NumberLiteral where
  text : List Char
  nonempty : text ≠ []
  numeric : ∀ c ∈ text, c.isDigit = true ∨ c ∈ ['+', '-', '.', 'e', 'E']

inductive Json where
  | null
  | bool (value : Bool)
  | number (literal : NumberLiteral)
  | string (text : List Char)
  | array (items : List Json)
  | object (members : List (List Char × Json))

namespace Json

abbrev Text := List Char

def hexDigit (n : Nat) : Char := if n < 10 then Char.ofNat (48 + n) else Char.ofNat (87 + n)

def unicodeEscape (c : Char) : Text :=
  ['\\', 'u', hexDigit (c.toNat / 4096 % 16), hexDigit (c.toNat / 256 % 16), hexDigit (c.toNat / 16 % 16),
    hexDigit (c.toNat % 16)]

def escape (c : Char) : Text :=
  if c = '"' then ['\\', '"']
  else if c = '\\' then ['\\', '\\']
  else if c = '\x08' then ['\\', 'b']
  else if c = '\x0c' then ['\\', 'f']
  else if c = '\n' then ['\\', 'n']
  else if c = '\r' then ['\\', 'r']
  else if c = '\t' then ['\\', 't']
  else if c.toNat < 32 ∨ c ∈ ['<', '>', '&', '\u2028', '\u2029'] then unicodeEscape c
  else [c]

/-- The rest of a string whose opening quote stands before it. -/
def closed (text rest : Text) : Text := text.flatMap escape ++ '"' :: rest

def newline (depth : Nat) : Text := '\n' :: List.replicate (2 * depth) ' '

mutual

def layout (depth : Nat) : Json → Text
  | null => ['n', 'u', 'l', 'l']
  | bool true => ['t', 'r', 'u', 'e']
  | bool false => ['f', 'a', 'l', 's', 'e']
  | number literal => literal.text
  | string text => '"' :: closed text []
  | array [] => ['[', ']']
  | array (item :: items) => '[' :: newline (depth + 1) ++ layout (depth + 1) item ++ layoutItems depth items
  | object [] => ['{', '}']
  | object ((key, value) :: members) =>
      '{' :: newline (depth + 1) ++ '"' :: closed key (':' :: ' ' :: layout (depth + 1) value) ++
        layoutMembers depth members

def layoutItems (depth : Nat) : List Json → Text
  | [] => newline depth ++ [']']
  | item :: items => ',' :: newline (depth + 1) ++ layout (depth + 1) item ++ layoutItems depth items

def layoutMembers (depth : Nat) : List (Text × Json) → Text
  | [] => newline depth ++ ['}']
  | (key, value) :: members =>
      ',' :: newline (depth + 1) ++ '"' :: closed key (':' :: ' ' :: layout (depth + 1) value) ++
        layoutMembers depth members

end

/-- The text of a member, from the quote before its name to the end of its value. -/
def memberText (name value : Text) : Text := '"' :: name ++ '"' :: ':' :: ' ' :: value

/-- A member of some object, at any depth. -/
inductive Within (key : Text) (value : Json) : Json → Prop where
  | here {members : List (Text × Json)} : (key, value) ∈ members → Within key value (.object members)
  | item {items : List Json} {item : Json} : item ∈ items → Within key value item → Within key value (.array items)
  | member {members : List (Text × Json)} {other : Text} {inner : Json} : (other, inner) ∈ members →
      Within key value inner → Within key value (.object members)

/-- It is the name, or ends in a quote and the name. -/
def EndsIn (name key : Text) : Prop := ('"' :: name) <:+ ('"' :: key)

def Has (name : Text) (value document : Json) : Prop := ∃ key, Within key value document ∧ EndsIn name key

/-! ### Strings -/

/-- Laid out as it is. -/
def Plain (name : Text) : Prop := ∀ c ∈ name, escape c = [c]

instance (name : Text) : Decidable (Plain name) := List.decidableBAll (fun c => escape c = [c]) name

theorem hexDigit_ne_quote : ∀ n < 16, hexDigit n ≠ '"' := by decide

theorem escape_cases (c : Char) : c = '"' ∧ escape c = ['\\', '"'] ∨ escape c = [c] ∧ c ≠ '"' ∧ c ≠ '\\' ∨
    ∃ rest, escape c = '\\' :: rest ∧ '"' ∉ rest ∧ c ≠ '"' := by
  by_cases quote : c = '"'
  · subst quote
    exact .inl ⟨rfl, by decide⟩
  · have digits : ∀ n, hexDigit (n % 16) ≠ '"' := fun n => hexDigit_ne_quote _ (Nat.mod_lt n (by decide))
    unfold escape
    split_ifs with backslash
    · exact .inr (.inr ⟨['\\'], rfl, by decide, quote⟩)
    · exact .inr (.inr ⟨['b'], rfl, by decide, quote⟩)
    · exact .inr (.inr ⟨['f'], rfl, by decide, quote⟩)
    · exact .inr (.inr ⟨['n'], rfl, by decide, quote⟩)
    · exact .inr (.inr ⟨['r'], rfl, by decide, quote⟩)
    · exact .inr (.inr ⟨['t'], rfl, by decide, quote⟩)
    · refine .inr (.inr ⟨_, rfl, ?_, quote⟩)
      simp [(digits _).symm]
    · exact .inr (.inl ⟨rfl, quote, backslash⟩)

theorem closed_cons (c : Char) (text rest : Text) : closed (c :: text) rest = escape c ++ closed text rest := by
  simp [closed]

theorem plain_ne {name : Text} (plain : Plain name) {c : Char} (member : c ∈ name) : c ≠ '"' ∧ c ≠ '\\' := by
  have alone := plain c member
  constructor
  · rintro rfl
    cases alone
  · rintro rfl
    cases alone

/-- A plain name with its closing quote is read off the start of a string only where it is the whole string. -/
theorem prefix_closed_iff {name value rest : Text} (plain : Plain name) : ∀ {text : Text},
    name ++ '"' :: value <+: closed text rest ↔ text = name ∧ value <+: rest := by
  induction name with
  | nil =>
      intro text
      cases text with
      | nil => simp [closed, List.cons_prefix_cons]
      | cons c text =>
          rw [closed_cons]
          rcases escape_cases c with ⟨rfl, escaped⟩ | ⟨alone, other, -⟩ | ⟨_, escaped, -⟩
          · simp [escaped, List.cons_prefix_cons]
          · simp [alone, List.cons_prefix_cons, other.symm]
          · simp [escaped, List.cons_prefix_cons]
  | cons first name later =>
      intro text
      have distinct := plain_ne plain List.mem_cons_self
      have plain_later : Plain name := fun c member => plain c (List.mem_cons_of_mem _ member)
      cases text with
      | nil => simp [closed, List.cons_prefix_cons, distinct.1]
      | cons c text =>
          rw [closed_cons]
          rcases escape_cases c with ⟨rfl, escaped⟩ | ⟨alone, -⟩ | ⟨others, escaped, -⟩
          · simp [escaped, List.cons_prefix_cons, distinct.2, distinct.1.symm]
          · rw [alone, List.cons_append, List.cons_append, List.nil_append, List.cons_prefix_cons,
              later plain_later, List.cons.injEq]
            constructor
            · rintro ⟨rfl, rfl, starts⟩
              exact ⟨⟨rfl, rfl⟩, starts⟩
            · rintro ⟨⟨rfl, rfl⟩, starts⟩
              exact ⟨rfl, rfl, starts⟩
          · have different : c ≠ first := by
              rintro rfl
              rw [plain c List.mem_cons_self] at escaped
              cases escaped
              exact distinct.2 rfl
            simp [escaped, List.cons_prefix_cons, distinct.2, different]

/-! ### Searching a layout -/

section Search

variable {name value : Text}

theorem skip {c : Char} (other : c ≠ '"') (rest : Text) :
    memberText name value <:+: c :: rest ↔ memberText name value <:+: rest := by
  rw [List.infix_cons_iff]
  simp [memberText, List.cons_prefix_cons, other.symm]

theorem at_quote (rest : Text) : memberText name value <:+: '"' :: rest ↔
    name ++ '"' :: ':' :: ' ' :: value <+: rest ∨ memberText name value <:+: rest := by
  rw [List.infix_cons_iff]
  simp [memberText, List.cons_prefix_cons]

theorem skip_all {front : Text} (others : '"' ∉ front) (rest : Text) :
    memberText name value <:+: front ++ rest ↔ memberText name value <:+: rest := by
  induction front with
  | nil => rfl
  | cons c front later =>
      rw [List.mem_cons, not_or] at others
      rw [List.cons_append, skip (Ne.symm others.1), later others.2]

theorem skip_newline (depth : Nat) (rest : Text) :
    memberText name value <:+: newline depth ++ rest ↔ memberText name value <:+: rest := by
  refine skip_all ?_ rest
  simp [newline, List.mem_replicate]

theorem infix_closed_iff (plain : Plain name) {rest : Text} (apart : ¬ name ++ '"' :: ':' :: ' ' :: value <+: rest) :
    ∀ text, memberText name value <:+: closed text rest ↔
      ('"' :: name) <:+ text ∧ ':' :: ' ' :: value <+: rest ∨ memberText name value <:+: rest := by
  intro text
  induction text with
  | nil =>
      change memberText name value <:+: '"' :: rest ↔ _
      rw [at_quote]
      simp [apart]
  | cons c text later =>
      rw [closed_cons, List.suffix_cons_iff]
      rcases escape_cases c with ⟨rfl, escaped⟩ | ⟨alone, other, -⟩ | ⟨others, escaped, unquoted, other⟩
      · rw [escaped]
        change memberText name value <:+: '\\' :: '"' :: closed text rest ↔ _
        rw [skip (by decide), at_quote, prefix_closed_iff plain, later]
        simp only [true_and, List.cons.injEq, or_and_right, or_assoc, eq_comm]
      · rw [alone]
        change memberText name value <:+: c :: closed text rest ↔ _
        rw [skip other, later]
        simp [other.symm]
      · rw [escaped, List.cons_append, skip (by decide), skip_all unquoted, later]
        simp [other.symm]

/-- A string shows the member where its text ends in the name and the value follows. -/
theorem infix_string_iff (plain : Plain name) {rest : Text} (apart : ¬ name ++ '"' :: ':' :: ' ' :: value <+: rest)
    (text : Text) : memberText name value <:+: '"' :: closed text rest ↔
      EndsIn name text ∧ ':' :: ' ' :: value <+: rest ∨ memberText name value <:+: rest := by
  rw [at_quote, prefix_closed_iff plain, infix_closed_iff plain apart, EndsIn, List.suffix_cons_iff]
  simp only [true_and, List.cons.injEq, or_and_right, or_assoc, eq_comm]

/-- What stands after a value: the next one, or the end of what it is in. -/
def Boundary (rest : Text) : Prop := ∀ c, rest.head? = some c → c = ',' ∨ c = '\n'

/-- The text stands at the start of a layout only where it is that value. -/
def Recognises (text : Text) (wanted : Json) : Prop :=
  ∀ depth document rest, Boundary rest → (text <+: layout depth document ++ rest ↔ document = wanted)

theorem boundary_nil : Boundary [] := nofun

theorem boundary_items (depth : Nat) (items : List Json) (rest : Text) : Boundary (layoutItems depth items ++ rest) := by
  cases items <;> simp [layoutItems, newline, Boundary]

theorem boundary_members (depth : Nat) (members : List (Text × Json)) (rest : Text) :
    Boundary (layoutMembers depth members ++ rest) := by
  rcases members with _ | ⟨⟨key, inner⟩, members⟩ <;> simp [layoutMembers, newline, Boundary]

theorem not_prefix_of_boundary {rest : Text} {c : Char} {text : Text} (boundary : Boundary rest) (comma : c ≠ ',')
    (line : c ≠ '\n') : ¬ c :: text <+: rest := by
  rintro ⟨later, rfl⟩
  rcases boundary c rfl with rfl | rfl
  · exact comma rfl
  · exact line rfl

theorem within_array {key : Text} {inner : Json} {items : List Json} :
    Within key inner (.array items) ↔ ∃ item ∈ items, Within key inner item := by
  constructor
  · rintro (_ | ⟨member, within⟩)
    exact ⟨_, member, within⟩
  · rintro ⟨item, member, within⟩
    exact .item member within

theorem within_object {key : Text} {inner : Json} {members : List (Text × Json)} :
    Within key inner (.object members) ↔
      (key, inner) ∈ members ∨ ∃ entry ∈ members, Within key inner entry.2 := by
  constructor
  · rintro (member | _ | ⟨member, within⟩)
    · exact .inl member
    · exact .inr ⟨_, member, within⟩
  · rintro (member | ⟨entry, member, within⟩)
    · exact .here member
    · exact .member member within

theorem has_array {wanted : Json} {items : List Json} :
    Has name wanted (.array items) ↔ ∃ item ∈ items, Has name wanted item := by
  simp only [Has, within_array]
  constructor
  · rintro ⟨key, ⟨item, member, within⟩, ends⟩
    exact ⟨item, member, key, within, ends⟩
  · rintro ⟨item, member, key, within, ends⟩
    exact ⟨key, ⟨item, member, within⟩, ends⟩

theorem has_object {wanted : Json} {members : List (Text × Json)} :
    Has name wanted (.object members) ↔
      ∃ entry ∈ members, EndsIn name entry.1 ∧ entry.2 = wanted ∨ Has name wanted entry.2 := by
  simp only [Has, within_object]
  constructor
  · rintro ⟨key, member | ⟨entry, member, within⟩, ends⟩
    · exact ⟨_, member, .inl ⟨ends, rfl⟩⟩
    · exact ⟨entry, member, .inr ⟨key, within, ends⟩⟩
  · rintro ⟨⟨key, inner⟩, member, ⟨ends, rfl⟩ | ⟨other, within, ends⟩⟩
    · exact ⟨key, .inl member, ends⟩
    · exact ⟨other, .inr ⟨_, member, within⟩, ends⟩

theorem not_has_scalar {wanted document : Json} (items : ∀ items, document ≠ .array items)
    (members : ∀ members, document ≠ .object members) : ¬ Has name wanted document := by
  rintro ⟨key, within, -⟩
  cases within with
  | here _ => exact members _ rfl
  | item _ _ => exact items _ rfl
  | member _ _ => exact members _ rfl

theorem quote_not_mem_number (literal : NumberLiteral) : '"' ∉ literal.text := by
  intro member
  rcases literal.numeric _ member with digit | sign
  · cases digit
  · simp at sign

end Search

section Members

variable {c : Char} {name value : Text} {wanted : Json}

/-- After the name of a member come a colon, a blank and its value. -/
theorem infix_member_iff (letter : c.isAlpha = true) (plain : Plain (c :: name)) (recognised : Recognises value wanted)
    {depth : Nat} {inner : Json} {rest : Text} (boundary : Boundary rest) (key : Text) :
    memberText (c :: name) value <:+: '"' :: closed key (':' :: ' ' :: layout depth inner) ++ rest ↔
      EndsIn (c :: name) key ∧ inner = wanted ∨ memberText (c :: name) value <:+: layout depth inner ++ rest := by
  have colon : c ≠ ':' := by
    rintro rfl
    cases letter
  have apart : ¬ (c :: name) ++ '"' :: ':' :: ' ' :: value <+: ':' :: ' ' :: (layout depth inner ++ rest) := by
    simp [List.cons_prefix_cons, colon]
  have text : '"' :: closed key (':' :: ' ' :: layout depth inner) ++ rest =
      '"' :: closed key (':' :: ' ' :: (layout depth inner ++ rest)) := by
    simp [closed]
  rw [text, infix_string_iff plain apart, skip (by decide), skip (by decide)]
  simp only [List.cons_prefix_cons, true_and, recognised depth inner rest boundary]

mutual

theorem infix_layout_iff (letter : c.isAlpha = true) (plain : Plain (c :: name)) (recognised : Recognises value wanted)
    (depth : Nat) (rest : Text) (boundary : Boundary rest) : ∀ document : Json,
      memberText (c :: name) value <:+: layout depth document ++ rest ↔
        Has (c :: name) wanted document ∨ memberText (c :: name) value <:+: rest
  | .null => by
      have none : ¬ Has (c :: name) wanted .null := not_has_scalar nofun nofun
      rw [layout, skip_all (by decide)]
      simp only [none, false_or]
  | .bool true => by
      have none : ¬ Has (c :: name) wanted (.bool true) := not_has_scalar nofun nofun
      rw [layout, skip_all (by decide)]
      simp only [none, false_or]
  | .bool false => by
      have none : ¬ Has (c :: name) wanted (.bool false) := not_has_scalar nofun nofun
      rw [layout, skip_all (by decide)]
      simp only [none, false_or]
  | .number literal => by
      have none : ¬ Has (c :: name) wanted (.number literal) := not_has_scalar nofun nofun
      simp only [none, false_or]
      exact skip_all (quote_not_mem_number literal) rest
  | .string text => by
      have none : ¬ Has (c :: name) wanted (.string text) := not_has_scalar nofun nofun
      have apart : ¬ (c :: name) ++ '"' :: ':' :: ' ' :: value <+: rest := by
        apply not_prefix_of_boundary boundary
        · rintro rfl
          cases letter
        · rintro rfl
          cases letter
      have follows : ¬ ':' :: ' ' :: value <+: rest := not_prefix_of_boundary boundary (by decide) (by decide)
      have laid : layout depth (.string text) ++ rest = '"' :: closed text rest := by simp [layout, closed]
      rw [laid, infix_string_iff plain apart]
      simp only [none, follows, and_false]
  | .array [] => by
      rw [layout, skip_all (by decide), has_array]
      simp only [List.not_mem_nil, false_and, exists_false, false_or]
  | .array (item :: items) => by
      have first := infix_layout_iff letter plain recognised (depth + 1) (layoutItems depth items ++ rest)
        (boundary_items depth items rest) item
      have others := infix_items_iff letter plain recognised depth rest boundary items
      rw [layout, List.append_assoc, List.append_assoc, List.cons_append, skip (by decide), skip_newline, first, others,
        has_array]
      simp only [List.mem_cons, exists_eq_or_imp, or_assoc]
  | .object [] => by
      rw [layout, skip_all (by decide), has_object]
      simp only [List.not_mem_nil, false_and, exists_false, false_or]
  | .object ((key, inner) :: members) => by
      have bound := boundary_members depth members rest
      have first := infix_layout_iff letter plain recognised (depth + 1) (layoutMembers depth members ++ rest) bound inner
      have others := infix_members_iff letter plain recognised depth rest boundary members
      rw [layout, List.append_assoc, List.append_assoc, List.cons_append, skip (by decide), skip_newline,
        infix_member_iff letter plain recognised bound, first, others, has_object]
      simp only [List.mem_cons, exists_eq_or_imp, or_assoc]

theorem infix_items_iff (letter : c.isAlpha = true) (plain : Plain (c :: name)) (recognised : Recognises value wanted)
    (depth : Nat) (rest : Text) (boundary : Boundary rest) : ∀ items : List Json,
      memberText (c :: name) value <:+: layoutItems depth items ++ rest ↔
        (∃ item ∈ items, Has (c :: name) wanted item) ∨ memberText (c :: name) value <:+: rest
  | [] => by
      rw [layoutItems, List.append_assoc, skip_newline]
      simp only [List.not_mem_nil, false_and, exists_false, false_or]
      exact skip (by decide) rest
  | item :: items => by
      have first := infix_layout_iff letter plain recognised (depth + 1) (layoutItems depth items ++ rest)
        (boundary_items depth items rest) item
      have others := infix_items_iff letter plain recognised depth rest boundary items
      rw [layoutItems, List.append_assoc, List.append_assoc, List.cons_append, skip (by decide), skip_newline, first, others]
      simp only [List.mem_cons, exists_eq_or_imp, or_assoc]

theorem infix_members_iff (letter : c.isAlpha = true) (plain : Plain (c :: name)) (recognised : Recognises value wanted)
    (depth : Nat) (rest : Text) (boundary : Boundary rest) : ∀ members : List (Text × Json),
      memberText (c :: name) value <:+: layoutMembers depth members ++ rest ↔
        (∃ entry ∈ members, EndsIn (c :: name) entry.1 ∧ entry.2 = wanted ∨ Has (c :: name) wanted entry.2) ∨
          memberText (c :: name) value <:+: rest
  | [] => by
      rw [layoutMembers, List.append_assoc, skip_newline]
      simp only [List.not_mem_nil, false_and, exists_false, false_or]
      exact skip (by decide) rest
  | (key, inner) :: members => by
      have bound := boundary_members depth members rest
      have first := infix_layout_iff letter plain recognised (depth + 1) (layoutMembers depth members ++ rest) bound inner
      have others := infix_members_iff letter plain recognised depth rest boundary members
      rw [layoutMembers, List.append_assoc, List.append_assoc, List.cons_append, skip (by decide), skip_newline,
        infix_member_iff letter plain recognised bound, first, others]
      simp only [List.mem_cons, exists_eq_or_imp, or_assoc]

end

end Members

/-! ### Values that a text search recognises -/

theorem recognises_true : Recognises ['t', 'r', 'u', 'e'] (.bool true) := by
  intro depth document rest boundary
  cases document with
  | null => simp [layout, List.cons_prefix_cons]
  | bool value => cases value <;> simp [layout, List.cons_prefix_cons]
  | number literal =>
      simp only [layout, reduceCtorEq, iff_false]
      obtain ⟨first, others, split⟩ := List.exists_cons_of_ne_nil literal.nonempty
      have numeric := literal.numeric first (by simp [split])
      rw [split, List.cons_append, List.cons_prefix_cons]
      rintro ⟨rfl, -⟩
      rcases numeric with digit | sign
      · cases digit
      · simp at sign
  | string text => simp [layout, List.cons_prefix_cons]
  | array items => cases items <;> simp [layout, List.cons_prefix_cons]
  | object members => rcases members with _ | ⟨⟨key, inner⟩, members⟩ <;> simp [layout, List.cons_prefix_cons]

theorem recognises_string {text : Text} (plain : Plain text) : Recognises ('"' :: text ++ ['"']) (.string text) := by
  intro depth document rest boundary
  cases document with
  | null => simp [layout, List.cons_prefix_cons]
  | bool value => cases value <;> simp [layout, List.cons_prefix_cons]
  | number literal =>
      simp only [layout, reduceCtorEq, iff_false]
      obtain ⟨first, others, split⟩ := List.exists_cons_of_ne_nil literal.nonempty
      have unquoted := quote_not_mem_number literal
      rw [split] at unquoted ⊢
      rw [List.cons_append, List.cons_append, List.cons_prefix_cons]
      rintro ⟨rfl, -⟩
      exact unquoted List.mem_cons_self
  | string other =>
      have laid : layout depth (.string other) ++ rest = '"' :: closed other rest := by simp [layout, closed]
      rw [laid, List.cons_append, List.cons_prefix_cons, prefix_closed_iff plain]
      simp
  | array items => cases items <;> simp [layout, List.cons_prefix_cons]
  | object members => rcases members with _ | ⟨⟨key, inner⟩, members⟩ <;> simp [layout, List.cons_prefix_cons]

end Json

end DeepOrc.Lib

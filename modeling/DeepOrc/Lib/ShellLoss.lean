import DeepOrc.Lib.Heredoc
import Mathlib.Algebra.Ring.Nat

/-!
# What a shell takes away

Every character with a meaning of its own is lost where it has that meaning. Counting these characters tells when a
value comes through unchanged: where none was lost.
-/

namespace DeepOrc.Lib.Shell

/-- Characters that can mean more than themselves. -/
def isMark (c : Char) : Bool := c ∈ special || c == '$' || c == '~' || c == '\x00'

def mark (c : Char) : Nat := if isMark c then 1 else 0

def marks (text : Text) : Nat := (text.map mark).sum

/-- Nothing that is expanded brings in new marks, and every login name is known. -/
structure Ordinary (shell : Context) : Prop where
  dollar : ∀ text expansion, shell.dollar text = some expansion → marks expansion.value = 0
  backquote : ∀ text expansion, shell.backquote text = some expansion → marks expansion.value = 0
  home : ∀ name, ∃ directory, shell.home name = some directory ∧ marks directory = 0

@[simp] theorem marks_nil : marks [] = 0 := rfl

@[simp] theorem marks_cons (c : Char) (text : Text) : marks (c :: text) = mark c + marks text := List.sum_cons

@[simp] theorem marks_append (front back : Text) : marks (front ++ back) = marks front + marks back := by
  rw [marks, List.map_append, List.sum_append]
  rfl

@[simp] theorem mark_newline : mark '\n' = 1 := by decide

@[simp] theorem mark_backslash : mark '\\' = 1 := by decide

/-- A text without marks has nothing to lose. -/
theorem harmless_of_unmarked {value : Text} (unmarked : ∀ c ∈ value, isMark c = false) : Harmless value where
  literal := by
    induction value with
    | nil => trivial
    | cons c value ih =>
        obtain ⟨here, later⟩ := List.forall_mem_cons.mp unmarked
        simp only [isMark, Bool.or_eq_false_iff, decide_eq_false_iff_not, beq_eq_false_iff_ne] at here
        exact ⟨by simp [literal, here], ih later⟩
  tilde := by
    have free (start : Bool) : tildeFree start value = true := by
      induction value generalizing start with
      | nil => rfl
      | cons c value ih =>
          obtain ⟨here, later⟩ := List.forall_mem_cons.mp unmarked
          simp only [isMark, Bool.or_eq_false_iff, decide_eq_false_iff_not, beq_eq_false_iff_ne] at here
          simp [tildeFree, here, ih later]
    exact free true
  nul := by
    intro member
    exact absurd (unmarked _ member) (by decide)

/-! ### Null characters and here-documents -/

theorem marks_dropNul_le (text : Text) : marks (dropNul text) ≤ marks text := by
  induction text with
  | nil => exact Nat.le_refl 0
  | cons c text ih =>
      rw [dropNul, List.filter_cons]
      split
      · rw [marks_cons, marks_cons]
        exact Nat.add_le_add_left ih (mark c)
      · exact Nat.le_trans ih (by rw [marks_cons]; omega)

/-- Without a loss there is no null character. -/
theorem notMem_nul {text : Text} (kept : marks text ≤ marks (dropNul text)) : '\x00' ∉ text := by
  induction text with
  | nil => exact List.not_mem_nil
  | cons c text ih =>
      have less := marks_dropNul_le text
      by_cases nul : c = '\x00'
      · subst nul
        have dropped : dropNul ('\x00' :: text) = dropNul text := rfl
        have counts : mark '\x00' = 1 := by decide
        rw [dropped, marks_cons, counts] at kept
        omega
      · have remains : dropNul (c :: text) = c :: dropNul text := by simp [dropNul, nul]
        rw [remains, marks_cons, marks_cons] at kept
        intro member
        rcases List.mem_cons.mp member with same | inside
        · exact nul same.symm
        · exact ih (by omega) inside

variable {shell : Context}

/-- What one character of a here-document becomes. -/
inductive Expands (shell : Context) (c : Char) (rest : Text) : Nat → Bool → List Text × Text → Prop where
  | skipped (skip : Nat) (escaped : Bool) {found : List Text × Text}
      (later : expandText shell skip false rest = some found) : Expands shell c rest (skip + 1) escaped found
  | joined {found : List Text × Text} (newline : c = '\n') (later : expandText shell 0 false rest = some found) :
      Expands shell c rest 0 true found
  | escaped {found : List Text × Text} (newline : c ≠ '\n') (front : Text) (kept : marks front ≤ mark c + 1)
      (later : expandText shell 0 false rest = some found) : Expands shell c rest 0 true (found.1, front ++ found.2)
  | escape {found : List Text × Text} (backslash : c = '\\') (later : expandText shell 0 true rest = some found) :
      Expands shell c rest 0 false found
  | replaced {found : List Text × Text} (newline : c ≠ '\n') (counts : mark c = 1) (expansion : Expansion)
      (plain : marks expansion.value = 0) (later : expandText shell expansion.length false rest = some found) :
      Expands shell c rest 0 false (expansion.commands ++ found.1, expansion.value ++ found.2)
  | kept {found : List Text × Text} (later : expandText shell 0 false rest = some found) :
      Expands shell c rest 0 false (found.1, c :: found.2)

theorem expandText_cases (ordinary : Ordinary shell) {skip : Nat} {escaped : Bool} {c : Char} {rest : Text}
    {result : List Text × Text} (expanded : expandText shell skip escaped (c :: rest) = some result) :
    Expands shell c rest skip escaped result := by
  cases skip with
  | succ skip => exact .skipped skip escaped expanded
  | zero =>
      rw [expandText] at expanded
      simp only [ne_eq, not_true_eq_false, if_false] at expanded
      cases escaped with
      | true =>
          rw [if_pos rfl] at expanded
          split at expanded
          · exact .joined ‹_› expanded
          · split at expanded
            · obtain ⟨found, later, rfl⟩ := Option.map_eq_some_iff.mp expanded
              exact .escaped ‹_› [c] (by simp) later
            · obtain ⟨found, later, rfl⟩ := Option.map_eq_some_iff.mp expanded
              exact .escaped ‹_› ['\\', c] (by simp; omega) later
      | false =>
          rw [if_neg Bool.false_ne_true] at expanded
          split at expanded
          · exact .escape ‹_› expanded
          · split at expanded
            · rename_i dollar
              rw [Bool.and_eq_true, decide_eq_true_eq] at dollar
              obtain ⟨expansion, read, inside⟩ := Option.bind_eq_some_iff.mp expanded
              obtain ⟨found, later, rfl⟩ := Option.map_eq_some_iff.mp inside
              exact .replaced (by rw [dollar.1]; decide) (by rw [dollar.1]; decide) expansion (ordinary.dollar _ _ read) later
            · split at expanded
              · rename_i backquote
                obtain ⟨expansion, read, inside⟩ := Option.bind_eq_some_iff.mp expanded
                obtain ⟨found, later, rfl⟩ := Option.map_eq_some_iff.mp inside
                exact .replaced (by rw [backquote]; decide) (by rw [backquote]; decide) expansion (ordinary.backquote _ _ read) later
              · obtain ⟨found, later, rfl⟩ := Option.map_eq_some_iff.mp expanded
                exact .kept later

theorem expandText_le (ordinary : Ordinary shell) {skip : Nat} {escaped : Bool} {text : Text}
    {result : List Text × Text} (expanded : expandText shell skip escaped text = some result) :
    marks result.2 ≤ marks text + (if escaped then 1 else 0) := by
  induction text generalizing skip escaped result with
  | nil =>
      obtain rfl := Option.some.inj expanded
      cases escaped <;> simp
  | cons c rest ih =>
      rw [marks_cons]
      cases expandText_cases ordinary expanded with
      | skipped skip escaped later =>
          have less := ih later
          simp only [Bool.false_eq_true, if_false] at less
          omega
      | joined newline later =>
          have less := ih later
          simp only [Bool.false_eq_true, if_false] at less
          omega
      | escaped newline front kept later =>
          have less := ih later
          simp only [Bool.false_eq_true, if_false] at less
          simp only [marks_append, if_true]
          omega
      | escape backslash later =>
          have less := ih later
          rw [if_pos rfl] at less
          rw [backslash, mark_backslash]
          omega
      | replaced newline counts expansion plain later =>
          have less := ih later
          simp only [Bool.false_eq_true, if_false] at less
          simp only [marks_append, plain]
          omega
      | kept later =>
          have less := ih later
          simp only [Bool.false_eq_true, if_false] at less
          simp only [marks_cons]
          omega

/-- The newline at the end is kept, or it is lost together with what took it away. -/
theorem expandText_newline_or (ordinary : Ordinary shell) {skip : Nat} {escaped : Bool} {text : Text}
    {result : List Text × Text} (expanded : expandText shell skip escaped (text ++ ['\n']) = some result) :
    (∃ front, result.2 = front ++ ['\n']) ∨
      marks result.2 + (if skip = 0 ∧ escaped = false then 2 else 1) ≤ marks text + 1 := by
  induction text generalizing skip escaped result with
  | nil =>
      rw [List.nil_append] at expanded
      cases expandText_cases ordinary expanded with
      | skipped skip escaped later =>
          obtain rfl := Option.some.inj later
          exact .inr (by simp)
      | joined newline later =>
          obtain rfl := Option.some.inj later
          exact .inr (by simp)
      | escaped newline front kept later => exact absurd rfl newline
      | escape backslash later => exact absurd backslash (by decide)
      | replaced newline counts expansion plain later => exact absurd rfl newline
      | kept later =>
          obtain rfl := Option.some.inj later
          exact .inl ⟨[], rfl⟩
  | cons c rest ih =>
      rw [List.cons_append] at expanded
      rw [marks_cons]
      cases expandText_cases ordinary expanded with
      | skipped skip escaped later =>
          rcases ih later with ends | less
          · exact .inl ends
          · right
            split at less <;> simp <;> omega
      | joined newline later =>
          rcases ih later with ends | less
          · exact .inl ends
          · right
            simp at less ⊢
            omega
      | escaped newline front kept later =>
          rcases ih later with ⟨before, ends⟩ | less
          · exact .inl ⟨front ++ before, by rw [ends, List.append_assoc]⟩
          · right
            simp at less ⊢
            omega
      | escape backslash later =>
          rcases ih later with ends | less
          · exact .inl ends
          · right
            rw [backslash]
            simp at less ⊢
            omega
      | replaced newline counts expansion plain later =>
          rcases ih later with ⟨before, ends⟩ | less
          · exact .inl ⟨expansion.value ++ before, by rw [ends, List.append_assoc]⟩
          · right
            simp only [marks_append, plain, and_self, if_true]
            split at less <;> omega
      | kept later =>
          rcases ih later with ⟨before, ends⟩ | less
          · exact .inl ⟨c :: before, by rw [ends]; rfl⟩
          · right
            simp at less ⊢
            omega

/-! ### Scanning -/

def Piece.raw : Piece → Text
  | .quote => []
  | .char _ c => [c]
  | .value expansion => expansion.value

def raw (word : Word) : Text := word.flatMap Piece.raw

def Token.weight : Token → Nat
  | .word pieces => marks (raw pieces)
  | _ => 0

def tokenMarks (tokens : List Token) : Nat := (tokens.map Token.weight).sum

/-- A backslash that may still turn out to stand for itself. -/
def Mode.pending : Mode → Nat
  | .escape | .escapeDouble => 1
  | _ => 0

/-- What is lost at least where the text goes on and ends with a newline. -/
def Mode.owed : Mode → Nat
  | .single | .double => 2
  | _ => 1

@[simp] theorem raw_append (front back : Word) : raw (front ++ back) = raw front ++ raw back := List.flatMap_append

@[simp] theorem tokenMarks_append (front back : List Token) :
    tokenMarks (front ++ back) = tokenMarks front + tokenMarks back := by
  rw [tokenMarks, List.map_append, List.sum_append]
  rfl

theorem tokenMarks_close (s : State) (redirects : Bool) : tokenMarks (s.close redirects) ≤ marks (raw s.read) := by
  unfold State.close State.read
  cases s.word with
  | none => exact Nat.zero_le _
  | some word =>
      show tokenMarks (if redirects && isNumber word then _ else _) ≤ marks (raw word)
      split
      · exact Nat.zero_le _
      · exact Nat.le_refl _

/-- An expansion or operator is skipped only where one can be. -/
def State.Valid (s : State) : Prop := s.skip ≠ 0 → s.mode = .plain ∨ s.mode = .double

/-- What a step gives out and keeps is no more than what it had and read. -/
structure Loses (s : State) (c : Char) (t : State) (out : List Token) : Prop where
  pending : tokenMarks out + marks (raw t.read) + t.mode.pending ≤ marks (raw s.read) + s.mode.pending + mark c
  owed : tokenMarks out + marks (raw t.read) + s.mode.owed ≤ marks (raw s.read) + mark c + t.mode.owed
  valid : t.Valid

theorem mark_special : ∀ c ∈ special, mark c = 1 := List.all_iff_forall_prop.mp (by decide)

/-- More is lost than a plain text has to lose. -/
def State.LosesMore (s : State) (c : Char) (t : State) (out : List Token) : Prop :=
  tokenMarks out + marks (raw t.read) + 2 ≤ marks (raw s.read) + mark c + t.mode.owed

theorem loses_expand {s : State} {c : Char} {mode : Mode} (counts : mark c = 1) (same : s.mode = mode)
    (steady : mode = .plain ∨ mode = .double) {found : Option Expansion}
    (plain : ∀ expansion, found = some expansion → marks expansion.value = 0) {t : State} {out : List Token}
    (stepped : s.expand mode found = some (t, out)) : Loses s c t out ∧ s.LosesMore c t out := by
  obtain ⟨expansion, read, given⟩ := Option.map_eq_some_iff.mp stepped
  obtain ⟨rfl, rfl⟩ := Prod.mk.inj given
  let after : State := { s.add mode [.value expansion] with skip := expansion.length }
  have kept : marks (raw after.read) = marks (raw s.read) := by
    have added : after.read = s.read ++ [.value expansion] := rfl
    simp [added, raw, Piece.raw, plain expansion read]
  have moded : after.mode = mode := rfl
  have nothing : tokenMarks [] = 0 := rfl
  have least : 1 ≤ mode.owed := by cases mode <;> decide
  refine ⟨⟨?_, ?_, fun _ => steady⟩, ?_⟩
  · rw [kept, moded, nothing, same]
    omega
  · rw [kept, moded, nothing, same]
    omega
  · rw [State.LosesMore, kept, moded, nothing]
    omega

/-- What ends a word gives the word out. -/
theorem loses_close {s : State} {c : Char} (counts : mark c = 1) (mode : s.mode = .plain) (redirects : Bool)
    {more : List Token} (none : tokenMarks more = 0) (skip : Nat) :
    Loses s c ⟨skip, .plain, Option.none⟩ (s.close redirects ++ more) ∧
      s.LosesMore c ⟨skip, .plain, Option.none⟩ (s.close redirects ++ more) := by
  have less := tokenMarks_close s redirects
  have empty : marks (raw (State.read ⟨skip, .plain, Option.none⟩)) = 0 := rfl
  have nothing : Mode.plain.pending = 0 := rfl
  have one : Mode.plain.owed = 1 := rfl
  refine ⟨⟨?_, ?_, fun _ => .inl rfl⟩, ?_⟩
  · rw [tokenMarks_append, none, empty, mode, counts, nothing]
    omega
  · rw [tokenMarks_append, none, empty, mode, counts, one]
    omega
  · rw [State.LosesMore, tokenMarks_append, none, empty, counts, one]
    omega

/-- Opening a quotation loses the quote. -/
theorem loses_open {s : State} {c : Char} (counts : mark c = 1) (same : s.mode = .plain) {mode : Mode}
    (opened : mode = .single ∨ mode = .double) :
    Loses s c (s.add mode [.quote]) [] ∧ s.LosesMore c (s.add mode [.quote]) [] := by
  have kept : marks (raw (State.read (s.add mode [.quote]))) = marks (raw s.read) := by
    show marks (raw (s.read ++ [.quote])) = _
    simp [raw, Piece.raw]
  have moded : (s.add mode [.quote]).mode = mode := rfl
  have owed : mode.owed = 2 ∧ mode.pending = 0 := by rcases opened with rfl | rfl <;> decide
  have nothing : tokenMarks [] = 0 := rfl
  refine ⟨⟨?_, ?_, fun skipping => absurd rfl skipping⟩, ?_⟩
  · rw [kept, moded, owed.2, nothing]
    omega
  · have one : Mode.plain.owed = 1 := rfl
    rw [kept, moded, owed.1, same, nothing, one]
    omega
  · rw [State.LosesMore, kept, moded, owed.1, nothing]
    omega

/-- A character that is kept. -/
theorem loses_keep {s : State} {c : Char} {mode : Mode} {pieces : Word}
    (within : marks (raw pieces) + mode.pending ≤ s.mode.pending + mark c)
    (owed : marks (raw pieces) + s.mode.owed ≤ mark c + mode.owed) :
    Loses s c (s.add mode pieces) [] := by
  have kept : marks (raw (State.read (s.add mode pieces))) = marks (raw s.read) + marks (raw pieces) := by
    show marks (raw (s.read ++ pieces)) = _
    simp
  have moded : (s.add mode pieces).mode = mode := rfl
  have nothing : tokenMarks [] = 0 := rfl
  refine ⟨?_, ?_, fun skipping => absurd rfl skipping⟩
  · rw [kept, moded, nothing]
    omega
  · rw [kept, moded, nothing]
    omega

/-- A change of the mode alone. -/
theorem loses_turn {s : State} {c : Char} {mode : Mode} (skip : s.skip = 0)
    (within : mode.pending ≤ s.mode.pending + mark c) (owed : s.mode.owed ≤ mark c + mode.owed) :
    Loses s c { s with mode } [] := by
  have kept : State.read { s with mode } = s.read := rfl
  have moded : ({ s with mode } : State).mode = mode := rfl
  have nothing : tokenMarks [] = 0 := rfl
  refine ⟨?_, ?_, fun skipping => absurd skip skipping⟩
  · rw [kept, moded, nothing]
    omega
  · rw [kept, moded, nothing]
    omega

/-- What a step outside quotes can be. -/
inductive PlainStep (shell : Context) (s : State) (c : Char) (rest : Text) : State → List Token → Prop
  | newline (is : c = '\n') : PlainStep shell s c rest .start (s.close false ++ [.newline])
  | blank (is : isBlank c = true) : PlainStep shell s c rest .start (s.close false)
  | single (is : c = '\'') : PlainStep shell s c rest (s.add .single [.quote]) []
  | double (is : c = '"') : PlainStep shell s c rest (s.add .double [.quote]) []
  | escape (is : c = '\\') : PlainStep shell s c rest { s with mode := .escape } []
  | dollar (is : c = '$') {t : State} {out : List Token} (expanded : s.expand .plain (shell.dollar rest) = some (t, out)) :
      PlainStep shell s c rest t out
  | backquote (is : c = '`') {t : State} {out : List Token}
      (expanded : s.expand .plain (shell.backquote rest) = some (t, out)) : PlainStep shell s c rest t out
  | operator (is : c ∈ operatorChars) (text : Text) :
      PlainStep shell s c rest { State.start with skip := text.length - 1 }
        (s.close (c == '<' || c == '>') ++ [.operator text])
  | comment (outside : s.word = none) : PlainStep shell s c rest { s with mode := .comment } []
  | kept (stands : literal c rest = true) : PlainStep shell s c rest (s.add .plain [.char false c]) []

theorem stepPlain_cases {s t : State} {c : Char} {rest : Text} {out : List Token}
    (stepped : stepPlain shell s c rest = some (t, out)) : PlainStep shell s c rest t out := by
  have ended {u : State} {more : List Token} (same : some (u, more) = some (t, out))
      (found : PlainStep shell s c rest u more) : PlainStep shell s c rest t out := by
    obtain ⟨rfl, rfl⟩ := Prod.mk.inj (Option.some.inj same)
    exact found
  unfold stepPlain at stepped
  by_cases newline : c = '\n'
  · rw [if_pos newline] at stepped
    exact ended stepped (.newline newline)
  rw [if_neg newline] at stepped
  by_cases blank : isBlank c = true
  · rw [if_pos blank] at stepped
    exact ended stepped (.blank blank)
  rw [if_neg blank] at stepped
  by_cases single : c = '\''
  · rw [if_pos single] at stepped
    exact ended stepped (.single single)
  rw [if_neg single] at stepped
  by_cases double : c = '"'
  · rw [if_pos double] at stepped
    exact ended stepped (.double double)
  rw [if_neg double] at stepped
  by_cases escape : c = '\\'
  · rw [if_pos escape] at stepped
    exact ended stepped (.escape escape)
  rw [if_neg escape] at stepped
  by_cases dollar : (c = '$' && opens true rest) = true
  · rw [if_pos dollar] at stepped
    rw [Bool.and_eq_true, decide_eq_true_eq] at dollar
    exact .dollar dollar.1 stepped
  rw [if_neg dollar] at stepped
  by_cases backquote : c = '`'
  · rw [if_pos backquote] at stepped
    exact .backquote backquote stepped
  rw [if_neg backquote] at stepped
  by_cases operator : c ∈ operatorChars
  · rw [if_pos operator] at stepped
    obtain ⟨text, -, given⟩ := Option.map_eq_some_iff.mp stepped
    exact ended (congrArg some given) (.operator operator text)
  rw [if_neg operator] at stepped
  by_cases comment : (c = '#' && s.word.isNone) = true
  · rw [if_pos comment] at stepped
    rw [Bool.and_eq_true, Option.isNone_iff_eq_none] at comment
    exact ended stepped (.comment comment.2)
  rw [if_neg comment] at stepped
  exact ended stepped (.kept (literal_iff.mpr
    ⟨newline, by simpa using blank, single, double, escape, by simpa using dollar, backquote, operator⟩))

theorem stepPlain_loses (ordinary : Ordinary shell) {s t : State} {c : Char} {rest : Text} {out : List Token}
    (mode : s.mode = .plain) (skip : s.skip = 0) (stepped : stepPlain shell s c rest = some (t, out)) :
    Loses s c t out ∧ (s.word.isSome = true → literal c rest = false → s.LosesMore c t out) := by
  have pending : s.mode.pending = 0 := by rw [mode]; rfl
  have owed : s.mode.owed = 1 := by rw [mode]; rfl
  cases stepPlain_cases stepped with
  | newline is =>
      obtain ⟨loses, more⟩ := loses_close (by rw [is]; rfl : mark c = 1) mode false
        (rfl : tokenMarks [.newline] = 0) 0
      exact ⟨loses, fun _ _ => more⟩
  | blank is =>
      have counts : mark c = 1 := by
        simp only [isBlank, Bool.or_eq_true, beq_iff_eq] at is
        rcases is with rfl | rfl <;> rfl
      obtain ⟨loses, more⟩ := loses_close counts mode false (rfl : tokenMarks [] = 0) 0
      rw [List.append_nil] at loses more
      exact ⟨loses, fun _ _ => more⟩
  | single is =>
      obtain ⟨loses, more⟩ := loses_open (by rw [is]; rfl : mark c = 1) mode (.inl rfl)
      exact ⟨loses, fun _ _ => more⟩
  | double is =>
      obtain ⟨loses, more⟩ := loses_open (by rw [is]; rfl : mark c = 1) mode (.inr rfl)
      exact ⟨loses, fun _ _ => more⟩
  | escape is =>
      have counts : mark c = 1 := by rw [is]; rfl
      have one : Mode.escape.owed = 1 ∧ Mode.escape.pending = 1 := by decide
      refine ⟨loses_turn skip (by omega) (by omega), fun _ _ => ?_⟩
      show 0 + marks (raw s.read) + 2 ≤ marks (raw s.read) + mark c + 1
      omega
  | dollar is expanded =>
      have counts : mark c = 1 := by rw [is]; rfl
      obtain ⟨loses, more⟩ := loses_expand counts mode (.inl rfl) (ordinary.dollar rest) expanded
      exact ⟨loses, fun _ _ => more⟩
  | backquote is expanded =>
      have counts : mark c = 1 := by rw [is]; rfl
      obtain ⟨loses, more⟩ := loses_expand counts mode (.inl rfl) (ordinary.backquote rest) expanded
      exact ⟨loses, fun _ _ => more⟩
  | operator is text =>
      have counts := mark_special c (List.mem_append_right _ is)
      obtain ⟨loses, more⟩ := loses_close counts mode (c == '<' || c == '>')
        (rfl : tokenMarks [.operator text] = 0) (text.length - 1)
      exact ⟨loses, fun _ _ => more⟩
  | comment outside =>
      have one : Mode.comment.owed = 1 ∧ Mode.comment.pending = 0 := by decide
      refine ⟨loses_turn skip (by omega) (by omega), fun begun => ?_⟩
      rw [outside] at begun
      cases begun
  | kept stands =>
      have one : Mode.plain.owed = 1 ∧ Mode.plain.pending = 0 := by decide
      have same : marks (raw [.char false c]) = mark c := by simp [raw, Piece.raw]
      refine ⟨loses_keep (by omega) (by omega), fun _ other => ?_⟩
      rw [stands] at other
      cases other

theorem stepDouble_loses (ordinary : Ordinary shell) {s t : State} {c : Char} {rest : Text} {out : List Token}
    (mode : s.mode = .double) (skip : s.skip = 0) (stepped : stepDouble shell s c rest = some (t, out)) :
    Loses s c t out := by
  have pending : s.mode.pending = 0 := by rw [mode]; rfl
  have owed : s.mode.owed = 2 := by rw [mode]; rfl
  unfold stepDouble at stepped
  by_cases double : c = '"'
  · rw [if_pos double] at stepped
    obtain ⟨rfl, rfl⟩ := Prod.mk.inj (Option.some.inj stepped)
    have counts : mark c = 1 := by rw [double]; rfl
    have one : Mode.plain.owed = 1 ∧ Mode.plain.pending = 0 := by decide
    exact loses_turn skip (by omega) (by omega)
  rw [if_neg double] at stepped
  by_cases escape : c = '\\'
  · rw [if_pos escape] at stepped
    obtain ⟨rfl, rfl⟩ := Prod.mk.inj (Option.some.inj stepped)
    have counts : mark c = 1 := by rw [escape]; rfl
    have one : Mode.escapeDouble.owed = 1 ∧ Mode.escapeDouble.pending = 1 := by decide
    exact loses_turn skip (by omega) (by omega)
  rw [if_neg escape] at stepped
  by_cases dollar : (c = '$' && opens false rest) = true
  · rw [if_pos dollar] at stepped
    rw [Bool.and_eq_true, decide_eq_true_eq] at dollar
    have counts : mark c = 1 := by rw [dollar.1]; rfl
    exact (loses_expand counts mode (.inr rfl) (ordinary.dollar rest) stepped).1
  rw [if_neg dollar] at stepped
  by_cases backquote : c = '`'
  · rw [if_pos backquote] at stepped
    have counts : mark c = 1 := by rw [backquote]; rfl
    exact (loses_expand counts mode (.inr rfl) (ordinary.backquote rest) stepped).1
  · rw [if_neg backquote] at stepped
    obtain ⟨rfl, rfl⟩ := Prod.mk.inj (Option.some.inj stepped)
    have one : Mode.double.owed = 2 ∧ Mode.double.pending = 0 := by decide
    have same : marks (raw [.char true c]) = mark c := by simp [raw, Piece.raw]
    exact loses_keep (by omega) (by omega)

theorem step_loses (ordinary : Ordinary shell) {s t : State} {c : Char} {rest : Text} {out : List Token}
    (valid : s.Valid) (stepped : step shell s c rest = some (t, out)) : Loses s c t out := by
  have same : marks (raw [.char true c]) = mark c := by simp [raw, Piece.raw]
  unfold step at stepped
  split at stepped
  · obtain ⟨rfl, rfl⟩ := Prod.mk.inj (Option.some.inj stepped)
    have nothing : tokenMarks [] = 0 := rfl
    have kept : State.read { s with skip := s.skip - 1 } = s.read := rfl
    have moded : ({ s with skip := s.skip - 1 } : State).mode = s.mode := rfl
    refine ⟨?_, ?_, fun _ => valid ‹_›⟩
    · rw [kept, moded, nothing]
      omega
    · rw [kept, moded, nothing]
      omega
  · have skip : s.skip = 0 := by simpa using ‹¬s.skip ≠ 0›
    have weights : Mode.plain.owed = 1 ∧ Mode.escape.owed = 1 ∧ Mode.single.owed = 2 ∧ Mode.double.owed = 2 ∧
        Mode.escapeDouble.owed = 1 ∧ Mode.comment.owed = 1 := by decide
    have waits : Mode.plain.pending = 0 ∧ Mode.escape.pending = 1 ∧ Mode.single.pending = 0 ∧
        Mode.double.pending = 0 ∧ Mode.escapeDouble.pending = 1 ∧ Mode.comment.pending = 0 := by decide
    cases mode : s.mode with
    | plain =>
        rw [mode] at stepped
        exact (stepPlain_loses ordinary mode skip stepped).1
    | double =>
        rw [mode] at stepped
        exact stepDouble_loses ordinary mode skip stepped
    | escape =>
        rw [mode] at stepped
        simp only at stepped
        split at stepped
        · obtain ⟨rfl, rfl⟩ := Prod.mk.inj (Option.some.inj stepped)
          exact loses_turn skip (by rw [mode]; omega) (by rw [mode]; omega)
        · obtain ⟨rfl, rfl⟩ := Prod.mk.inj (Option.some.inj stepped)
          exact loses_keep (by rw [mode]; omega) (by rw [mode]; omega)
    | single =>
        rw [mode] at stepped
        simp only at stepped
        split at stepped
        · obtain ⟨rfl, rfl⟩ := Prod.mk.inj (Option.some.inj stepped)
          have counts : mark c = 1 := by rw [‹c = '\''›]; rfl
          exact loses_turn skip (by rw [mode]; omega) (by rw [mode]; omega)
        · obtain ⟨rfl, rfl⟩ := Prod.mk.inj (Option.some.inj stepped)
          exact loses_keep (by rw [mode]; omega) (by rw [mode]; omega)
    | escapeDouble =>
        rw [mode] at stepped
        simp only at stepped
        split at stepped
        · obtain ⟨rfl, rfl⟩ := Prod.mk.inj (Option.some.inj stepped)
          exact loses_turn skip (by rw [mode]; omega) (by rw [mode]; omega)
        · split at stepped
          · obtain ⟨rfl, rfl⟩ := Prod.mk.inj (Option.some.inj stepped)
            exact loses_keep (by rw [mode]; omega) (by rw [mode]; omega)
          · obtain ⟨rfl, rfl⟩ := Prod.mk.inj (Option.some.inj stepped)
            have both : marks (raw [.char true '\\', .char true c]) = 1 + mark c := by simp [raw, Piece.raw]
            exact loses_keep (by rw [mode]; omega) (by rw [mode]; omega)
    | comment =>
        rw [mode] at stepped
        simp only at stepped
        split at stepped
        · obtain ⟨rfl, rfl⟩ := Prod.mk.inj (Option.some.inj stepped)
          have empty : marks (raw State.start.read) = 0 := rfl
          have moded : State.start.mode = .plain := rfl
          have nothing : tokenMarks [.newline] = 0 := rfl
          refine ⟨?_, ?_, fun skipping => absurd rfl skipping⟩
          · rw [empty, moded, nothing]
            omega
          · rw [empty, moded, nothing, mode]
            omega
        · obtain ⟨rfl, rfl⟩ := Prod.mk.inj (Option.some.inj stepped)
          have nothing : tokenMarks [] = 0 := rfl
          refine ⟨?_, ?_, valid⟩
          · rw [nothing]
            omega
          · rw [nothing]
            omega

/-! ### Whole texts -/

theorem finish_le {s : State} {tokens : List Token} (finished : finish s = some tokens) :
    tokenMarks tokens ≤ marks (raw s.read) + s.mode.pending := by
  unfold finish at finished
  cases mode : s.mode with
  | plain | comment =>
      rw [mode] at finished
      obtain rfl := Option.some.inj finished
      exact tokenMarks_close s false
  | escape =>
      rw [mode] at finished
      obtain rfl := Option.some.inj finished
      have last : marks (raw [.char true '\\']) = 1 := by decide
      have total : marks (raw (s.read ++ [.char true '\\'])) = marks (raw s.read) + 1 := by
        rw [raw_append, marks_append, last]
      exact Nat.le_of_eq total
  | single | double | escapeDouble =>
      rw [mode] at finished
      cases finished

theorem scan_cons_some {s : State} {c : Char} {rest : Text} {tokens : List Token}
    (scanned : scan shell s (c :: rest) = some tokens) : ∃ t out later, step shell s c rest = some (t, out) ∧
      scan shell t rest = some later ∧ tokens = out ++ later := by
  obtain ⟨⟨t, out⟩, stepped, given⟩ := Option.bind_eq_some_iff.mp scanned
  obtain ⟨later, scannedLater, rfl⟩ := Option.map_eq_some_iff.mp given
  exact ⟨t, out, later, stepped, scannedLater, rfl⟩

theorem scan_le (ordinary : Ordinary shell) {s : State} {text : Text} {tokens : List Token} (valid : s.Valid)
    (scanned : scan shell s text = some tokens) :
    tokenMarks tokens ≤ marks (raw s.read) + s.mode.pending + marks text := by
  induction text generalizing s tokens with
  | nil =>
      rw [marks_nil]
      exact finish_le scanned
  | cons c rest ih =>
      obtain ⟨t, out, later, stepped, scannedLater, rfl⟩ := scan_cons_some scanned
      have loses := step_loses ordinary valid stepped
      have less := ih loses.valid scannedLater
      have step := loses.pending
      rw [tokenMarks_append, marks_cons]
      omega

theorem last_newline_le {s : State} {tokens : List Token} (valid : s.Valid)
    (scanned : scan shell s ['\n'] = some tokens) : tokenMarks tokens + s.mode.owed ≤ marks (raw s.read) + 1 := by
  have closed := tokenMarks_close s false
  by_cases skip : s.skip = 0
  · obtain ⟨_, mode, word⟩ := s
    subst skip
    cases mode with
    | plain =>
        obtain rfl := Option.some.inj scanned
        rw [tokenMarks_append, tokenMarks_append]
        exact Nat.add_le_add_right closed 1
    | escape =>
        obtain rfl := Option.some.inj scanned
        exact Nat.add_le_add_right closed 1
    | comment =>
        obtain rfl := Option.some.inj scanned
        exact Nat.le_add_left 1 _
    | single | double | escapeDouble => cases scanned
  · have finished : finish { s with skip := s.skip - 1 } = some tokens := by
      rw [scan, step, if_pos skip] at scanned
      simpa [scan] using scanned
    rcases valid skip with plain | double
    · rw [finish, plain] at finished
      obtain rfl := Option.some.inj finished
      rw [plain]
      exact Nat.add_le_add_right closed 1
    · rw [finish, double] at finished
      cases finished

/-- The last character of a line is a newline, which is lost. -/
theorem scan_newline_le (ordinary : Ordinary shell) {s : State} {text : Text} {tokens : List Token} (valid : s.Valid)
    (scanned : scan shell s (text ++ ['\n']) = some tokens) :
    tokenMarks tokens + s.mode.owed ≤ marks (raw s.read) + marks text + 1 := by
  induction text generalizing s tokens with
  | nil => exact last_newline_le valid scanned
  | cons c rest ih =>
      obtain ⟨t, out, later, stepped, scannedLater, rfl⟩ := scan_cons_some scanned
      have loses := step_loses ordinary valid stepped
      have less := ih loses.valid scannedLater
      have step := loses.owed
      rw [tokenMarks_append, marks_cons]
      omega

/-- Where the newline at the end of a line is all that is lost, the line is one word whose characters stand for
themselves. -/
theorem scan_exact (ordinary : Ordinary shell) {word : Word} {text : Text} {tokens : List Token}
    (scanned : scan shell (.within .plain word) (text ++ ['\n']) = some tokens)
    (exact : marks (raw word) + marks text ≤ tokenMarks tokens) :
    Literal text ['\n'] ∧ tokens = [.word (word ++ literals text), .newline] := by
  induction text generalizing word with
  | nil =>
      obtain rfl := Option.some.inj scanned
      refine ⟨trivial, ?_⟩
      rw [literals, List.map_nil, List.append_nil]
      rfl
  | cons c rest ih =>
      by_cases stands : literal c (rest ++ ['\n']) = true
      · rw [List.cons_append, scan_literal shell stands] at scanned
        have weight : marks (raw (word ++ [.char false c])) = marks (raw word) + mark c := by
          rw [raw_append, marks_append]
          rfl
        rw [marks_cons] at exact
        obtain ⟨later, same⟩ := ih scanned (by omega)
        refine ⟨⟨stands, later⟩, ?_⟩
        rw [same, List.append_assoc]
        rfl
      · obtain ⟨t, out, later, stepped, scannedLater, rfl⟩ := scan_cons_some scanned
        obtain ⟨loses, more⟩ := stepPlain_loses (s := .within .plain word) ordinary rfl rfl stepped
        have lost := more rfl (by simpa using stands)
        have less := scan_newline_le ordinary loses.valid scannedLater
        have read : State.read (.within .plain word) = word := rfl
        rw [State.LosesMore, read] at lost
        rw [tokenMarks_append, marks_cons] at exact
        omega

/-! ### Values -/

/-- What a tilde becomes where it may stand for a directory. -/
theorem valueText_tilde (ordinary : Ordinary shell) (rest : Word) :
    valueText shell 0 true (.char false '~' :: rest) = '~' :: valueText shell 0 false rest ∨
      ∃ directory skip, marks directory = 0 ∧
        valueText shell 0 true (.char false '~' :: rest) = directory ++ valueText shell skip false rest := by
  rw [valueText]
  cases named : login rest with
  | none => exact .inl (by simp)
  | some name =>
      obtain ⟨directory, known, plain⟩ := ordinary.home name
      exact .inr ⟨directory, name.length, plain, by simp [known]⟩

theorem valueText_le (ordinary : Ordinary shell) (skip : Nat) (start : Bool) (word : Word) :
    marks (valueText shell skip start word) ≤ marks (raw word) := by
  induction word generalizing skip start with
  | nil => exact Nat.le_refl 0
  | cons piece rest ih =>
      have raw_cons : marks (raw (piece :: rest)) = marks piece.raw + marks (raw rest) := marks_append piece.raw (raw rest)
      rw [raw_cons]
      cases skip with
      | succ skip => exact Nat.le_trans (ih skip false) (Nat.le_add_left _ _)
      | zero =>
          cases piece with
          | quote => exact Nat.le_trans (ih 0 false) (Nat.le_add_left _ _)
          | value expansion =>
              show marks (expansion.value ++ valueText shell 0 false rest) ≤ marks expansion.value + _
              rw [marks_append]
              exact Nat.add_le_add_left (ih 0 false) _
          | char quoted c =>
              have single : marks (Piece.char quoted c).raw = mark c := rfl
              by_cases tilde : quoted = false ∧ c = '~' ∧ start = true
              · obtain ⟨rfl, rfl, rfl⟩ := tilde
                rcases valueText_tilde ordinary rest with same | ⟨directory, skip, plain, same⟩
                · rw [same, marks_cons, single]
                  exact Nat.add_le_add_left (ih 0 false) _
                · rw [same, marks_append, plain, Nat.zero_add]
                  exact Nat.le_trans (ih skip false) (Nat.le_add_left _ _)
              · have kept : valueText shell 0 start (.char quoted c :: rest) =
                    c :: valueText shell 0 (!quoted && decide (c = ':')) rest := by
                  rw [valueText, if_neg (by simp)]
                  exact if_neg (by simpa [and_assoc] using tilde)
                rw [kept, marks_cons, single]
                exact Nat.add_le_add_left (ih 0 _) _

theorem raw_literals (value : Text) : raw (literals value) = value := by
  induction value with
  | nil => rfl
  | cons c value ih => exact congrArg (c :: ·) ih

theorem login_literals (value : Text) : ∃ name, login (literals value) = some name := by
  induction value with
  | nil => exact ⟨[], rfl⟩
  | cons c value ih =>
      obtain ⟨name, read⟩ := ih
      by_cases ends : c = '/' ∨ c = ':'
      · exact ⟨[], if_pos ends⟩
      · refine ⟨c :: name, ?_⟩
        rw [literals, List.map_cons, login, if_neg ends]
        exact congrArg (Option.map (c :: ·)) read

/-- A value of which nothing is lost has no tilde that stands for a directory. -/
theorem tildeFree_of_le (ordinary : Ordinary shell) {start : Bool} {value : Text}
    (kept : marks value ≤ marks (valueText shell 0 start (literals value))) : tildeFree start value = true := by
  induction value generalizing start with
  | nil => rfl
  | cons c value ih =>
      have shape : literals (c :: value) = .char false c :: literals value := rfl
      rw [shape, marks_cons] at kept
      by_cases tilde : c = '~' ∧ start = true
      · obtain ⟨rfl, rfl⟩ := tilde
        obtain ⟨name, read⟩ := login_literals value
        obtain ⟨directory, known, plain⟩ := ordinary.home name
        have replaced : valueText shell 0 true (.char false '~' :: literals value) =
            directory ++ valueText shell name.length false (literals value) := by
          rw [valueText]
          simp [read, known]
        have less := valueText_le ordinary name.length false (literals value)
        have counts : mark '~' = 1 := by decide
        rw [raw_literals] at less
        rw [replaced, marks_append, plain, counts] at kept
        omega
      · have other : (start && c == '~') = false := by simpa [and_comm] using tilde
        have stays : valueText shell 0 start (.char false c :: literals value) =
            c :: valueText shell 0 (c == ':') (literals value) := by
          rw [valueText, if_neg (by simp)]
          exact if_neg (by simpa using tilde)
        rw [stays, marks_cons] at kept
        rw [tildeFree, other]
        exact ih (by omega)

theorem marks_splitAssignment {before name : Text} {word value : Word}
    (split : splitAssignment before word = some (name, value)) : marks (raw value) ≤ marks (raw word) := by
  induction word generalizing before with
  | nil => cases split
  | cons piece rest ih =>
      have weight : marks (raw (piece :: rest)) = marks piece.raw + marks (raw rest) := marks_append piece.raw (raw rest)
      rw [weight]
      cases piece with
      | quote | value => cases split
      | char quoted c =>
          cases quoted with
          | true => cases split
          | false =>
              rw [splitAssignment] at split
              split at split
              · split at split
                · obtain ⟨-, rfl⟩ := Prod.mk.inj (Option.some.inj split)
                  exact Nat.le_add_left _ _
                · cases split
              · exact Nat.le_trans (ih split) (Nat.le_add_left _ _)

/-- The values of a file of assignments have no more marks than its words. -/
theorem assignments_le (ordinary : Ordinary shell) {began : Bool} {tokens : List Token} {made : List Assignment}
    (read : assignments shell began tokens = some made) :
    (made.map fun assignment => marks assignment.value).sum ≤ tokenMarks tokens := by
  induction tokens generalizing began made with
  | nil =>
      obtain rfl := Option.some.inj read
      exact Nat.le_refl 0
  | cons token rest ih =>
      have weight : tokenMarks (token :: rest) = token.weight + tokenMarks rest := List.sum_cons
      rw [weight]
      cases token with
      | newline => exact Nat.le_trans (ih read) (Nat.le_add_left _ _)
      | number => cases read
      | operator text =>
          rw [assignments] at read
          split at read
          · exact Nat.le_trans (ih read) (Nat.le_add_left _ _)
          · cases read
      | word word =>
          obtain ⟨⟨name, value⟩, split, given⟩ := Option.bind_eq_some_iff.mp read
          obtain ⟨later, readLater, rfl⟩ := Option.map_eq_some_iff.mp given
          rw [List.map_cons, List.sum_cons]
          exact Nat.add_le_add (Nat.le_trans (valueText_le ordinary 0 true value) (marks_splitAssignment split))
            (ih readLater)

end DeepOrc.Lib.Shell

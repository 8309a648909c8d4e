import Mathlib.Data.List.Basic
import Mathlib.Tactic.Common

/-!
# Shell text

How a POSIX shell cuts text into words and operators, and what remains of the words once quotes are removed. How far an
expansion reaches and what it yields depends on the state of the shell, which is a parameter.
-/

namespace DeepOrc.Lib.Shell

abbrev Text := List Char

/-- What an expansion runs and yields, and how many characters behind its first one belong to it. -/
structure Expansion where
  commands : List Text
  value : Text
  length : Nat
deriving DecidableEq

/-- What `$` and a backquote stand for before a text, and the home directories by login name. Without an expansion the
shell gives up. -/
structure Context where
  dollar : Text → Option Expansion
  backquote : Text → Option Expansion
  home : Text → Option Text

/-! ### Tokens -/

/-- A part of a word; `quote` is an opening quote, which keeps a word from being read as a keyword or number. -/
inductive Piece where
  | quote
  | char (quoted : Bool) (c : Char)
  | value (expansion : Expansion)
deriving DecidableEq

abbrev Word := List Piece

inductive Token where
  | word (pieces : Word)
  | number (digits : Word)
  | operator (text : Text)
  | newline
deriving DecidableEq

inductive Mode where
  | plain
  | escape
  | single
  | double
  | escapeDouble
  | comment
deriving DecidableEq

/-- How many characters an expansion or operator still covers, the quoting, and the word read so far, if one began. -/
structure State where
  skip : Nat
  mode : Mode
  word : Option Word
deriving DecidableEq

def State.start : State := ⟨0, .plain, none⟩

def State.within (mode : Mode) (word : Word) : State := ⟨0, mode, some word⟩

def State.read (s : State) : Word := s.word.getD []

def State.add (s : State) (mode : Mode) (pieces : Word) : State := .within mode (s.read ++ pieces)

def isBlank (c : Char) : Bool := c == ' ' || c == '\t'

def isQuote (c : Char) : Bool := c == '\'' || c == '"'

def operatorChars : Text := [';', '&', '|', '<', '>', '(', ')']

/-- Longer operators come first. -/
def operators : List Text :=
  [['<', '<', '-'], ['&', '&'], ['|', '|'], [';', ';'], ['<', '<'], ['>', '>'], ['<', '&'], ['>', '&'], ['<', '>'],
    ['>', '|']] ++ operatorChars.map fun c => [c]

/-- What makes an expansion of a `$` before it. -/
def opensExpansion (c : Char) : Bool := c.isAlphanum || c ∈ ['_', '{', '(', '@', '*', '#', '?', '-', '$', '!']

def opens (quotesToo : Bool) (rest : Text) : Bool :=
  rest.head?.any fun c => opensExpansion c || (quotesToo && isQuote c)

def State.expand (s : State) (mode : Mode) (found : Option Expansion) : Option (State × List Token) :=
  found.map fun expansion => ({ s.add mode [.value expansion] with skip := expansion.length }, [])

def isNumber (word : Word) : Bool :=
  word.all fun piece => match piece with | .char false c => c.isDigit | _ => false

/-- The word that ends here; digits right before a redirection are a descriptor. -/
def State.close (s : State) (redirects : Bool) : List Token :=
  match s.word with
  | none => []
  | some word => if redirects && isNumber word then [.number word] else [.word word]

def stepPlain (shell : Context) (s : State) (c : Char) (rest : Text) : Option (State × List Token) :=
  if c = '\n' then some (.start, s.close false ++ [.newline])
  else if isBlank c then some (.start, s.close false)
  else if c = '\'' then some (s.add .single [.quote], [])
  else if c = '"' then some (s.add .double [.quote], [])
  else if c = '\\' then some ({ s with mode := .escape }, [])
  else if c = '$' && opens true rest then s.expand .plain (shell.dollar rest)
  else if c = '`' then s.expand .plain (shell.backquote rest)
  else if c ∈ operatorChars then
    (operators.find? fun operator => operator.isPrefixOf (c :: rest)).map fun operator =>
      ({ State.start with skip := operator.length - 1 }, s.close (c == '<' || c == '>') ++ [.operator operator])
  else if c = '#' && s.word.isNone then some ({ s with mode := .comment }, [])
  else some (s.add .plain [.char false c], [])

def stepDouble (shell : Context) (s : State) (c : Char) (rest : Text) : Option (State × List Token) :=
  if c = '"' then some ({ s with mode := .plain }, [])
  else if c = '\\' then some ({ s with mode := .escapeDouble }, [])
  else if c = '$' && opens false rest then s.expand .double (shell.dollar rest)
  else if c = '`' then s.expand .double (shell.backquote rest)
  else some (s.add .double [.char true c], [])

/-- The characters a backslash quotes within double quotes. -/
def escapable (c : Char) : Bool := c ∈ ['$', '`', '"', '\\']

/-- One character, with the text behind it. -/
def step (shell : Context) (s : State) (c : Char) (rest : Text) : Option (State × List Token) :=
  if s.skip ≠ 0 then some ({ s with skip := s.skip - 1 }, [])
  else
    match s.mode with
    | .plain => stepPlain shell s c rest
    | .escape =>
        if c = '\n' then some ({ s with mode := .plain }, []) else some (s.add .plain [.char true c], [])
    | .single => if c = '\'' then some ({ s with mode := .plain }, []) else some (s.add .single [.char true c], [])
    | .double => stepDouble shell s c rest
    | .escapeDouble =>
        if c = '\n' then some ({ s with mode := .double }, [])
        else if escapable c then some (s.add .double [.char true c], [])
        else some (s.add .double [.char true '\\', .char true c], [])
    | .comment => if c = '\n' then some (.start, [.newline]) else some (s, [])

/-- At the end of the text an open quotation is an error. -/
def finish (s : State) : Option (List Token) :=
  match s.mode with
  | .plain | .comment => some (s.close false)
  | .escape => some [.word (s.read ++ [.char true '\\'])]
  | .single | .double | .escapeDouble => none

def scan (shell : Context) (s : State) : Text → Option (List Token)
  | [] => finish s
  | c :: rest => (step shell s c rest).bind fun next => (scan shell next.1 rest).map (next.2 ++ ·)

/-! ### Assignments -/

structure Assignment where
  name : Text
  value : Text
  commands : List Text
deriving DecidableEq

def isNameStart (c : Char) : Bool := c.isAlpha || c == '_'

def isNameChar (c : Char) : Bool := c.isAlphanum || c == '_'

def isName (name : Text) : Bool := name.head?.any isNameStart && name.all isNameChar

/-- The name in front of an unquoted `=` and the pieces behind; `name` holds what was read of it. -/
def splitAssignment (name : Text) : Word → Option (Text × Word)
  | .char false c :: rest =>
      if c = '=' then if isName name then some (name, rest) else none
      else splitAssignment (name ++ [c]) rest
  | _ => none

/-- The login name of a tilde, up to a slash or colon; none if a part of it is quoted or expanded. -/
def login : Word → Option Text
  | [] => some []
  | .char false c :: rest => if c = '/' ∨ c = ':' then some [] else (login rest).map (c :: ·)
  | _ => none

/-- The value of an assignment: quotes are gone, and a tilde at its start or after a colon becomes a directory. -/
def valueText (shell : Context) (skip : Nat) (start : Bool) : Word → Text
  | [] => []
  | piece :: rest =>
      if skip ≠ 0 then valueText shell (skip - 1) false rest
      else
        match piece with
        | .quote => valueText shell 0 false rest
        | .char quoted c =>
            if !quoted && c = '~' && start then
              match (login rest).bind fun name => (shell.home name).map fun directory => (name, directory) with
              | some (login, directory) => directory ++ valueText shell login.length false rest
              | none => c :: valueText shell 0 false rest
            else c :: valueText shell 0 (!quoted && c = ':') rest
        | .value expansion => expansion.value ++ valueText shell 0 false rest

def commandsOf (word : Word) : List Text :=
  word.flatMap fun piece => match piece with | .value expansion => expansion.commands | _ => []

/-- The assignments that a text of tokens consists of; none where there is anything else. A semicolon ends a command,
which `began` tells. -/
def assignments (shell : Context) (began : Bool) : List Token → Option (List Assignment)
  | [] => some []
  | .newline :: rest => assignments shell false rest
  | .operator text :: rest => if began && text = [';'] then assignments shell false rest else none
  | .number _ :: _ => none
  | .word word :: rest =>
      (splitAssignment [] word).bind fun part =>
        (assignments shell true rest).map
          (⟨part.1, valueText shell 0 true part.2, commandsOf part.2⟩ :: ·)

/-- A file of assignments, sourced. -/
def source (shell : Context) (text : Text) : Option (List Assignment) :=
  (scan shell .start text).bind (assignments shell false)

/-- The value a variable has in the end. -/
def lastValue (name : Text) (made : List Assignment) : Option Text :=
  ((made.filter fun assignment => assignment.name = name).getLast?).map Assignment.value

/-! ### Text that is read as it stands -/

/-- Characters that never stand for themselves outside quotes. -/
def special : Text := ['\n', ' ', '\t', '\'', '"', '\\', '`'] ++ operatorChars

/-- The character stands for itself before the given text, inside a word. -/
def literal (c : Char) (rest : Text) : Bool := c ∉ special && !(c = '$' && opens true rest)

def Literal : Text → Text → Prop
  | [], _ => True
  | c :: text, rest => literal c (text ++ rest) = true ∧ Literal text rest

def literals (text : Text) : Word := text.map (Piece.char false)

variable (shell : Context)

/-- What a character that stands for itself is not. -/
structure Stands (c : Char) (rest : Text) : Prop where
  newline : c ≠ '\n'
  blank : isBlank c = false
  single : c ≠ '\''
  double : c ≠ '"'
  escape : c ≠ '\\'
  dollar : (c = '$' && opens true rest) = false
  backquote : c ≠ '`'
  operator : c ∉ operatorChars

theorem literal_iff {c : Char} {rest : Text} : literal c rest = true ↔ Stands c rest := by
  have outside : c ∉ special ↔ c ≠ '\n' ∧ isBlank c = false ∧ c ≠ '\'' ∧ c ≠ '"' ∧ c ≠ '\\' ∧ c ≠ '`' ∧
      c ∉ operatorChars := by
    simp only [special, isBlank, List.mem_append, List.mem_cons, List.not_mem_nil, or_false, not_or,
      Bool.or_eq_false_iff, beq_eq_false_iff_ne, ne_eq, and_assoc]
  rw [literal, Bool.and_eq_true, decide_eq_true_eq, Bool.not_eq_true', outside]
  constructor
  · rintro ⟨⟨newline, blank, single, double, escape, backquote, operator⟩, dollar⟩
    exact ⟨newline, blank, single, double, escape, dollar, backquote, operator⟩
  · rintro ⟨newline, blank, single, double, escape, dollar, backquote, operator⟩
    exact ⟨⟨newline, blank, single, double, escape, backquote, operator⟩, dollar⟩

theorem stepPlain_literal {s : State} {c : Char} {rest : Text} (stands : literal c rest = true)
    (inside : c ≠ '#' ∨ s.word.isSome = true) :
    stepPlain shell s c rest = some (s.add .plain [.char false c], []) := by
  obtain ⟨newline, blank, single, double, escape, dollar, backquote, operator⟩ := literal_iff.mp stands
  have word : (decide (c = '#') && s.word.isNone) = false := by
    rcases inside with other | begun
    · simp [other]
    · simp [Option.isNone_eq_false_iff.mpr begun]
  simp only [stepPlain, newline, blank, single, double, escape, dollar, backquote, operator, word, if_false,
    Bool.false_eq_true]

theorem scan_cons {s t : State} {c : Char} {rest : Text} {tokens : List Token}
    (taken : step shell s c rest = some (t, tokens)) :
    scan shell s (c :: rest) = (scan shell t rest).map (tokens ++ ·) := by
  rw [scan, taken, Option.bind_some]

/-- A character that only changes the state. -/
theorem scan_of_step {s t : State} {c : Char} {rest : Text} (taken : step shell s c rest = some (t, [])) :
    scan shell s (c :: rest) = scan shell t rest := by
  simp only [scan_cons shell taken, List.nil_append, Option.map_id']

theorem scan_literal {c : Char} {rest : Text} (stands : literal c rest = true) (word : Word) :
    scan shell (.within .plain word) (c :: rest) = scan shell (.within .plain (word ++ [.char false c])) rest := by
  have taken : step shell (.within .plain word) c rest =
      some (.within .plain (word ++ [.char false c]), []) := stepPlain_literal shell stands (.inr rfl)
  exact scan_of_step shell taken

theorem scan_literals {text rest : Text} (stands : Literal text rest) (word : Word) :
    scan shell (.within .plain word) (text ++ rest) = scan shell (.within .plain (word ++ literals text)) rest := by
  induction text generalizing word with
  | nil => rw [literals, List.map_nil, List.append_nil, List.nil_append]
  | cons c text ih =>
      rw [List.cons_append, scan_literal shell stands.1, ih stands.2, List.append_assoc]
      rfl

/-- A word begins. -/
theorem scan_start {c : Char} {text rest : Text} (stands : Literal (c :: text) rest) (word : c ≠ '#') :
    scan shell .start (c :: text ++ rest) = scan shell (.within .plain (literals (c :: text))) rest := by
  have taken : step shell .start c (text ++ rest) = some (.within .plain [.char false c], []) :=
    stepPlain_literal shell stands.1 (.inl word)
  rw [List.cons_append, scan_of_step shell taken]
  exact scan_literals shell stands.2 [.char false c]

theorem scan_blank (word : Option Word) (rest : Text) :
    scan shell ⟨0, .plain, word⟩ (' ' :: rest) =
      (scan shell .start rest).map (State.close ⟨0, .plain, word⟩ false ++ ·) := rfl

theorem scan_newline (word : Option Word) (rest : Text) :
    scan shell ⟨0, .plain, word⟩ ('\n' :: rest) =
      (scan shell .start rest).map ((State.close ⟨0, .plain, word⟩ false ++ [.newline]) ++ ·) := rfl

/-! ### Single quotes -/

/-- Text for single quotes: each quote in it is written between the quotations before and after it. -/
def quote (text : Text) : Text := text.flatMap fun c => if c = '\'' then ['\'', '\\', '\'', '\''] else [c]

/-- What the shell makes of quoted text. -/
def quotedPieces (text : Text) : Word :=
  text.flatMap fun c => if c = '\'' then [.char true c, .quote] else [.char true c]

theorem scan_single (word : Word) (text rest : Text) :
    scan shell (.within .single word) (quote text ++ '\'' :: rest) =
      scan shell (.within .plain (word ++ quotedPieces text)) rest := by
  induction text generalizing word with
  | nil =>
      rw [quotedPieces, List.flatMap_nil, List.append_nil]
      exact scan_of_step shell rfl
  | cons c text ih =>
      by_cases same : c = '\''
      · subst same
        have written : quote ('\'' :: text) ++ '\'' :: rest =
            '\'' :: '\\' :: '\'' :: '\'' :: (quote text ++ '\'' :: rest) := rfl
        have pieces : word ++ quotedPieces ('\'' :: text) = word ++ [.char true '\'', .quote] ++ quotedPieces text := by
          rw [List.append_assoc]
          rfl
        have reopened : scan shell (.within .single word) ('\'' :: '\\' :: '\'' :: '\'' :: (quote text ++ '\'' :: rest)) =
            scan shell (.within .single (word ++ [.char true '\''] ++ [.quote])) (quote text ++ '\'' :: rest) := by
          simp [scan, step, stepPlain, State.within, State.add, State.read, isBlank, Function.comp_def]
        rw [written, pieces, reopened, ih, List.append_assoc word]
        rfl
      · have written : quote (c :: text) ++ '\'' :: rest = c :: (quote text ++ '\'' :: rest) := by
          simp [quote, same]
        have pieces : word ++ quotedPieces (c :: text) = word ++ [.char true c] ++ quotedPieces text := by
          simp [quotedPieces, same]
        have kept : scan shell (.within .single word) (c :: (quote text ++ '\'' :: rest)) =
            scan shell (.within .single (word ++ [.char true c])) (quote text ++ '\'' :: rest) := by
          simp [scan, step, State.within, State.add, State.read, same]
        rw [written, pieces, kept, ih]

/-- Quoted text inside a word. -/
theorem scan_quote (word : Word) (text rest : Text) :
    scan shell (.within .plain word) ('\'' :: (quote text ++ '\'' :: rest)) =
      scan shell (.within .plain (word ++ .quote :: quotedPieces text)) rest := by
  have opened : scan shell (.within .plain word) ('\'' :: (quote text ++ '\'' :: rest)) =
      scan shell (.within .single (word ++ [.quote])) (quote text ++ '\'' :: rest) := by
    simp [scan, step, stepPlain, State.within, State.add, State.read, isBlank]
  rw [opened, scan_single, List.append_assoc]
  rfl

/-- Quoted text that begins a word. -/
theorem scan_start_quote (text rest : Text) :
    scan shell .start ('\'' :: (quote text ++ '\'' :: rest)) =
      scan shell (.within .plain (.quote :: quotedPieces text)) rest := by
  have opened : scan shell .start ('\'' :: (quote text ++ '\'' :: rest)) =
      scan shell (.within .single [.quote]) (quote text ++ '\'' :: rest) := by
    simp [scan, step, stepPlain, State.start, State.within, State.add, State.read, isBlank]
  rw [opened, scan_single]
  rfl

end DeepOrc.Lib.Shell

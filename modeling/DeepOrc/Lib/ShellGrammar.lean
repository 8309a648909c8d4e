import DeepOrc.Lib.Shell

/-!
# Shell commands

Simple commands, and conditionals made of them. A script is read only where every word stands for the same argument in
every state of the shell.
-/

namespace DeepOrc.Lib.Shell

/-- Characters that make an unquoted word a pattern. -/
def patternChars : Text := ['*', '?', '[']

def pieceText : Piece → Option Text
  | .quote => some []
  | .char quoted c => if !quoted && c ∈ patternChars then none else some [c]
  | .value _ => none

/-- The argument that a word becomes; none where it depends on the shell. -/
def argument (word : Word) : Option Text :=
  if word.head? = some (.char false '~') then none else (word.mapM pieceText).map List.flatten

structure Redirect where
  descriptor : Word
  operator : Text
  target : Text
deriving DecidableEq

inductive Command where
  | simple (arguments : List Text) (redirects : List Redirect)
  | conditional (condition success failure : List Command)

def redirections : List Text := [['<'], ['>'], ['>', '>'], ['<', '&'], ['>', '&'], ['<', '>'], ['>', '|']]

/-- The arguments and redirections of a simple command, and the tokens behind it. -/
def simpleCommand : List Token → Option (List Text × List Redirect × List Token)
  | .word word :: rest =>
      (argument word).bind fun text =>
        (simpleCommand rest).map fun read => (text :: read.1, read.2.1, read.2.2)
  | .number digits :: .operator operator :: .word word :: rest =>
      if redirections.contains operator then
        (argument word).bind fun text =>
          (simpleCommand rest).map fun read => (read.1, ⟨digits, operator, text⟩ :: read.2.1, read.2.2)
      else none
  | .operator operator :: .word word :: rest =>
      if redirections.contains operator then
        (argument word).bind fun text =>
          (simpleCommand rest).map fun read => (read.1, ⟨[], operator, text⟩ :: read.2.1, read.2.2)
      else some ([], [], .operator operator :: .word word :: rest)
  | rest => some ([], [], rest)

def keywords : List String :=
  ["!", "\x7b", "\x7d", "case", "do", "done", "elif", "else", "esac", "fi", "for", "if", "in", "then", "until", "while"]

def isKeyword (word : Word) (keyword : String) : Bool := word = keyword.toList.map (Piece.char false)

/-- The tokens behind a keyword. -/
def behind (keyword : String) : List Token → Option (List Token)
  | .word word :: rest => if isKeyword word keyword then some rest else none
  | _ => none

mutual

/-- Commands up to a keyword that continues or ends a conditional. -/
def commandList : Nat → List Token → Option (List Command × List Token)
  | 0, _ => none
  | _ + 1, [] => some ([], [])
  | fuel + 1, .newline :: rest => commandList fuel rest
  | fuel + 1, .word word :: rest =>
      if isKeyword word "if" then
        (commandList fuel rest).bind fun condition =>
          (behind "then" condition.2).bind fun rest =>
            (commandList fuel rest).bind fun success =>
              (behind "else" success.2).bind fun rest =>
                (commandList fuel rest).bind fun failure =>
                  (behind "fi" failure.2).bind fun rest =>
                    commandsAfter fuel (.conditional condition.1 success.1 failure.1) rest
      else if keywords.any (isKeyword word) then some ([], .word word :: rest)
      else if (splitAssignment [] word).isSome then none
      else (simpleCommand (.word word :: rest)).bind fun read => commandsAfter fuel (.simple read.1 read.2.1) read.2.2
  | _ + 1, _ => none

/-- What follows a command behind its terminator. -/
def commandsAfter : Nat → Command → List Token → Option (List Command × List Token)
  | 0, _, _ => none
  | _ + 1, command, [] => some ([command], [])
  | fuel + 1, command, .newline :: rest => (commandList fuel rest).map fun read => (command :: read.1, read.2)
  | fuel + 1, command, .operator text :: rest =>
      if text = [';'] then (commandList fuel rest).map fun read => (command :: read.1, read.2) else none
  | _ + 1, _, _ => none

end

/-- The commands of a script; none where the text is not of this kind. -/
def script (shell : Context) (text : Text) : Option (List Command) :=
  (scan shell .start text).bind fun tokens =>
    (commandList (2 * tokens.length + 2) tokens).bind fun read => if read.2 = [] then some read.1 else none

/-! ### Words that stand for one argument -/

/-- The text stands for itself wherever it is a word of its own. -/
def isPlainWord (text : Text) : Bool :=
  !text.isEmpty && text.all (fun c => c ∉ special && c != '$' && c ∉ patternChars) &&
    !text.head?.any (fun c => c == '#' || c == '~')

variable (shell : Context)

structure PlainWord (text : Text) : Prop where
  filled : text ≠ []
  ordinary : ∀ c ∈ text, c ∉ special ∧ c ≠ '$' ∧ c ∉ patternChars
  comment : text.head? ≠ some '#'
  tilde : text.head? ≠ some '~'

theorem isPlainWord_iff {text : Text} : isPlainWord text = true ↔ PlainWord text := by
  cases text with
  | nil => exact ⟨fun empty => by simp [isPlainWord] at empty, fun plain => absurd rfl plain.filled⟩
  | cons c text =>
      simp only [isPlainWord, List.isEmpty_cons, Bool.not_false, Bool.true_and, List.head?_cons, Option.any_some,
        Bool.and_eq_true, Bool.not_eq_true', Bool.or_eq_false_iff, beq_eq_false_iff_ne, List.all_eq_true, bne_iff_ne,
        decide_eq_true_eq, and_assoc]
      constructor
      · rintro ⟨ordinary, comment, tilde⟩
        exact ⟨List.cons_ne_nil c text, ordinary, by simpa using comment, by simpa using tilde⟩
      · rintro ⟨-, ordinary, comment, tilde⟩
        exact ⟨ordinary, by simpa using comment, by simpa using tilde⟩

theorem PlainWord.literal {text : Text} (plain : PlainWord text) (rest : Text) : Literal text rest := by
  have every : ∀ c ∈ text, c ∉ special ∧ c ≠ '$' := fun c member =>
    ⟨(plain.ordinary c member).1, (plain.ordinary c member).2.1⟩
  clear plain
  induction text with
  | nil => trivial
  | cons c text ih =>
      refine ⟨?_, ih fun other member => every other (List.mem_cons_of_mem c member)⟩
      obtain ⟨ordinary, dollar⟩ := every c List.mem_cons_self
      simp [Shell.literal, ordinary, dollar]

/-- A plain word begins. -/
theorem PlainWord.scan {text : Text} (plain : PlainWord text) (rest : Text) :
    scan shell .start (text ++ rest) = Shell.scan shell (.within .plain (literals text)) rest := by
  obtain ⟨c, text, rfl⟩ := List.exists_cons_of_ne_nil plain.filled
  exact scan_start shell (plain.literal rest) (by simpa using plain.comment)

/-- A plain word with a blank behind it. -/
theorem PlainWord.scan_blank {text : Text} (plain : PlainWord text) (rest : Text) :
    Shell.scan shell .start (text ++ ' ' :: rest) =
      (Shell.scan shell .start rest).map (Token.word (literals text) :: ·) := by
  rw [plain.scan, State.within, Shell.scan_blank]
  rfl

/-- The text of a word without expansions and patterns. -/
def wordText (word : Word) : Option Text := (word.mapM pieceText).map List.flatten

theorem wordText_cons (piece : Piece) (word : Word) :
    wordText (piece :: word) = (pieceText piece).bind fun text => (wordText word).map (text ++ ·) := by
  rw [wordText, List.mapM_cons]
  cases pieceText piece with
  | none => rfl
  | some text =>
      cases later : word.mapM pieceText <;> simp [wordText, later]

theorem wordText_append (front back : Word) :
    wordText (front ++ back) = (wordText front).bind fun text => (wordText back).map (text ++ ·) := by
  induction front with
  | nil =>
      rw [List.nil_append]
      cases wordText back <;> rfl
  | cons piece front ih =>
      rw [List.cons_append, wordText_cons, wordText_cons, ih]
      cases pieceText piece <;> cases wordText front <;> cases wordText back <;> simp

theorem wordText_literals {text : Text} (plain : ∀ c ∈ text, c ∉ patternChars) :
    wordText (literals text) = some text := by
  induction text with
  | nil => rfl
  | cons c text ih =>
      have later := ih fun other member => plain other (List.mem_cons_of_mem c member)
      rw [literals, List.map_cons, wordText_cons, ← literals, later]
      simp [pieceText, plain c List.mem_cons_self]

theorem wordText_quotedPieces (text : Text) : wordText (quotedPieces text) = some text := by
  induction text with
  | nil => rfl
  | cons c text ih =>
      rw [quotedPieces, List.flatMap_cons, ← quotedPieces, wordText_append, ih]
      by_cases same : c = '\''
      · rw [if_pos same]
        rfl
      · rw [if_neg same]
        rfl

/-! ### Arguments as they are written -/

/-- An argument written as plain text, quoted text or the one before the other. -/
structure Written where
  option : Text
  quoted : Option Text
deriving DecidableEq

namespace Written

def text (written : Written) : Text :=
  written.option ++ (written.quoted.map fun text => '\'' :: (quote text ++ ['\''])).getD []

def word (written : Written) : Word :=
  literals written.option ++ (written.quoted.map fun text => .quote :: quotedPieces text).getD []

/-- The argument that is meant. -/
def value (written : Written) : Text := written.option ++ written.quoted.getD []

def Valid (written : Written) : Prop := PlainWord written.option ∨ written.option = [] ∧ written.quoted.isSome = true

variable {written : Written}

/-- The shell reads what was written as the start of a word. -/
theorem Valid.scan (valid : written.Valid) (rest : Text) :
    scan shell .start (written.text ++ rest) = Shell.scan shell (.within .plain written.word) rest := by
  obtain ⟨option, quoted⟩ := written
  rcases valid with plain | ⟨rfl, some⟩
  · cases quoted with
    | none =>
        simp only [text, word, Option.map_none, Option.getD_none, List.append_nil]
        exact plain.scan shell rest
    | some value =>
        simp only [text, word, Option.map_some, Option.getD_some]
        rw [List.append_assoc, plain.scan shell]
        have regrouped : '\'' :: (quote value ++ ['\'']) ++ rest = '\'' :: (quote value ++ '\'' :: rest) := by simp
        rw [regrouped]
        exact scan_quote shell (literals option) value rest
  · obtain ⟨value, rfl⟩ := Option.isSome_iff_exists.mp some
    have regrouped : Written.text ⟨[], Option.some value⟩ ++ rest = '\'' :: (quote value ++ '\'' :: rest) := by
      simp [text]
    rw [regrouped]
    exact scan_start_quote shell value rest

theorem Valid.argument (valid : written.Valid) : argument written.word = some written.value := by
  obtain ⟨option, quoted⟩ := written
  have plain : ∀ c ∈ option, c ∉ patternChars := by
    rcases valid with plain | ⟨rfl, -⟩
    · exact fun c member => (plain.ordinary c member).2.2
    · simp
  have untilded : (word ⟨option, quoted⟩).head? ≠ some (.char false '~') := by
    rcases valid with plain | ⟨rfl, some⟩
    · obtain ⟨c, rest, rfl⟩ := List.exists_cons_of_ne_nil plain.filled
      have tilde := plain.tilde
      simpa [word, literals] using tilde
    · obtain ⟨value, rfl⟩ := Option.isSome_iff_exists.mp some
      simp [word, literals]
  rw [Shell.argument, if_neg untilded, ← wordText, word, wordText_append, wordText_literals plain]
  cases quoted with
  | none => rfl
  | some quoted =>
      simp only [Option.map_some, Option.getD_some, wordText_cons, wordText_quotedPieces]
      rfl

end Written

/-- Arguments with a blank between them. -/
def commandText (arguments : List Written) : Text := [' '].intercalate (arguments.map Written.text)

theorem scan_commandText {first : Written} {arguments : List Written}
    (valid : ∀ written ∈ first :: arguments, written.Valid) (rest : Text) :
    scan shell .start (commandText (first :: arguments) ++ rest) =
      (scan shell (.within .plain ((first :: arguments).getLast (List.cons_ne_nil _ _)).word) rest).map
        ((((first :: arguments).dropLast).map fun written => Token.word written.word) ++ ·) := by
  induction arguments generalizing first with
  | nil =>
      rw [commandText, List.map_singleton, List.intercalate_singleton, (valid first List.mem_cons_self).scan]
      simp
  | cons next arguments ih =>
      have later := ih fun written member => valid written (List.mem_cons_of_mem first member)
      have opened : commandText (first :: next :: arguments) ++ rest =
          first.text ++ (' ' :: (commandText (next :: arguments) ++ rest)) := by
        simp [commandText, List.intercalate_cons_cons]
      rw [opened, (valid first List.mem_cons_self).scan, State.within, scan_blank, later]
      simp only [Option.map_map]
      rfl

/-- The arguments are the whole text. -/
theorem scan_commandText_nil {first : Written} {arguments : List Written}
    (valid : ∀ written ∈ first :: arguments, written.Valid) :
    scan shell .start (commandText (first :: arguments)) =
      some ((first :: arguments).map fun written => Token.word written.word) := by
  have whole := scan_commandText shell valid []
  rw [List.append_nil] at whole
  have last : scan shell (.within .plain ((first :: arguments).getLast (List.cons_ne_nil _ _)).word) [] =
      some [.word ((first :: arguments).getLast (List.cons_ne_nil _ _)).word] := rfl
  have joined := congrArg (List.map fun written => Token.word written.word)
    (List.dropLast_append_getLast (List.cons_ne_nil first arguments))
  rw [List.map_append] at joined
  rw [whole, last]
  exact congrArg some joined

theorem simpleCommand_words {arguments : List Written} (valid : ∀ written ∈ arguments, written.Valid)
    {rest : List Token} (ends : simpleCommand rest = some ([], [], rest)) :
    simpleCommand ((arguments.map fun written => Token.word written.word) ++ rest) =
      some (arguments.map Written.value, [], rest) := by
  induction arguments with
  | nil => exact ends
  | cons first arguments ih =>
      have later := ih fun written member => valid written (List.mem_cons_of_mem first member)
      simp only [List.map_cons, List.cons_append, simpleCommand, (valid first List.mem_cons_self).argument, later,
        Option.bind_some, Option.map_some]

/-- The word names a command. -/
structure NamesCommand (word : Word) : Prop where
  keyword : keywords.any (isKeyword word) = false
  assignment : splitAssignment [] word = none

theorem commandList_simple {word : Word} (names : NamesCommand word) {rest left : List Token} {arguments : List Text}
    {redirects : List Redirect} (read : simpleCommand (.word word :: rest) = some (arguments, redirects, left))
    (fuel : Nat) :
    commandList (fuel + 1) (.word word :: rest) = commandsAfter fuel (.simple arguments redirects) left := by
  have conditional : isKeyword word "if" = false := by
    have none := List.any_eq_false.mp names.keyword "if" (by decide)
    simpa using none
  rw [commandList, if_neg (by simp [conditional]), if_neg (by simp [names.keyword]),
    if_neg (by simp [names.assignment]), read]
  rfl

theorem commandList_words {first : Written} {arguments : List Written}
    (valid : ∀ written ∈ first :: arguments, written.Valid) (names : NamesCommand first.word) {rest : List Token}
    (ends : simpleCommand rest = some ([], [], rest)) (fuel : Nat) :
    commandList (fuel + 1) (((first :: arguments).map fun written => Token.word written.word) ++ rest) =
      commandsAfter fuel (.simple ((first :: arguments).map Written.value) []) rest :=
  commandList_simple names (simpleCommand_words valid ends) fuel

/-- A keyword that continues or ends a conditional ends the list of commands before it. -/
theorem commandList_keyword {word : Word} (keyword : keywords.any (isKeyword word) = true)
    (other : isKeyword word "if" = false) (fuel : Nat) (rest : List Token) :
    commandList (fuel + 1) (.word word :: rest) = some ([], .word word :: rest) := by
  rw [commandList, if_neg (by simp [other]), if_pos keyword]

/-- A command that ends with a semicolon. -/
theorem commandsAfter_semicolon (fuel : Nat) (command : Command) (rest : List Token) :
    commandsAfter (fuel + 1) command (.operator [';'] :: rest) =
      (commandList fuel rest).map fun read => (command :: read.1, read.2) := by
  rw [commandsAfter, if_pos rfl]

theorem commandList_if {word : Word} (keyword : isKeyword word "if" = true) (fuel : Nat)
    {rest afterThen afterElse afterFi : List Token} {condition success failure : List Command × List Token}
    (conditionRead : commandList fuel rest = some condition) (thenRead : behind "then" condition.2 = some afterThen)
    (successRead : commandList fuel afterThen = some success) (elseRead : behind "else" success.2 = some afterElse)
    (failureRead : commandList fuel afterElse = some failure) (fiRead : behind "fi" failure.2 = some afterFi) :
    commandList (fuel + 1) (.word word :: rest) =
      commandsAfter fuel (.conditional condition.1 success.1 failure.1) afterFi := by
  rw [commandList, if_pos keyword, conditionRead, Option.bind_some, thenRead, Option.bind_some, successRead,
    Option.bind_some, elseRead, Option.bind_some, failureRead, Option.bind_some, fiRead, Option.bind_some]

/-- A text of arguments is one command with these arguments. -/
theorem script_commandText {first : Written} {arguments : List Written}
    (valid : ∀ written ∈ first :: arguments, written.Valid) (names : NamesCommand first.word) :
    script shell (commandText (first :: arguments)) =
      some [.simple ((first :: arguments).map Written.value) []] := by
  have ends : simpleCommand [] = some ([], [], []) := rfl
  have read := commandList_words valid names ends
  simp only [List.append_nil] at read
  rw [script, scan_commandText_nil shell valid, Option.bind_some, read]
  rfl

end DeepOrc.Lib.Shell

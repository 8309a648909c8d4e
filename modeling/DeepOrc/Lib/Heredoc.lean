import DeepOrc.Lib.EnvFile
import DeepOrc.Lib.Shell
import Mathlib.Data.Bool.AllAny

/-!
# Here-documents and files of assignments

A here-document with an unquoted delimiter is expanded before it is written. Files of `NAME=value` lines pass through
this and through sourcing as they stand if their values are harmless.
-/

namespace DeepOrc.Lib.Shell

open Lib.EnvFile (unlines)

/-! ### Here-documents -/

/-- The body up to a line that is the delimiter, and the text behind that line. A backslash before a newline keeps the
line from ending there. -/
def hereBody (delimiter : Text) (start escaped : Bool) : Text → Option (Text × Text)
  | [] => none
  | c :: rest =>
      if start && (delimiter ++ ['\n']).isPrefixOf (c :: rest) then
        some ([], (c :: rest).drop (delimiter.length + 1))
      else
        (hereBody delimiter (!escaped && c == '\n') (!escaped && c == '\\') rest).map fun found =>
          (c :: found.1, found.2)

/-- The commands that are run and the text that is written. -/
def expandText (shell : Context) (skip : Nat) (escaped : Bool) : Text → Option (List Text × Text)
  | [] => some ([], if escaped then ['\\'] else [])
  | c :: rest =>
      let emit (text : Text) (found : Option (List Text × Text)) : Option (List Text × Text) :=
        found.map fun found => (found.1, text ++ found.2)
      let replace (found : Option Expansion) : Option (List Text × Text) :=
        found.bind fun expansion =>
          (expandText shell expansion.length false rest).map fun found =>
            (expansion.commands ++ found.1, expansion.value ++ found.2)
      if skip ≠ 0 then expandText shell (skip - 1) false rest
      else if escaped then
        if c = '\n' then expandText shell 0 false rest
        else if c ∈ ['$', '`', '\\'] then emit [c] (expandText shell 0 false rest)
        else emit ['\\', c] (expandText shell 0 false rest)
      else if c = '\\' then expandText shell 0 true rest
      else if c = '$' && opens false rest then replace (shell.dollar rest)
      else if c = '`' then replace (shell.backquote rest)
      else emit [c] (expandText shell 0 false rest)

/-- A shell drops the null characters of its input. -/
def dropNul (text : Text) : Text := text.filter fun c => c != '\x00'

/-! ### Harmless values -/

/-- No tilde stands where it could begin a directory: at the start or after a colon. -/
def tildeFree (start : Bool) : Text → Bool
  | [] => true
  | c :: rest => !(start && c == '~') && tildeFree (c == ':') rest

/-- The value of an assignment stands for itself, also in a here-document before. -/
structure Harmless (value : Text) : Prop where
  literal : Literal value []
  tilde : tildeFree true value = true
  nul : '\x00' ∉ value

variable (shell : Context)

theorem opens_of_opens_false {rest : Text} (closed : opens true rest = false) : opens false rest = false := by
  unfold opens at closed ⊢
  cases rest with
  | nil => rfl
  | cons c rest =>
      simp only [List.head?_cons, Option.any_some, Bool.or_eq_false_iff] at closed ⊢
      exact ⟨closed.1, rfl⟩

theorem Literal.append {front back rest : Text} (first : Literal front (back ++ rest)) (second : Literal back rest) :
    Literal (front ++ back) rest := by
  induction front with
  | nil => exact second
  | cons c front ih =>
      refine ⟨?_, ih first.2⟩
      have here := first.1
      rw [← List.append_assoc] at here
      exact here

/-- What stands for itself at the end of a text does so before a newline. -/
theorem Literal.before_newline {text : Text} (stands : Literal text []) (rest : Text) :
    Literal text ('\n' :: rest) := by
  induction text with
  | nil => trivial
  | cons c text ih =>
      refine ⟨?_, ih stands.2⟩
      cases text with
      | nil =>
          obtain ⟨newline, blank, single, double, escape, -, backquote, operator⟩ := literal_iff.mp stands.1
          refine literal_iff.mpr ⟨newline, blank, single, double, escape, ?_, backquote, operator⟩
          simp [opens, opensExpansion, isQuote]
      | cons next text => simpa [literal, opens] using stands.1

theorem Literal.not_mem {text rest : Text} (stands : Literal text rest) {c : Char} (member : c ∈ special) :
    c ∉ text := by
  induction text with
  | nil => exact List.not_mem_nil
  | cons first text ih =>
      intro inside
      rcases List.mem_cons.mp inside with rfl | inside
      · have outside := stands.1
        simp [literal, member] at outside
      · exact ih stands.2 inside

theorem expandText_literals {text rest : Text} (stands : Literal text rest) :
    expandText shell 0 false (text ++ rest) =
      (expandText shell 0 false rest).map fun found => (found.1, text ++ found.2) := by
  induction text with
  | nil =>
      rw [List.nil_append]
      simp only [List.nil_append, Option.map_id']
  | cons c text ih =>
      obtain ⟨-, -, -, -, escape, dollar, backquote, -⟩ := literal_iff.mp stands.1
      have closed : (decide (c = '$') && opens false (text ++ rest)) = false := by
        rw [Bool.and_eq_false_iff] at dollar ⊢
        exact dollar.imp id opens_of_opens_false
      rw [List.cons_append, expandText]
      simp only [ne_eq, not_true_eq_false, if_false, Bool.false_eq_true, escape, closed, backquote, ih stands.2,
        Option.map_map]
      rfl

theorem expandText_newline (rest : Text) :
    expandText shell 0 false ('\n' :: rest) =
      (expandText shell 0 false rest).map fun found => (found.1, '\n' :: found.2) := rfl

/-! ### Lines of assignments -/

def assignmentLine (name value : Text) : Text := name ++ '=' :: value

theorem isNameChar_of_special : ∀ c ∈ '$' :: '=' :: '#' :: special, isNameChar c = false :=
  List.all_iff_forall_prop.mp (by decide)

theorem isNameChar_of_mem {name : Text} (named : isName name = true) {c : Char} (member : c ∈ name) :
    isNameChar c = true := by
  rw [isName, Bool.and_eq_true, List.all_eq_true] at named
  exact named.2 c member

theorem notMem_name {name : Text} (named : isName name = true) {c : Char} (other : isNameChar c = false) :
    c ∉ name := by
  intro member
  rw [isNameChar_of_mem named member] at other
  cases other

/-- The characters of a name stand for themselves wherever they are. -/
theorem literal_of_isNameChar {c : Char} (char : isNameChar c = true) (rest : Text) : literal c rest = true := by
  have outside (other : Char) (listed : other ∈ '$' :: '=' :: '#' :: special) : c ≠ other := by
    rintro rfl
    rw [isNameChar_of_special c listed] at char
    cases char
  have ordinary : c ∉ special := fun member =>
    outside c (List.mem_cons_of_mem _ (List.mem_cons_of_mem _ (List.mem_cons_of_mem _ member))) rfl
  simp [literal, ordinary, outside '$' List.mem_cons_self]

theorem literal_name {name : Text} (named : isName name = true) (rest : Text) :
    Literal (name ++ ['=']) rest := by
  have chars : ∀ c ∈ name, isNameChar c = true := fun _ => isNameChar_of_mem named
  clear named
  induction name with
  | nil => exact ⟨by simp [literal, special, operatorChars], trivial⟩
  | cons c name ih =>
      exact ⟨literal_of_isNameChar (chars c List.mem_cons_self) _,
        ih fun other member => chars other (List.mem_cons_of_mem c member)⟩

theorem literal_line {name value : Text} (named : isName name = true) {rest : Text} (stands : Literal value rest) :
    Literal (assignmentLine name value) rest := by
  have joined := (literal_name named (value ++ rest)).append stands
  rwa [List.append_assoc] at joined

theorem splitAssignment_literals {name : Text} (pieces : Word) (before : Text) (chars : '=' ∉ name)
    (named : isName (before ++ name) = true) :
    splitAssignment before (literals name ++ .char false '=' :: pieces) = some (before ++ name, pieces) := by
  induction name generalizing before with
  | nil =>
      rw [List.append_nil] at named ⊢
      simp [literals, splitAssignment, named]
  | cons c name ih =>
      obtain ⟨other, later⟩ := not_or.mp (mt List.mem_cons.mpr chars)
      have read := ih (before ++ [c]) later (by rwa [List.append_assoc])
      rw [literals, List.map_cons, List.cons_append, splitAssignment, if_neg (Ne.symm other)]
      rw [List.append_assoc] at read
      exact read

theorem splitAssignment_line {name : Text} (named : isName name = true) (pieces : Word) :
    splitAssignment [] (literals (name ++ ['=']) ++ pieces) = some (name, pieces) := by
  have chars : '=' ∉ name := notMem_name named (by decide)
  have read := splitAssignment_literals pieces [] chars named
  rw [literals, List.map_append, List.append_assoc]
  exact read

theorem valueText_literals {start : Bool} {value : Text} (free : tildeFree start value = true) :
    valueText shell 0 start (literals value) = value := by
  induction value generalizing start with
  | nil => rfl
  | cons c value ih =>
      simp only [tildeFree, Bool.and_eq_true, Bool.not_eq_true', Bool.and_eq_false_iff, beq_eq_false_iff_ne] at free
      have later : valueText shell 0 (c == ':') (literals value) = value := ih free.2
      have here : (decide (c = '~') && start) = false := by
        rcases free.1 with off | other
        · simp [off]
        · simp [other]
      simp only [literals, List.map_cons, valueText, ne_eq, not_true_eq_false, if_false, Bool.not_false,
        Bool.true_and, here, Bool.false_eq_true] at later ⊢
      exact congrArg (c :: ·) later

theorem commandsOf_literals (value : Text) : commandsOf (literals value) = [] := by
  induction value with
  | nil => rfl
  | cons c value ih => exact ih

/-- After a name and `=`, the value is read. -/
theorem scan_assignment {name : Text} (named : isName name = true) (text : Text) :
    scan shell .start (assignmentLine name text) = scan shell (.within .plain (literals (name ++ ['=']))) text := by
  have stands := literal_name named text
  obtain ⟨c, others, first⟩ : ∃ c others, name = c :: others := by
    cases name with
    | nil => simp [isName] at named
    | cons c others => exact ⟨c, others, rfl⟩
  have word : c ≠ '#' := by
    rintro rfl
    exact notMem_name named (by decide) (first ▸ List.mem_cons_self)
  have joined : assignmentLine name text = c :: (others ++ ['=']) ++ text := by
    rw [first, List.cons_append, List.append_assoc]
    rfl
  rw [first, List.cons_append] at stands
  rw [joined, scan_start shell stands word, first, List.cons_append]

theorem scan_line {name value : Text} (named : isName name = true) (stands : Literal value []) (rest : Text) :
    scan shell .start (assignmentLine name value ++ '\n' :: rest) =
      (scan shell .start rest).map ([.word (literals (name ++ ['=']) ++ literals value), .newline] ++ ·) := by
  have joined : assignmentLine name value ++ '\n' :: rest = assignmentLine name (value ++ '\n' :: rest) := by
    rw [assignmentLine, List.append_assoc]
    rfl
  rw [joined, scan_assignment shell named, scan_literals shell (stands.before_newline rest)]
  exact scan_newline shell _ rest

/-- A line with a harmless value assigns it. -/
theorem source_line {name value : Text} (named : isName name = true) (harmless : Harmless value) (rest : Text) :
    source shell (assignmentLine name value ++ '\n' :: rest) =
      (source shell rest).map (⟨name, value, []⟩ :: ·) := by
  rw [source, scan_line shell named harmless.literal, source]
  cases scan shell .start rest with
  | none => rfl
  | some tokens =>
      simp only [Option.map_some, Option.bind_some, List.cons_append, List.nil_append, assignments,
        splitAssignment_line named, valueText_literals shell harmless.tilde, commandsOf_literals]

/-- A line with a harmless value is written as it stands. -/
theorem expandText_line {name value : Text} (named : isName name = true) (harmless : Harmless value) (rest : Text) :
    expandText shell 0 false (assignmentLine name value ++ '\n' :: rest) =
      (expandText shell 0 false rest).map fun found => (found.1, assignmentLine name value ++ '\n' :: found.2) := by
  rw [expandText_literals shell (literal_line named (harmless.literal.before_newline rest)), expandText_newline,
    Option.map_map]
  rfl

theorem hereBody_inside {delimiter line : Text} (newline : '\n' ∉ line) (escape : '\\' ∉ line) (rest : Text) :
    hereBody delimiter false false (line ++ '\n' :: rest) =
      (hereBody delimiter true false rest).map fun found => (line ++ '\n' :: found.1, found.2) := by
  induction line with
  | nil => rfl
  | cons c line ih =>
      obtain ⟨first, later⟩ := not_or.mp (mt List.mem_cons.mpr newline)
      obtain ⟨plain, others⟩ := not_or.mp (mt List.mem_cons.mpr escape)
      rw [List.cons_append, hereBody]
      simp only [Bool.false_and, Bool.false_eq_true, if_false, Bool.not_false, Bool.true_and,
        beq_eq_false_iff_ne.mpr (Ne.symm first), beq_eq_false_iff_ne.mpr (Ne.symm plain), ih later others,
        Option.map_map]
      rfl

/-- A line that begins with another character than the delimiter belongs to the body. -/
theorem hereBody_line {delimiter line : Text} {d c : Char} (different : d ≠ c) (newline : '\n' ∉ c :: line)
    (escape : '\\' ∉ c :: line) (rest : Text) :
    hereBody (d :: delimiter) true false (c :: line ++ '\n' :: rest) =
      (hereBody (d :: delimiter) true false rest).map fun found => (c :: line ++ '\n' :: found.1, found.2) := by
  obtain ⟨first, later⟩ := not_or.mp (mt List.mem_cons.mpr newline)
  obtain ⟨plain, others⟩ := not_or.mp (mt List.mem_cons.mpr escape)
  have inside : hereBody (d :: delimiter) false false (line ++ '\n' :: rest) = _ := hereBody_inside later others rest
  rw [List.cons_append, hereBody]
  simp only [List.cons_append, List.isPrefixOf_cons_cons, beq_eq_false_iff_ne.mpr different, Bool.false_and, Bool.and_false,
    Bool.false_eq_true, if_false, Bool.not_false, beq_eq_false_iff_ne.mpr (Ne.symm first),
    beq_eq_false_iff_ne.mpr (Ne.symm plain), inside, Option.map_map]
  rfl

theorem hereBody_end (delimiter rest : Text) :
    hereBody delimiter true false (delimiter ++ '\n' :: rest) = some ([], rest) := by
  have here : (delimiter ++ ['\n']).isPrefixOf (delimiter ++ '\n' :: rest) = true := by
    rw [List.isPrefixOf_iff_prefix]
    exact ⟨rest, by simp⟩
  have behind : (delimiter ++ '\n' :: rest).drop (delimiter.length + 1) = rest := by simp
  obtain ⟨c, tail, whole⟩ := List.exists_cons_of_ne_nil (by simp : delimiter ++ '\n' :: rest ≠ [])
  rw [whole] at here behind ⊢
  rw [hereBody, Bool.true_and, if_pos here, behind]

/-- The body, the delimiter's line and what is behind it make the text. -/
theorem append_of_hereBody {delimiter text body rest : Text} {start escaped : Bool}
    (found : hereBody delimiter start escaped text = some (body, rest)) :
    text = body ++ (delimiter ++ '\n' :: rest) := by
  induction text generalizing start escaped body with
  | nil => cases found
  | cons c text ih =>
      rw [hereBody] at found
      split at found
      · rename_i here
        obtain ⟨rfl, rfl⟩ := Prod.mk.inj (Option.some.inj found)
        rw [Bool.and_eq_true, List.isPrefixOf_iff_prefix] at here
        obtain ⟨-, after, whole⟩ := here
        rw [← whole]
        simp
      · obtain ⟨⟨later, behind⟩, inside, same⟩ := Option.map_eq_some_iff.mp found
        obtain ⟨rfl, rfl⟩ := Prod.mk.inj same
        rw [ih inside]
        rfl

/-! ### Whole files -/

/-- Text without a character that begins an expansion is written as it stands. -/
theorem expandText_inert {text : Text} (inert : ∀ c ∈ text, c ∉ ['\\', '$', '`']) :
    expandText shell 0 false text = some ([], text) := by
  induction text with
  | nil => rfl
  | cons c text ih =>
      obtain ⟨here, later⟩ := List.forall_mem_cons.mp inert
      simp only [List.mem_cons, List.not_mem_nil, or_false, not_or] at here
      obtain ⟨escape, dollar, quote⟩ := here
      rw [expandText, ih later]
      simp [escape, dollar, quote]

/-- No line of the file begins like the delimiter. -/
theorem hereBody_unlines {d : Char} {delimiter : Text} {lines : List Text}
    (begins : ∀ line ∈ lines, ∃ c rest, line = c :: rest ∧ d ≠ c) (whole : ∀ line ∈ lines, '\n' ∉ line)
    (unescaped : ∀ line ∈ lines, '\\' ∉ line) (after : Text) :
    hereBody (d :: delimiter) true false (unlines lines ++ (d :: delimiter ++ '\n' :: after)) =
      some (unlines lines, after) := by
  induction lines with
  | nil => exact hereBody_end (d :: delimiter) after
  | cons line lines ih =>
      obtain ⟨here, later⟩ := List.forall_mem_cons.mp begins
      obtain ⟨wholeHere, wholeLater⟩ := List.forall_mem_cons.mp whole
      obtain ⟨plainHere, plainLater⟩ := List.forall_mem_cons.mp unescaped
      obtain ⟨c, rest, rfl, different⟩ := here
      have split (behind : Text) :
          unlines ((c :: rest) :: lines) ++ behind = c :: rest ++ '\n' :: (unlines lines ++ behind) := by
        rw [unlines, List.flatMap_cons, List.append_assoc, List.append_assoc]
        rfl
      rw [split, hereBody_line different wholeHere plainHere, ih later wholeLater plainLater, Option.map_some]
      have joined := split []
      rw [List.append_nil, List.append_nil] at joined
      rw [joined]

end DeepOrc.Lib.Shell

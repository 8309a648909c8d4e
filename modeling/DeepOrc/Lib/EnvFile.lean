import Mathlib.Tactic.Common

/-!
# Environment files

A file of `NAME=value` lines that a shell sources. It is rewritten line by line by a program that
splits text at every Unicode line boundary, while the shell splits it at newlines only.
-/

namespace DeepOrc.Lib.EnvFile

abbrev Text := List Char

/-- The boundaries of `str.splitlines`. -/
def isLineBreak (c : Char) : Bool :=
  c ∈ ['\n', '\r', '\x0b', '\x0c', '\x1c', '\x1d', '\x1e', '\u0085', '\u2028', '\u2029']

/-- `str.splitlines`; `line` holds, reversed, what the current line has so far. -/
def splitLines (line : Text) : Text → List Text
  | [] => if line = [] then [] else [line.reverse]
  | '\r' :: '\n' :: rest => line.reverse :: splitLines [] rest
  | c :: rest => if isLineBreak c then line.reverse :: splitLines [] rest else splitLines (c :: line) rest

def assigns (name line : Text) : Bool := (name ++ ['=']).isPrefixOf line

def assignment (name value : Text) : Text := name ++ '=' :: value

/-- Every assignment to the name is replaced; where there is none, one is added at the end. -/
def rewriteLines (name value : Text) (lines : List Text) : List Text :=
  let rewritten := lines.map fun line => if assigns name line then assignment name value else line
  if lines.any (assigns name) then rewritten else rewritten ++ [assignment name value]

def setVariable (name value text : Text) : Text :=
  ['\n'].intercalate (rewriteLines name value (splitLines [] text)) ++ ['\n']

def readLine (name current line : Text) : Text :=
  if assigns name line then line.drop (name.length + 1) else current

/-- The name's value after sourcing the file: the last assignment counts. -/
def getVariable (name text : Text) : Text := (text.splitOn '\n').foldl (readLine name) []

/-- No line holds a boundary. -/
theorem plain_of_mem_splitLines {line text : Text} (plain : ∀ c ∈ line, isLineBreak c = false) :
    ∀ found ∈ splitLines line text, ∀ c ∈ found, isLineBreak c = false := by
  have reversed : ∀ c ∈ line.reverse, isLineBreak c = false := fun c member => plain c (List.mem_reverse.mp member)
  fun_induction splitLines line text with
  | case1 => simp
  | case2 line nonempty => simpa using plain
  | case3 line rest rest_ih =>
      intro found member
      rcases List.mem_cons.mp member with rfl | member
      · exact reversed
      · exact rest_ih (by simp) (by simp) found member
  | case4 line c rest _ _ rest_ih =>
      intro found member
      rcases List.mem_cons.mp member with rfl | member
      · exact reversed
      · exact rest_ih (by simp) (by simp) found member
  | case5 line c rest _ inside rest_ih =>
      have grown : ∀ other ∈ c :: line, isLineBreak other = false :=
        List.forall_mem_cons.mpr ⟨by simpa using inside, plain⟩
      exact rest_ih grown fun other member => grown other (List.mem_reverse.mp member)

theorem newline_not_mem_splitLines (text : Text) : ∀ found ∈ splitLines [] text, '\n' ∉ found := by
  intro found member newline
  have plain := plain_of_mem_splitLines (by simp) found member '\n' newline
  exact absurd plain (by decide)

theorem splitLines_line {text : Text} (plain : ∀ c ∈ text, isLineBreak c = false) (line rest : Text) :
    splitLines line (text ++ '\n' :: rest) = (line.reverse ++ text) :: splitLines [] rest := by
  induction text generalizing line with
  | nil =>
      rw [List.nil_append, List.append_nil, splitLines]
      · exact if_pos (by decide)
      · simp
  | cons c text ih =>
      obtain ⟨here, later⟩ := List.forall_mem_cons.mp plain
      have other : c ≠ '\r' := by
        rintro rfl
        exact absurd here (by decide)
      rw [List.cons_append, splitLines, if_neg (by rw [here]; exact Bool.false_ne_true), ih later, List.reverse_cons,
        List.append_assoc]
      · rfl
      · simp [other]

def unlines (lines : List Text) : Text := lines.flatMap fun line => line ++ ['\n']

theorem unlines_cons (line : Text) (lines : List Text) : unlines (line :: lines) = line ++ '\n' :: unlines lines := by
  rw [unlines, List.flatMap_cons, List.append_assoc]
  rfl

theorem splitLines_unlines {lines : List Text} (plain : ∀ line ∈ lines, ∀ c ∈ line, isLineBreak c = false) :
    splitLines [] (unlines lines) = lines := by
  induction lines with
  | nil => rfl
  | cons line lines ih =>
      obtain ⟨here, later⟩ := List.forall_mem_cons.mp plain
      rw [unlines_cons, splitLines_line here, ih later]
      rfl

theorem intercalate_newline {lines : List Text} (nonempty : lines ≠ []) :
    ['\n'].intercalate lines ++ ['\n'] = unlines lines := by
  induction lines with
  | nil => exact absurd rfl nonempty
  | cons line rest later =>
      cases rest with
      | nil => simp [unlines]
      | cons second rest =>
          rw [List.intercalate_cons_cons, List.append_assoc, later (by simp)]
          simp [unlines]

/-- A last line needs no newline, unless it is empty. -/
theorem splitLines_last {text : Text} (plain : ∀ c ∈ text, isLineBreak c = false) {line : Text}
    (filled : line.reverse ++ text ≠ []) : splitLines line text = [line.reverse ++ text] := by
  induction text generalizing line with
  | nil =>
      rw [List.append_nil] at filled
      rw [splitLines, if_neg (by simpa using filled), List.append_nil]
  | cons c text ih =>
      obtain ⟨here, later⟩ := List.forall_mem_cons.mp plain
      have other : c ≠ '\r' := by
        rintro rfl
        exact absurd here (by decide)
      have moved : (c :: line).reverse ++ text = line.reverse ++ c :: text := by
        rw [List.reverse_cons, List.append_assoc]
        rfl
      rw [splitLines, if_neg (by rw [here]; exact Bool.false_ne_true), ih later (by rw [moved]; exact filled), moved]
      simp [other]

theorem splitLines_intercalate {lines : List Text} (plain : ∀ line ∈ lines, ∀ c ∈ line, isLineBreak c = false)
    (filled : ∀ line ∈ lines, line ≠ []) : splitLines [] (['\n'].intercalate lines) = lines := by
  induction lines with
  | nil => rfl
  | cons line rest ih =>
      obtain ⟨here, later⟩ := List.forall_mem_cons.mp plain
      obtain ⟨nonempty, others⟩ := List.forall_mem_cons.mp filled
      cases rest with
      | nil =>
          rw [List.intercalate_singleton]
          exact splitLines_last here nonempty
      | cons second rest =>
          rw [List.intercalate_cons_cons, List.append_assoc]
          exact (splitLines_line here [] _).trans (congrArg (line :: ·) (ih later others))

/-! ### Lines that newlines end -/

theorem splitLines_cons {c : Char} {rest : Text} (single : c = '\r' → rest.head? ≠ some '\n') (line : Text) :
    splitLines line (c :: rest) =
      if isLineBreak c then line.reverse :: splitLines [] rest else splitLines (c :: line) rest := by
  rw [splitLines]
  rintro after rfl rfl
  exact single rfl rfl

/-- What comes after a newline is cut by itself. -/
theorem splitLines_append_newline {text : Text} (whole : '\n' ∉ text) (line rest : Text) :
    splitLines line (text ++ '\n' :: rest) = splitLines line (text ++ ['\n']) ++ splitLines [] rest := by
  induction text generalizing line with
  | nil =>
      have other : '\n' ≠ '\r' := by decide
      rw [List.nil_append, List.nil_append, splitLines_cons fun same => absurd same other,
        splitLines_cons fun same => absurd same other, if_pos (by decide), if_pos (by decide)]
      rfl
  | cons c text ih =>
      rw [List.mem_cons, not_or] at whole
      have ih := ih whole.2
      by_cases joined : c = '\r' ∧ text = []
      · obtain ⟨rfl, rfl⟩ := joined
        rfl
      · have single (after : Text) : c = '\r' → (text ++ '\n' :: after).head? ≠ some '\n' := by
          intro carriage first
          cases text with
          | nil => exact joined ⟨carriage, rfl⟩
          | cons d text =>
              rw [List.cons_append, List.head?_cons, Option.some.injEq] at first
              exact whole.2 (first ▸ List.mem_cons_self)
        rw [List.cons_append, List.cons_append, splitLines_cons (single rest), splitLines_cons (single [])]
        split
        · rw [ih, List.cons_append]
        · exact ih _

theorem splitLines_unlines_append {lines : List Text} (whole : ∀ line ∈ lines, '\n' ∉ line) (rest : Text) :
    splitLines [] (unlines lines ++ rest) =
      lines.flatMap (fun line => splitLines [] (line ++ ['\n'])) ++ splitLines [] rest := by
  induction lines with
  | nil => rfl
  | cons line lines ih =>
      obtain ⟨here, later⟩ := List.forall_mem_cons.mp whole
      rw [unlines_cons, List.append_assoc, List.cons_append, splitLines_append_newline here, ih later,
        List.flatMap_cons, List.append_assoc]

/-- The first line goes up to the first boundary. -/
theorem head_splitLines {line text : Text} (filled : line ≠ [] ∨ text ≠ []) :
    (splitLines line text).head? = some (line.reverse ++ text.takeWhile fun c => !isLineBreak c) := by
  induction text generalizing line with
  | nil =>
      rw [splitLines, if_neg (filled.resolve_right fun absent => absent rfl), List.takeWhile_nil, List.append_nil]
      rfl
  | cons c text ih =>
      by_cases joined : c = '\r' ∧ text.head? = some '\n'
      · obtain ⟨rfl, first⟩ := joined
        cases text with
        | nil => cases first
        | cons d text =>
            rw [List.head?_cons, Option.some.injEq] at first
            subst first
            rw [splitLines, List.head?_cons, List.takeWhile_cons_of_neg (by decide), List.append_nil]
      · rw [splitLines_cons fun carriage first => joined ⟨carriage, first⟩]
        cases boundary : isLineBreak c with
        | true =>
            rw [if_pos rfl, List.head?_cons, List.takeWhile_cons_of_neg (by rw [boundary]; decide), List.append_nil]
        | false =>
            rw [if_neg Bool.false_ne_true, ih (.inl (List.cons_ne_nil c line)),
              List.takeWhile_cons_of_pos (by rw [boundary]; rfl), List.reverse_cons, List.append_assoc]
            rfl

theorem assigns_assignment (name value : Text) : assigns name (assignment name value) = true := by
  rw [assigns, List.isPrefixOf_iff_prefix]
  exact ⟨value, by simp [assignment]⟩

theorem readLine_assignment (name current value : Text) : readLine name current (assignment name value) = value := by
  rw [readLine, if_pos (assigns_assignment name value)]
  simp [assignment]

theorem foldl_readLine {name value : Text} {lines : List Text}
    (uniform : ∀ line ∈ lines, assigns name line = true → line = assignment name value) :
    ∀ current, lines.foldl (readLine name) current = if lines.any (assigns name) then value else current := by
  induction lines with
  | nil => simp
  | cons line lines later =>
      intro current
      have rest := later fun other member => uniform other (List.mem_cons_of_mem _ member)
      rw [List.foldl_cons, rest]
      by_cases here : assigns name line = true
      · rw [uniform line List.mem_cons_self here, readLine_assignment]
        simp [assigns_assignment]
      · simp [readLine, here]

/-- A rewritten line is one that was there and is no assignment to the name, or the new assignment. -/
theorem mem_rewriteLines {name value line : Text} {lines : List Text} (member : line ∈ rewriteLines name value lines) :
    line ∈ lines ∧ assigns name line = false ∨ line = assignment name value := by
  have rewritten : ∀ line ∈ lines.map fun line => if assigns name line then assignment name value else line,
      line ∈ lines ∧ assigns name line = false ∨ line = assignment name value := by
    intro line inside
    obtain ⟨original, present, rfl⟩ := List.mem_map.mp inside
    by_cases assigned : assigns name original = true
    · simp [assigned]
    · simp [assigned, present]
  unfold rewriteLines at member
  split at member
  · exact rewritten line member
  · rcases List.mem_append.mp member with inside | last
    · exact rewritten line inside
    · exact .inr (List.mem_singleton.mp last)

theorem assignment_mem_rewriteLines (name value : Text) (lines : List Text) :
    assignment name value ∈ rewriteLines name value lines := by
  unfold rewriteLines
  split
  · rename_i found
    obtain ⟨line, inside, here⟩ := List.any_eq_true.mp found
    exact List.mem_map.mpr ⟨line, inside, by simp [here]⟩
  · exact List.mem_append_right _ (List.mem_singleton_self _)

theorem rewriteLines_ne_nil (name value : Text) (lines : List Text) : rewriteLines name value lines ≠ [] :=
  List.ne_nil_of_mem (assignment_mem_rewriteLines name value lines)

/-- The other lines stay in their order. -/
theorem filter_rewriteLines (name value : Text) (lines : List Text) :
    (rewriteLines name value lines).filter (fun line => !assigns name line) =
      lines.filter fun line => !assigns name line := by
  have rewritten : (lines.map fun line => if assigns name line then assignment name value else line).filter
      (fun line => !assigns name line) = lines.filter fun line => !assigns name line := by
    induction lines with
    | nil => rfl
    | cons line lines ih =>
        by_cases here : assigns name line = true
        · simpa [here, assigns_assignment] using ih
        · simpa [here] using ih
  have added : [assignment name value].filter (fun line => !assigns name line) = [] := by
    simp [assigns_assignment]
  unfold rewriteLines
  split
  · exact rewritten
  · rw [List.filter_append, rewritten, added, List.append_nil]

/-- The last rewrite counts. -/
theorem rewriteLines_rewriteLines (name first second : Text) (lines : List Text) :
    rewriteLines name second (rewriteLines name first lines) = rewriteLines name second lines := by
  have found : (rewriteLines name first lines).any (assigns name) = true :=
    List.any_eq_true.mpr ⟨_, assignment_mem_rewriteLines name first lines, assigns_assignment name first⟩
  have twice : ∀ line, (if assigns name (if assigns name line then assignment name first else line) then
      assignment name second else if assigns name line then assignment name first else line) =
      if assigns name line then assignment name second else line := by
    intro line
    by_cases here : assigns name line = true
    · simp [here, assigns_assignment]
    · simp [here]
  rw [rewriteLines, if_pos found]
  unfold rewriteLines
  split
  · simp [twice]
  · simp [twice, assigns_assignment]

theorem setVariable_eq_unlines (name value text : Text) :
    setVariable name value text = unlines (rewriteLines name value (splitLines [] text)) :=
  intercalate_newline (rewriteLines_ne_nil name value _)

/-- What is written is read back line by line. -/
theorem splitLines_setVariable {name value : Text} (plain : ∀ c ∈ assignment name value, isLineBreak c = false)
    (text : Text) : splitLines [] (setVariable name value text) = rewriteLines name value (splitLines [] text) := by
  rw [setVariable_eq_unlines, splitLines_unlines]
  intro line member
  rcases mem_rewriteLines member with ⟨inside, -⟩ | rfl
  · exact plain_of_mem_splitLines (by simp) line inside
  · exact plain

/-- Rewriting twice is rewriting with the second value. -/
theorem setVariable_setVariable {name first : Text} (plain : ∀ c ∈ assignment name first, isLineBreak c = false)
    (second text : Text) : setVariable name second (setVariable name first text) = setVariable name second text := by
  rw [setVariable, splitLines_setVariable plain, rewriteLines_rewriteLines, setVariable]

theorem intercalate_append_nil (separator : Text) {lines : List Text} (nonempty : lines ≠ []) :
    separator.intercalate lines ++ separator = separator.intercalate (lines ++ [[]]) := by
  induction lines with
  | nil => exact absurd rfl nonempty
  | cons line rest later =>
      cases rest with
      | nil => simp [List.intercalate_cons_cons]
      | cons second rest =>
          rw [List.intercalate_cons_cons, List.append_assoc, later (by simp)]
          simp [List.intercalate_cons_cons]

/-- Sourcing a rewritten file gives the variable the value it was rewritten to. -/
theorem getVariable_setVariable {name value : Text} (plainName : '\n' ∉ name) (plainValue : '\n' ∉ value)
    (text : Text) : getVariable name (setVariable name value text) = value := by
  let lines := rewriteLines name value (splitLines [] text)
  have written : assignment name value ∈ lines := assignment_mem_rewriteLines name value _
  have plain : ∀ line ∈ lines, '\n' ∉ line := by
    intro line member
    rcases mem_rewriteLines member with ⟨inside, -⟩ | rfl
    · exact newline_not_mem_splitLines text line inside
    · simp [assignment, plainName, plainValue]
  have uniform : ∀ line ∈ lines, assigns name line = true → line = assignment name value := by
    intro line member assigned
    rcases mem_rewriteLines member with ⟨-, other⟩ | same
    · simp [other] at assigned
    · exact same
  have found : lines.any (assigns name) = true := List.any_eq_true.mpr ⟨_, written, assigns_assignment name value⟩
  -- The final newline leaves one empty line, which assigns nothing.
  have read : (setVariable name value text).splitOn '\n' = lines ++ [[]] := by
    rw [setVariable, intercalate_append_nil _ (List.ne_nil_of_mem written)]
    refine List.splitOn_intercalate '\n' ?_ (by simp)
    intro line member
    rcases List.mem_append.mp member with inside | last
    · exact plain line inside
    · simp [List.mem_singleton.mp last]
  rw [getVariable, read, List.foldl_append, foldl_readLine uniform, if_pos found]
  simp [readLine, assigns]

end DeepOrc.Lib.EnvFile

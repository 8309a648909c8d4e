import DeepOrc.Lib.EnvFile

/-!
# Filters of lines

`grep -m1`, `cut`, `tr -d`, `sed -n s///p` and `head -1` in the forms that pick one setting out of a file, and that a
setting on a line of its own is picked.
-/

namespace DeepOrc.Lib.LineFilters

open Lib.EnvFile (Text unlines unlines_cons)

/-! ### The filters -/

/-- What a filter takes for lines: a newline at the end begins no other. -/
def inputLines (text : Text) : List Text :=
  if (text.splitOn '\n').getLast? = some [] then (text.splitOn '\n').dropLast else text.splitOn '\n'

/-- `grep -m1 '^start'` -/
def grepFirst (start text : Text) : Text := unlines ((inputLines text).find? fun line => start.isPrefixOf line).toList

/-- A line without the separator is kept whole. -/
def secondField (separator : Char) (line : Text) : Text :=
  if line.contains separator then ((line.splitOn separator)[1]?).getD [] else line

/-- `cut -d separator -f2` -/
def cutSecond (separator : Char) (text : Text) : Text := unlines ((inputLines text).map (secondField separator))

/-- `tr -d` -/
def deleteChars (chars text : Text) : Text := text.filter fun c => !chars.contains c

/-- `sed -n 's/^start//p'` -/
def stripStart (start text : Text) : Text :=
  unlines (((inputLines text).filter fun line => start.isPrefixOf line).map fun line => line.drop start.length)

/-- `head -1` -/
def firstLine (text : Text) : Text := unlines ((inputLines text).take 1)

/-- `$(…)`: newlines at the end go. -/
def substituted (text : Text) : Text := (text.reverse.dropWhile fun c => c == '\n').reverse

/-- `$(grep -m1 '^name' … | cut -d= -f2 | tr -d ' ')` -/
def setting (name text : Text) : Text := substituted (deleteChars [' '] (cutSecond '=' (grepFirst name text)))

/-! ### Lines -/

theorem splitOn_unlines {lines : List Text} (whole : ∀ line ∈ lines, '\n' ∉ line) :
    (unlines lines).splitOn '\n' = lines ++ [[]] := by
  induction lines with
  | nil => rfl
  | cons line lines ih =>
      obtain ⟨here, later⟩ := List.forall_mem_cons.mp whole
      rw [unlines_cons, List.splitOn_append_cons_self, List.splitOn_eq_singleton here, ih later]
      rfl

theorem inputLines_unlines {lines : List Text} (whole : ∀ line ∈ lines, '\n' ∉ line) :
    inputLines (unlines lines) = lines := by
  rw [inputLines, splitOn_unlines whole, List.getLast?_concat, if_pos rfl, List.dropLast_concat]

/-- A last line without its newline. -/
theorem inputLines_unlines_append {lines : List Text} (whole : ∀ line ∈ lines, '\n' ∉ line) {last : Text}
    (wholeLast : '\n' ∉ last) (filled : last ≠ []) : inputLines (unlines lines ++ last) = lines ++ [last] := by
  have cut : (unlines lines ++ last).splitOn '\n' = lines ++ [last] := by
    induction lines with
    | nil => exact List.splitOn_eq_singleton wholeLast
    | cons line lines ih =>
        obtain ⟨here, later⟩ := List.forall_mem_cons.mp whole
        rw [unlines_cons, List.append_assoc, List.cons_append, List.splitOn_append_cons_self,
          List.splitOn_eq_singleton here, ih later]
        rfl
  rw [inputLines, cut, List.getLast?_concat, if_neg fun empty => filled (Option.some.inj empty)]

theorem unlines_single (line : Text) : unlines [line] = line ++ ['\n'] := by
  rw [unlines, List.flatMap_cons, List.flatMap_nil, List.append_nil]

theorem substituted_line {line : Text} (whole : '\n' ∉ line) : substituted (line ++ ['\n']) = line := by
  have kept : line.reverse.dropWhile (fun c => c == '\n') = line.reverse := by
    cases reversed : line.reverse with
    | nil => rfl
    | cons c rest =>
        have member : c ∈ line := List.mem_reverse.mp (reversed ▸ List.mem_cons_self)
        have other : ¬ (c == '\n') = true := fun same => whole (beq_iff_eq.mp same ▸ member)
        exact List.dropWhile_cons_of_neg other
  have first : (['\n'] ++ line.reverse).dropWhile (fun c => c == '\n') = line.reverse.dropWhile fun c => c == '\n' :=
    List.dropWhile_cons_of_pos rfl
  rw [substituted, List.reverse_append, List.reverse_singleton, first, kept, List.reverse_reverse]

/-! ### Picking a setting -/

section Setting

variable {before after : List Text} {line : Text} (whole : ∀ other ∈ before ++ line :: after, '\n' ∉ other)

include whole

theorem grepFirst_unlines {start : Text} (others : ∀ other ∈ before, start.isPrefixOf other = false)
    (matched : start.isPrefixOf line = true) :
    grepFirst start (unlines (before ++ line :: after)) = line ++ ['\n'] := by
  have found : (before ++ line :: after).find? (fun other => start.isPrefixOf other) = some line := by
    have none : before.find? (fun other => start.isPrefixOf other) = none :=
      List.find?_eq_none.mpr fun other member => by
        rw [others other member]
        exact Bool.false_ne_true
    rw [List.find?_append, none, Option.none_or, List.find?_cons_of_pos matched]
  rw [grepFirst, inputLines_unlines whole, found]
  exact unlines_single line

theorem stripStart_unlines {start : Text} (others : ∀ other ∈ before ++ after, start.isPrefixOf other = false)
    (matched : start.isPrefixOf line = true) :
    stripStart start (unlines (before ++ line :: after)) = line.drop start.length ++ ['\n'] := by
  have none (lines : List Text) (inside : ∀ other ∈ lines, other ∈ before ++ after) :
      lines.filter (fun other => start.isPrefixOf other) = [] :=
    List.filter_eq_nil_iff.mpr fun other member => by rw [others other (inside other member)]; decide
  rw [stripStart, inputLines_unlines whole, List.filter_append, none before fun _ => List.mem_append_left _,
    List.filter_cons_of_pos matched, none after fun _ => List.mem_append_right _]
  exact unlines_single _

/-- The value of the first line that begins with the name, without its blanks. -/
theorem setting_unlines {name gap value : Text} (text : line = name ++ gap ++ '=' :: value)
    (others : ∀ other ∈ before, name.isPrefixOf other = false) (plainName : '=' ∉ name ++ gap)
    (plainValue : '=' ∉ value) :
    setting name (unlines (before ++ line :: after)) = value.filter fun c => !([' '] : Text).contains c := by
  have matched : name.isPrefixOf line = true := by
    rw [text, List.append_assoc]
    exact List.isPrefixOf_iff_prefix.mpr (List.prefix_append name _)
  have alone : ∀ other ∈ [line], '\n' ∉ other := by
    intro other member
    rw [List.mem_singleton.mp member]
    exact whole line (List.mem_append_right before List.mem_cons_self)
  have fields : secondField '=' line = value := by
    have separated : line.contains '=' = true := by
      rw [text, List.contains_iff_mem]
      exact List.mem_append_right _ List.mem_cons_self
    rw [secondField, if_pos separated, text, List.splitOn_append_cons_self, List.splitOn_eq_singleton plainName,
      List.splitOn_eq_singleton plainValue]
    rfl
  have wholeValue : '\n' ∉ value := by
    intro member
    apply alone line (List.mem_singleton_self line)
    rw [text]
    exact List.mem_append_right _ (List.mem_cons_of_mem _ member)
  have wholeKept : '\n' ∉ value.filter fun c => !([' '] : Text).contains c :=
    fun member => wholeValue (List.mem_filter.mp member).1
  have deleted : deleteChars [' '] (value ++ ['\n']) =
      value.filter (fun c => !([' '] : Text).contains c) ++ ['\n'] := by
    rw [deleteChars, List.filter_append]
    rfl
  rw [setting, grepFirst_unlines whole others matched, ← unlines_single, cutSecond, inputLines_unlines alone,
    List.map_cons, List.map_nil, fields, unlines_single, deleted, substituted_line wholeKept]

end Setting

end DeepOrc.Lib.LineFilters

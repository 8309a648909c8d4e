import DeepOrc.Lib.EnvFile
import DeepOrc.Lib.Fields

/-!
# Rows of words

Text in lines, each of words with a separator between them. Readers that trim the text and split it in different
ways get the same rows and words out of it.
-/

namespace DeepOrc.Lib.Rows

open Fields (Text trim Framed)
open EnvFile (isLineBreak splitLines unlines)

structure Word (blank : Char → Bool) where
  text : Text
  filled : text ≠ []
  plain : ∀ c ∈ text, blank c = false

variable {blank : Char → Bool}

def row (separator : Char) (words : List (Word blank)) : Text := [separator].intercalate (words.map Word.text)

/-- One row a line. -/
def layout (separator : Char) (rows : List (List (Word blank))) : Text := unlines (rows.map (row separator))

theorem mem_row {separator c : Char} {words : List (Word blank)} (member : c ∈ row separator words) :
    c = separator ∨ blank c = false := by
  unfold row at member
  induction words with
  | nil => exact absurd member List.not_mem_nil
  | cons word words ih =>
      by_cases last : words = []
      · rw [last, List.map_singleton, List.intercalate_singleton] at member
        exact .inr (word.plain c member)
      · have more : words.map Word.text ≠ [] := by simpa using last
        rw [List.map_cons, List.intercalate_cons_of_ne_nil more, List.mem_append, List.mem_append] at member
        rcases member with (inside | between) | later
        · exact .inr (word.plain c inside)
        · exact .inl (List.mem_singleton.mp between)
        · exact ih later

/-- The words of a row come back where the separator is a blank. -/
theorem splitOn_row {separator : Char} (apart : blank separator = true) {words : List (Word blank)}
    (nonempty : words ≠ []) : (row separator words).splitOn separator = words.map Word.text := by
  refine List.splitOn_intercalate separator (fun text member inside => ?_) (by simpa using nonempty)
  obtain ⟨word, -, rfl⟩ := List.mem_map.mp member
  rw [word.plain separator inside] at apart
  cases apart

theorem row_framed {separator : Char} {words : List (Word blank)} (nonempty : words ≠ []) {trimmed : Char → Bool}
    (narrow : ∀ c, blank c = false → trimmed c = false) : Framed trimmed (row separator words) := by
  apply Fields.framed_intercalate _ (by simpa using nonempty)
  intro text member
  obtain ⟨word, -, rfl⟩ := List.mem_map.mp member
  exact Fields.framed_of_solid word.filled fun c inside => narrow c (word.plain c inside)

section Layout

variable {separator : Char} {rows : List (List (Word blank))} (nonempty : rows ≠ []) (filled : ∀ words ∈ rows, words ≠ [])

include nonempty filled

/-- Trimming takes off the newline at the end. -/
theorem trim_layout {trimmed : Char → Bool} (narrow : ∀ c, blank c = false → trimmed c = false)
    (newline : trimmed '\n' = true) :
    trim trimmed (layout separator rows) = ['\n'].intercalate (rows.map (row separator)) := by
  have some_row : rows.map (row separator) ≠ [] := by simpa using nonempty
  have framed : Framed trimmed (['\n'].intercalate (rows.map (row separator))) := by
    apply Fields.framed_intercalate _ some_row
    intro line member
    obtain ⟨words, inside, rfl⟩ := List.mem_map.mp member
    exact row_framed (filled words inside) narrow
  rw [layout, ← EnvFile.intercalate_newline some_row]
  exact framed.trim_append newline

theorem splitOn_layout {trimmed : Char → Bool} (narrow : ∀ c, blank c = false → trimmed c = false)
    (newline : trimmed '\n' = true) (other : '\n' ≠ separator) :
    (trim trimmed (layout separator rows)).splitOn '\n' = rows.map (row separator) := by
  rw [trim_layout nonempty filled narrow newline]
  refine List.splitOn_intercalate '\n' (fun line member inside => ?_) (by simpa using nonempty)
  obtain ⟨words, -, rfl⟩ := List.mem_map.mp member
  rcases mem_row inside with same | solid
  · exact other same
  · rw [narrow '\n' solid] at newline
    cases newline

theorem splitLines_layout {trimmed : Char → Bool} (narrow : ∀ c, blank c = false → trimmed c = false)
    (breaks : ∀ c, blank c = false → isLineBreak c = false) (newline : trimmed '\n' = true)
    (inLine : isLineBreak separator = false) :
    splitLines [] (trim trimmed (layout separator rows)) = rows.map (row separator) := by
  rw [trim_layout nonempty filled narrow newline]
  apply EnvFile.splitLines_intercalate
  · intro line member c inside
    obtain ⟨words, -, rfl⟩ := List.mem_map.mp member
    rcases mem_row inside with rfl | solid
    · exact inLine
    · exact breaks c solid
  · intro line member
    obtain ⟨words, present, rfl⟩ := List.mem_map.mp member
    exact (row_framed (filled words present) narrow).filled

end Layout

end DeepOrc.Lib.Rows

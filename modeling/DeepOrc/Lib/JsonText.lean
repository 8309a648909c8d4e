import DeepOrc.Lib.Json
import Mathlib.Data.Bool.AllAny
import Mathlib.Data.List.TakeWhile

/-!
# Reading JSON

A reader for documents with blanks anywhere between the tokens, and that it reads back what an encoder wrote, however
the encoder escapes characters and lays the document out.
-/

namespace DeepOrc.Lib.Json

/-! ### Strings -/

def isBlank (c : Char) : Bool := c = ' ' || c = '\t' || c = '\n' || c = '\r'

def skipBlanks (text : Text) : Text := text.dropWhile isBlank

def hexValue (c : Char) : Option Nat :=
  if c.isDigit then some (c.toNat - 48)
  else if 'a' ≤ c ∧ c ≤ 'f' then some (c.toNat - 87)
  else if 'A' ≤ c ∧ c ≤ 'F' then some (c.toNat - 55)
  else none

/-- The four digits after `\u`. -/
def readUnit : Text → Option (Nat × Text)
  | a :: b :: c :: d :: rest =>
      (hexValue a).bind fun a => (hexValue b).bind fun b => (hexValue c).bind fun c => (hexValue d).map fun d =>
        (((a * 16 + b) * 16 + c) * 16 + d, rest)
  | _ => none

def isHigh (unit : Nat) : Bool := 0xd800 ≤ unit && unit < 0xdc00

def isLow (unit : Nat) : Bool := 0xdc00 ≤ unit && unit < 0xe000

/-- The second half of a character in two units. -/
def readLow : Text → Option (Nat × Text)
  | '\\' :: 'u' :: rest => (readUnit rest).filter fun found => isLow found.1
  | _ => none

/-- A unit that is half of a character without the other half is replaced. -/
def readEscaped (text : Text) : Option (Char × Text) :=
  (readUnit text).map fun found =>
    if isHigh found.1 then
      match readLow found.2 with
      | some low => (Char.ofNat (0x10000 + (found.1 - 0xd800) * 1024 + (low.1 - 0xdc00)), low.2)
      | none => ('\ufffd', found.2)
    else if isLow found.1 then ('\ufffd', found.2)
    else (Char.ofNat found.1, found.2)

/-- What stands for itself or for a control character after a backslash. -/
def shortEscapes : List (Char × Char) :=
  [('"', '"'), ('\\', '\\'), ('/', '/'), ('b', '\x08'), ('f', '\x0c'), ('n', '\n'), ('r', '\r'), ('t', '\t')]

/-- One character of a string, or what stands for it. -/
def readChar : Text → Option (Char × Text)
  | [] => none
  | '\\' :: [] => none
  | '\\' :: c :: rest =>
      if c = 'u' then readEscaped rest
      else (shortEscapes.find? fun entry => entry.1 = c).map fun entry => (entry.2, rest)
  | c :: rest => if c = '"' ∨ c.toNat < 32 then none else some (c, rest)

/-- The rest of a string whose opening quote stands before it. -/
def readString : Nat → Text → Option (Text × Text)
  | 0, _ => none
  | _ + 1, '"' :: rest => some ([], rest)
  | fuel + 1, text => (readChar text).bind fun first =>
      (readString fuel first.2).map fun others => (first.1 :: others.1, others.2)

/-! ### Documents -/

def isNumeric (c : Char) : Bool := c.isDigit || ['+', '-', '.', 'e', 'E'].contains c

theorem numeric_takeWhile (text : Text) : ∀ c ∈ text.takeWhile isNumeric, c.isDigit = true ∨ c ∈ ['+', '-', '.', 'e', 'E'] := by
  intro c member
  have numeric := List.mem_takeWhile_imp member
  unfold isNumeric at numeric
  rw [Bool.or_eq_true, List.contains_iff_mem] at numeric
  exact numeric

/-- Past at least one digit. -/
def skipDigits : Text → Option Text
  | c :: rest => if c.isDigit then some (rest.dropWhile Char.isDigit) else none
  | [] => none

/-- Past a whole number, which has no zero in front. -/
def skipWhole : Text → Option Text
  | '0' :: rest => some rest
  | rest => skipDigits rest

def skipFraction : Text → Option Text
  | '.' :: rest => skipDigits rest
  | rest => some rest

def skipExponent : Text → Option Text
  | 'e' :: '+' :: rest | 'e' :: '-' :: rest | 'e' :: rest => skipDigits rest
  | 'E' :: '+' :: rest | 'E' :: '-' :: rest | 'E' :: rest => skipDigits rest
  | rest => some rest

def isNumber (text : Text) : Bool :=
  (((skipWhole (if text.head? = some '-' then text.tail else text)).bind skipFraction).bind skipExponent) = some []

theorem skipWhole_digits {c : Char} {rest : Text} (digits : ∀ d ∈ c :: rest, d.isDigit = true) (nonzero : c ≠ '0') :
    skipWhole (c :: rest) = some [] := by
  have others : rest.dropWhile Char.isDigit = [] :=
    List.dropWhile_eq_nil_iff.mpr fun d member => digits d (List.mem_cons_of_mem c member)
  unfold skipWhole
  split
  · rename_i same
    exact absurd (List.cons.inj same).1 nonzero
  · rw [skipDigits, if_pos (digits c List.mem_cons_self), others]

theorem isNumber_whole {text : Text} (whole : skipWhole text = some []) (unsigned : text.head? ≠ some '-') :
    isNumber text = true := by
  unfold isNumber
  rw [if_neg unsigned, whole]
  rfl

theorem isNumber_negative {text : Text} (whole : skipWhole text = some []) : isNumber ('-' :: text) = true := by
  unfold isNumber
  rw [List.head?_cons, if_pos rfl, List.tail_cons, whole]
  rfl

/-- The longest run of digits, signs and letters of numbers. -/
def readNumber (text : Text) : Option (Json × Text) :=
  if filled : text.takeWhile isNumeric ≠ [] then
    if isNumber (text.takeWhile isNumeric) then
      some (.number ⟨text.takeWhile isNumeric, filled, numeric_takeWhile text⟩, text.dropWhile isNumeric)
    else none
  else none

def expect (word : Text) (value : Json) (text : Text) : Option (Json × Text) :=
  if word.isPrefixOf text then some (value, text.drop word.length) else none

mutual

def readValue : Nat → Text → Option (Json × Text)
  | 0, _ => none
  | fuel + 1, text =>
      match skipBlanks text with
      | '"' :: rest => (readString (rest.length + 1) rest).map fun found => (.string found.1, found.2)
      | '[' :: rest =>
          match skipBlanks rest with
          | ']' :: rest => some (.array [], rest)
          | rest => (readItems fuel rest).map fun found => (.array found.1, found.2)
      | '{' :: rest =>
          match skipBlanks rest with
          | '}' :: rest => some (.object [], rest)
          | rest => (readMembers fuel rest).map fun found => (.object found.1, found.2)
      | 'n' :: rest => expect ['u', 'l', 'l'] .null rest
      | 't' :: rest => expect ['r', 'u', 'e'] (.bool true) rest
      | 'f' :: rest => expect ['a', 'l', 's', 'e'] (.bool false) rest
      | rest => readNumber rest

/-- From an item to the end of its array. -/
def readItems : Nat → Text → Option (List Json × Text)
  | 0, _ => none
  | fuel + 1, text =>
      (readValue fuel text).bind fun item =>
        match skipBlanks item.2 with
        | ']' :: rest => some ([item.1], rest)
        | ',' :: rest => (readItems fuel rest).map fun items => (item.1 :: items.1, items.2)
        | _ => none

/-- From a member to the end of its object. -/
def readMembers : Nat → Text → Option (List (Text × Json) × Text)
  | 0, _ => none
  | fuel + 1, text =>
      match skipBlanks text with
      | '"' :: rest =>
          (readString (rest.length + 1) rest).bind fun key =>
            match skipBlanks key.2 with
            | ':' :: rest =>
                (readValue fuel rest).bind fun value =>
                  match skipBlanks value.2 with
                  | '}' :: rest => some ([(key.1, value.1)], rest)
                  | ',' :: rest => (readMembers fuel rest).map fun members => ((key.1, value.1) :: members.1, members.2)
                  | _ => none
            | _ => none
      | _ => none

end

/-- A document and nothing after it but blanks. -/
def parse (text : Text) : Option Json :=
  (readValue (text.length + 1) text).bind fun found => if skipBlanks found.2 = [] then some found.1 else none

/-! ### Encoders -/

/-- What an encoder is free to choose: how it writes a character of a string, and the blanks at a depth after an opening
bracket, after a comma, before a closing bracket, and after a colon. -/
structure Style where
  escape : Char → Text
  first : Nat → Text
  between : Nat → Text
  last : Nat → Text
  colon : Text

def Style.string (style : Style) (text rest : Text) : Text := '"' :: (text.flatMap style.escape ++ '"' :: rest)

mutual

def write (style : Style) (depth : Nat) : Json → Text
  | .null => ['n', 'u', 'l', 'l']
  | .bool true => ['t', 'r', 'u', 'e']
  | .bool false => ['f', 'a', 'l', 's', 'e']
  | .number literal => literal.text
  | .string text => style.string text []
  | .array [] => ['[', ']']
  | .array (item :: items) => '[' :: (style.first (depth + 1) ++ write style (depth + 1) item ++ writeItems style depth items)
  | .object [] => ['{', '}']
  | .object ((key, value) :: members) =>
      '{' :: (style.first (depth + 1) ++
        style.string key (':' :: (style.colon ++ write style (depth + 1) value ++ writeMembers style depth members)))

def writeItems (style : Style) (depth : Nat) : List Json → Text
  | [] => style.last depth ++ [']']
  | item :: items => ',' :: (style.between (depth + 1) ++ write style (depth + 1) item ++ writeItems style depth items)

def writeMembers (style : Style) (depth : Nat) : List (Text × Json) → Text
  | [] => style.last depth ++ ['}']
  | (key, value) :: members =>
      ',' :: (style.between (depth + 1) ++
        style.string key (':' :: (style.colon ++ write style (depth + 1) value ++ writeMembers style depth members)))

end

mutual

/-- Its numbers are numbers. -/
def Sound : Json → Prop
  | .null => True
  | .bool _ => True
  | .number literal => isNumber literal.text = true
  | .string _ => True
  | .array items => SoundItems items
  | .object members => SoundMembers members

def SoundItems : List Json → Prop
  | [] => True
  | item :: items => Sound item ∧ SoundItems items

def SoundMembers : List (Text × Json) → Prop
  | [] => True
  | (_, value) :: members => Sound value ∧ SoundMembers members

end

def Blank (text : Text) : Prop := ∀ c ∈ text, isBlank c = true

/-- A character is read back from what is written for it, and there are only blanks where there may be. -/
structure Style.Readable (style : Style) : Prop where
  escape : ∀ c rest, readChar (style.escape c ++ rest) = some (c, rest)
  first : ∀ depth, Blank (style.first depth)
  between : ∀ depth, Blank (style.between depth)
  last : ∀ depth, Blank (style.last depth)
  colon : Blank style.colon

/-! ### What the reader passes over -/

theorem skipBlanks_blank {blank : Text} (only : Blank blank) (rest : Text) : skipBlanks (blank ++ rest) = skipBlanks rest := by
  unfold skipBlanks
  rw [List.dropWhile_append_of_pos only]

theorem skipBlanks_cons {c : Char} (solid : isBlank c = false) (rest : Text) : skipBlanks (c :: rest) = c :: rest :=
  List.dropWhile_cons_of_neg (by rw [solid]; decide)

theorem readValue_blank {blank : Text} (only : Blank blank) (fuel : Nat) (text : Text) :
    readValue fuel (blank ++ text) = readValue fuel text := by
  cases fuel with
  | zero => rfl
  | succ fuel => simp only [readValue, skipBlanks_blank only]

theorem readItems_blank {blank : Text} (only : Blank blank) (fuel : Nat) (text : Text) :
    readItems fuel (blank ++ text) = readItems fuel text := by
  cases fuel with
  | zero => rfl
  | succ fuel => simp only [readItems, readValue_blank only]

theorem readMembers_blank {blank : Text} (only : Blank blank) (fuel : Nat) (text : Text) :
    readMembers fuel (blank ++ text) = readMembers fuel text := by
  cases fuel with
  | zero => rfl
  | succ fuel => simp only [readMembers, skipBlanks_blank only]

/-! ### Characters that encoders escape -/

theorem hexValue_hexDigit : ∀ n < 16, hexValue (hexDigit n) = some n := by decide

theorem readUnit_hexDigits {n : Nat} (small : n < 0x10000) (rest : Text) :
    readUnit (hexDigit (n / 4096 % 16) :: hexDigit (n / 256 % 16) :: hexDigit (n / 16 % 16) :: hexDigit (n % 16) :: rest) =
      some (n, rest) := by
  have digit (k : Nat) : hexValue (hexDigit (k % 16)) = some (k % 16) := hexValue_hexDigit _ (Nat.mod_lt k (by decide))
  have whole : ((n / 4096 % 16 * 16 + n / 256 % 16) * 16 + n / 16 % 16) * 16 + n % 16 = n := by omega
  simp only [readUnit, digit, Option.bind_some, Option.map_some, whole]

theorem readChar_self {c : Char} (quote : c ≠ '"') (backslash : c ≠ '\\') (printed : 32 ≤ c.toNat) (rest : Text) :
    readChar (c :: rest) = some (c, rest) := by
  have apart : ¬ (c = '"' ∨ c.toNat < 32) := not_or.mpr ⟨quote, Nat.not_lt.mpr printed⟩
  unfold readChar
  split
  · rename_i same
    cases same
  · rename_i same
    exact absurd (List.cons.inj same).1 backslash
  · rename_i same
    exact absurd (List.cons.inj same).1 backslash
  · rename_i same
    obtain ⟨rfl, rfl⟩ := List.cons.inj same
    rw [if_neg apart]

/-- No character has the number of half a character. -/
theorem not_half (c : Char) : isHigh c.toNat = false ∧ isLow c.toNat = false := by
  have valid : c.toNat < 0xd800 ∨ 0xdfff < c.toNat ∧ c.toNat < 0x110000 := c.valid
  simp only [isHigh, isLow, Bool.and_eq_false_iff, decide_eq_false_iff_not]
  omega

theorem readChar_unit {c : Char} (small : c.toNat < 0x10000) (rest : Text) :
    readChar ('\\' :: 'u' :: hexDigit (c.toNat / 4096 % 16) :: hexDigit (c.toNat / 256 % 16) ::
      hexDigit (c.toNat / 16 % 16) :: hexDigit (c.toNat % 16) :: rest) = some (c, rest) := by
  obtain ⟨high, low⟩ := not_half c
  have unit := readUnit_hexDigits small rest
  simp only [readChar, if_pos, readEscaped, unit, Option.map_some, high, low, Bool.false_eq_true, if_false, Char.ofNat_toNat]

theorem readChar_pair {c : Char} (large : 0x10000 ≤ c.toNat) (rest : Text) {first second : Nat}
    (high : first = 0xd800 + (c.toNat - 0x10000) / 1024) (low : second = 0xdc00 + (c.toNat - 0x10000) % 1024) :
    readChar ('\\' :: 'u' :: hexDigit (first / 4096 % 16) :: hexDigit (first / 256 % 16) ::
      hexDigit (first / 16 % 16) :: hexDigit (first % 16) :: '\\' :: 'u' :: hexDigit (second / 4096 % 16) ::
        hexDigit (second / 256 % 16) :: hexDigit (second / 16 % 16) :: hexDigit (second % 16) :: rest) = some (c, rest) := by
  have valid : c.toNat < 0xd800 ∨ 0xdfff < c.toNat ∧ c.toNat < 0x110000 := c.valid
  have isFirst : isHigh first = true := by
    simp only [isHigh, Bool.and_eq_true, decide_eq_true_eq]
    omega
  have isSecond : isLow second = true := by
    simp only [isLow, Bool.and_eq_true, decide_eq_true_eq]
    omega
  have whole : 0x10000 + (first - 0xd800) * 1024 + (second - 0xdc00) = c.toNat := by omega
  have firstUnit (later : Text) := readUnit_hexDigits (n := first) (by omega) later
  have secondUnit := readUnit_hexDigits (n := second) (by omega) rest
  simp only [readChar, if_pos, readEscaped, firstUnit, Option.map_some, isFirst, readLow, secondUnit,
    Option.filter_some, isSecond, whole, Char.ofNat_toNat]

theorem readChar_escape (c : Char) (rest : Text) : readChar (escape c ++ rest) = some (c, rest) := by
  unfold escape
  split_ifs with quote backslash backspace feed line carriage tab special
  · rw [quote]
    rfl
  · rw [backslash]
    rfl
  · rw [backspace]
    rfl
  · rw [feed]
    rfl
  · rw [line]
    rfl
  · rw [carriage]
    rfl
  · rw [tab]
    rfl
  · have small : c.toNat < 0x10000 := by
      rcases special with control | member
      · omega
      · have all : ∀ c ∈ ['<', '>', '&', '\u2028', '\u2029'], c.toNat < 0x10000 := List.all_iff_forall_prop.mp (by decide)
        exact all c member
    exact readChar_unit small rest
  · obtain ⟨printed, -⟩ := not_or.mp special
    exact readChar_self quote backslash (Nat.not_lt.mp printed) rest

/-- Nothing between the tokens. -/
def compact : Style where
  escape := escape
  first _ := []
  between _ := []
  last _ := []
  colon := []

theorem compact_readable : compact.Readable where
  escape := readChar_escape
  first _ := nofun
  between _ := nofun
  last _ := nofun
  colon := nofun

section Reading

variable {style : Style} {depth : Nat} (readable : style.Readable)

/-! ### Strings are read back -/

theorem readString_of_readChar {fuel : Nat} {text rest : Text} {c : Char} (found : readChar text = some (c, rest)) :
    readString (fuel + 1) text = (readString fuel rest).map fun others => (c :: others.1, others.2) := by
  cases text with
  | nil => cases found
  | cons head tail =>
      by_cases quote : head = '"'
      · subst quote
        cases found
      · have step : readString (fuel + 1) (head :: tail) = (readChar (head :: tail)).bind fun first =>
            (readString fuel first.2).map fun others => (first.1 :: others.1, others.2) := by
          rw [readString]
          intro rest same
          exact quote (List.cons.inj same).1
        rw [step, found, Option.bind_some]

include readable

theorem escape_ne_nil (c : Char) : style.escape c ≠ [] := by
  intro nothing
  have found := readable.escape c []
  rw [nothing] at found
  cases found

theorem length_le_escaped (text : Text) : text.length ≤ (text.flatMap style.escape).length := by
  induction text with
  | nil => exact Nat.le_refl 0
  | cons c text ih =>
      have positive := List.length_pos_iff.mpr (escape_ne_nil readable c)
      rw [List.flatMap_cons, List.length_append, List.length_cons]
      omega

theorem readString_string {fuel : Nat} {text : Text} (enough : text.length < fuel) (rest : Text) :
    readString fuel (text.flatMap style.escape ++ '"' :: rest) = some (text, rest) := by
  induction text generalizing fuel with
  | nil =>
      cases fuel with
      | zero => omega
      | succ fuel => rfl
  | cons c text ih =>
      cases fuel with
      | zero => omega
      | succ fuel =>
          rw [List.length_cons] at enough
          rw [List.flatMap_cons, List.append_assoc, readString_of_readChar (readable.escape c _), ih (by omega), Option.map_some]

theorem readString_all (text rest : Text) :
    readString ((text.flatMap style.escape ++ '"' :: rest).length + 1) (text.flatMap style.escape ++ '"' :: rest) =
      some (text, rest) := by
  refine readString_string readable ?_ rest
  have le := length_le_escaped readable text
  rw [List.length_append]
  omega

omit readable

/-! ### Documents are read back -/

/-- What a document may begin with. -/
def starts (c : Char) : Bool := isNumeric c || ['n', 't', 'f', '"', '[', '{'].contains c

theorem apart_of_starts {c other : Char} (begins : starts c = true) (never : starts other = false) : c ≠ other := by
  rintro rfl
  rw [begins] at never
  cases never

theorem not_blank_of_starts {c : Char} (begins : starts c = true) : isBlank c = false := by
  unfold isBlank
  simp only [Bool.or_eq_false_iff, decide_eq_false_iff_not]
  exact ⟨⟨⟨apart_of_starts begins (by decide), apart_of_starts begins (by decide)⟩,
    apart_of_starts begins (by decide)⟩, apart_of_starts begins (by decide)⟩

theorem write_head (style : Style) (depth : Nat) (value : Json) :
    ∃ c rest, write style depth value = c :: rest ∧ starts c = true := by
  cases value with
  | null => exact ⟨_, _, rfl, by decide⟩
  | bool value =>
      cases value with
      | true => exact ⟨_, _, rfl, by decide⟩
      | false => exact ⟨_, _, rfl, by decide⟩
  | number literal =>
      obtain ⟨text, filled, numeric⟩ := literal
      cases text with
      | nil => exact absurd rfl filled
      | cons c rest =>
          have first : isNumeric c = true := by
            unfold isNumeric
            rw [Bool.or_eq_true, List.contains_iff_mem]
            exact numeric c List.mem_cons_self
          refine ⟨c, rest, rfl, ?_⟩
          unfold starts
          rw [first, Bool.true_or]
  | string text => exact ⟨_, _, rfl, by decide⟩
  | array items =>
      cases items with
      | nil => exact ⟨_, _, rfl, by decide⟩
      | cons item items => exact ⟨'[', _, rfl, by decide⟩
  | object members =>
      cases members with
      | nil => exact ⟨_, _, rfl, by decide⟩
      | cons member members => exact ⟨'{', _, rfl, by decide⟩

/-- No number goes on in what follows. -/
def Delimits (rest : Text) : Prop := ∀ c, rest.head? = some c → isNumeric c = false

theorem delimits_nil : Delimits [] := nofun

theorem delimits_cons {c : Char} (apart : isNumeric c = false) (rest : Text) : Delimits (c :: rest) := by
  rintro _ ⟨⟩
  exact apart

theorem not_numeric_of_isBlank {c : Char} (blank : isBlank c = true) : isNumeric c = false := by
  unfold isBlank at blank
  simp only [Bool.or_eq_true, decide_eq_true_eq] at blank
  rcases blank with ((rfl | rfl) | rfl) | rfl <;> decide

theorem delimits_blank {blank rest : Text} (only : Blank blank) (ends : Delimits rest) : Delimits (blank ++ rest) := by
  cases blank with
  | nil => exact ends
  | cons c blank => exact delimits_cons (not_numeric_of_isBlank (only c List.mem_cons_self)) _

theorem readNumber_literal {literal : NumberLiteral} (sound : isNumber literal.text = true) {rest : Text}
    (ends : Delimits rest) :
    readNumber (literal.text ++ rest) = some (.number literal, rest) := by
  have numeric : ∀ c ∈ literal.text, isNumeric c = true := by
    intro c member
    unfold isNumeric
    rw [Bool.or_eq_true, List.contains_iff_mem]
    exact literal.numeric c member
  have stops : rest.takeWhile isNumeric = [] ∧ rest.dropWhile isNumeric = rest := by
    cases rest with
    | nil => exact ⟨rfl, rfl⟩
    | cons c rest =>
        have apart : ¬ isNumeric c = true := Bool.not_eq_true _ ▸ ends c rfl
        exact ⟨List.takeWhile_cons_of_neg apart, List.dropWhile_cons_of_neg apart⟩
  have taken : (literal.text ++ rest).takeWhile isNumeric = literal.text := by
    rw [List.takeWhile_append_of_pos numeric, stops.1, List.append_nil]
  have dropped : (literal.text ++ rest).dropWhile isNumeric = rest := by
    rw [List.dropWhile_append_of_pos numeric, stops.2]
  unfold readNumber
  rw [dif_pos (by rw [taken]; exact literal.nonempty), if_pos (by rw [taken]; exact sound), dropped]
  congr

theorem readValue_array {fuel : Nat} {rest later : Text} {c : Char} (skipped : skipBlanks rest = c :: later) (more : c ≠ ']') :
    readValue (fuel + 1) ('[' :: rest) = (readItems fuel (c :: later)).map fun found => (.array found.1, found.2) := by
  have opened : skipBlanks ('[' :: rest) = '[' :: rest := rfl
  rw [readValue, opened]
  simp only [skipped]
  split
  · rename_i same
    exact absurd (List.cons.inj same).1 more
  · rfl

theorem readValue_object {fuel : Nat} {rest later : Text} {c : Char} (skipped : skipBlanks rest = c :: later) (more : c ≠ '}') :
    readValue (fuel + 1) ('{' :: rest) = (readMembers fuel (c :: later)).map fun found => (.object found.1, found.2) := by
  have opened : skipBlanks ('{' :: rest) = '{' :: rest := rfl
  rw [readValue, opened]
  simp only [skipped]
  split
  · rename_i same
    exact absurd (List.cons.inj same).1 more
  · rfl

theorem readValue_number {fuel : Nat} {literal : NumberLiteral} (sound : isNumber literal.text = true) {rest : Text}
    (ends : Delimits rest) :
    readValue (fuel + 1) (literal.text ++ rest) = some (.number literal, rest) := by
  obtain ⟨c, later, text⟩ := List.exists_cons_of_ne_nil literal.nonempty
  have numeric : isNumeric c = true := by
    unfold isNumeric
    rw [Bool.or_eq_true, List.contains_iff_mem]
    exact literal.numeric c (by rw [text]; exact List.mem_cons_self)
  have apart {other : Char} (different : isNumeric other = false) : c ≠ other := by
    rintro rfl
    rw [numeric] at different
    cases different
  have solid : isBlank c = false := by
    cases blank : isBlank c with
    | false => rfl
    | true => exact absurd rfl (apart (not_numeric_of_isBlank blank))
  have skipped : skipBlanks (literal.text ++ rest) = literal.text ++ rest := by
    rw [text, List.cons_append, skipBlanks_cons solid]
  rw [← readNumber_literal sound ends, readValue, skipped, text, List.cons_append]
  split
  · rename_i same
    exact absurd (List.cons.inj same).1 (apart (by decide))
  · rename_i same
    exact absurd (List.cons.inj same).1 (apart (by decide))
  · rename_i same
    exact absurd (List.cons.inj same).1 (apart (by decide))
  · rename_i same
    exact absurd (List.cons.inj same).1 (apart (by decide))
  · rename_i same
    exact absurd (List.cons.inj same).1 (apart (by decide))
  · rename_i same
    exact absurd (List.cons.inj same).1 (apart (by decide))
  · rfl

/-- After a value of an object come a comma and the next member, or the end. -/
theorem delimits_items (style : Style) (last : Blank (style.last depth)) (items : List Json) (rest : Text) :
    Delimits (writeItems style depth items ++ rest) := by
  cases items with
  | nil =>
      rw [writeItems, List.append_assoc]
      exact delimits_blank last (delimits_cons (by decide) rest)
  | cons item items =>
      rw [writeItems, List.cons_append]
      exact delimits_cons (by decide) _

theorem delimits_members (style : Style) (last : Blank (style.last depth)) (members : List (Text × Json)) (rest : Text) :
    Delimits (writeMembers style depth members ++ rest) := by
  cases members with
  | nil =>
      rw [writeMembers, List.append_assoc]
      exact delimits_blank last (delimits_cons (by decide) rest)
  | cons member members =>
      rw [writeMembers, List.cons_append]
      exact delimits_cons (by decide) _

include readable

mutual

/-- Fuel is spent on brackets, commas and members, each of which is at least one character long. -/
theorem readValue_write (fuel depth : Nat) (value : Json) (sound : Sound value) (rest : Text) (ends : Delimits rest)
    (enough : (write style depth value).length ≤ fuel) :
    readValue fuel (write style depth value ++ rest) = some (value, rest) := by
  cases fuel with
  | zero =>
      obtain ⟨c, later, text, -⟩ := write_head style depth value
      rw [text] at enough
      exact absurd enough (by simp)
  | succ fuel =>
      match value with
      | .null => rfl
      | .bool true => rfl
      | .bool false => rfl
      | .number literal => exact readValue_number sound ends
      | .string text =>
          have opened : write style depth (.string text) ++ rest = '"' :: (text.flatMap style.escape ++ '"' :: rest) := by
            simp [write, Style.string]
          have read : readValue (fuel + 1) ('"' :: (text.flatMap style.escape ++ '"' :: rest)) =
              (readString ((text.flatMap style.escape ++ '"' :: rest).length + 1)
                (text.flatMap style.escape ++ '"' :: rest)).map fun found => (.string found.1, found.2) := rfl
          rw [opened, read, readString_all readable, Option.map_some]
      | .array [] => rfl
      | .array (item :: items) =>
          obtain ⟨c, later, text, begins⟩ := write_head style (depth + 1) item
          have first := readable.first (depth + 1)
          have skipped : skipBlanks (style.first (depth + 1) ++ (write style (depth + 1) item ++
              (writeItems style depth items ++ rest))) = c :: (later ++ (writeItems style depth items ++ rest)) := by
            rw [skipBlanks_blank first, text, List.cons_append, skipBlanks_cons (not_blank_of_starts begins)]
          have long : (write style (depth + 1) item).length + (writeItems style depth items).length ≤ fuel := by
            simp only [write, List.length_cons, List.length_append] at enough
            omega
          have read := readItems_write fuel depth item items sound rest long
          have more : c ≠ ']' := apart_of_starts begins (by decide)
          rw [text, List.cons_append] at read
          rw [write, List.cons_append, List.append_assoc, List.append_assoc, readValue_array skipped more, read, Option.map_some]
      | .object [] => rfl
      | .object ((key, value) :: members) =>
          have first := readable.first (depth + 1)
          have long : (style.string key (':' :: (style.colon ++ write style (depth + 1) value ++
              writeMembers style depth members))).length ≤ fuel := by
            simp only [write, List.length_cons, List.length_append] at enough
            omega
          have read := readMembers_write fuel depth key value members sound rest long
          have skipped : skipBlanks (style.first (depth + 1) ++ (style.string key (':' :: (style.colon ++
              write style (depth + 1) value ++ writeMembers style depth members)) ++ rest)) =
                style.string key (':' :: (style.colon ++ write style (depth + 1) value ++
                  writeMembers style depth members)) ++ rest := by
            rw [skipBlanks_blank first]
            rfl
          rw [write, List.cons_append, List.append_assoc, readValue_object skipped (by decide), ← List.cons_append]
          exact (congrArg _ read).trans rfl

theorem readItems_write (fuel depth : Nat) (item : Json) (items : List Json) (sound : SoundItems (item :: items))
    (rest : Text) (enough : (write style (depth + 1) item).length + (writeItems style depth items).length ≤ fuel) :
    readItems fuel (write style (depth + 1) item ++ (writeItems style depth items ++ rest)) = some (item :: items, rest) := by
  cases fuel with
  | zero =>
      obtain ⟨c, later, text, -⟩ := write_head style (depth + 1) item
      rw [text] at enough
      exact absurd enough (by simp)
  | succ fuel =>
      have last := readable.last depth
      have ends := delimits_items style last items rest
      match items with
      | [] =>
          have short : (write style (depth + 1) item).length ≤ fuel := by
            simp only [writeItems, List.length_append, List.length_singleton] at enough
            omega
          have read := readValue_write fuel (depth + 1) item sound.1 _ ends short
          have closed : skipBlanks (writeItems style depth [] ++ rest) = ']' :: rest := by
            rw [writeItems, List.append_assoc, skipBlanks_blank last]
            rfl
          rw [readItems, read, Option.bind_some]
          simp only [closed]
      | next :: items =>
          have short : (write style (depth + 1) item).length ≤ fuel ∧
              (write style (depth + 1) next).length + (writeItems style depth items).length ≤ fuel := by
            simp only [writeItems, List.length_cons, List.length_append] at enough
            omega
          have read := readValue_write fuel (depth + 1) item sound.1 _ ends short.1
          have others := readItems_write fuel depth next items sound.2 rest short.2
          have comma : skipBlanks (writeItems style depth (next :: items) ++ rest) =
              ',' :: (style.between (depth + 1) ++ (write style (depth + 1) next ++ (writeItems style depth items ++ rest))) := by
            rw [writeItems, List.cons_append, List.append_assoc, List.append_assoc]
            rfl
          rw [readItems, read, Option.bind_some]
          simp only [comma]
          rw [readItems_blank (readable.between (depth + 1)), others, Option.map_some]

theorem readMembers_write (fuel depth : Nat) (key : Text) (value : Json) (members : List (Text × Json))
    (sound : SoundMembers ((key, value) :: members)) (rest : Text) (enough : (style.string key (':' :: (style.colon ++ write style (depth + 1) value ++
      writeMembers style depth members))).length ≤ fuel) :
    readMembers fuel (style.string key (':' :: (style.colon ++ write style (depth + 1) value ++
      writeMembers style depth members)) ++ rest) = some ((key, value) :: members, rest) := by
  cases fuel with
  | zero => exact absurd enough (by simp [Style.string])
  | succ fuel =>
      have last := readable.last depth
      have ends := delimits_members style last members rest
      have opened (later : Text) : skipBlanks (style.string key later ++ rest) =
          '"' :: (key.flatMap style.escape ++ '"' :: (later ++ rest)) := by
        rw [Style.string, List.cons_append, List.append_assoc, List.cons_append]
        rfl
      have colon (later : Text) : skipBlanks (':' :: later) = ':' :: later := rfl
      match members with
      | [] =>
          have short : (write style (depth + 1) value).length ≤ fuel := by
            simp only [writeMembers, Style.string, List.length_cons, List.length_append] at enough
            omega
          have read := readValue_write fuel (depth + 1) value sound.1 _ ends short
          have closed : skipBlanks (writeMembers style depth [] ++ rest) = '}' :: rest := by
            rw [writeMembers, List.append_assoc, skipBlanks_blank last]
            rfl
          rw [readMembers]
          simp only [opened, readString_all readable, Option.bind_some, List.cons_append, colon]
          rw [List.append_assoc, List.append_assoc, readValue_blank readable.colon, read, Option.bind_some]
          simp only [closed]
      | next :: members =>
          obtain ⟨other, inner⟩ := next
          have short : (write style (depth + 1) value).length ≤ fuel ∧
              (style.string other (':' :: (style.colon ++ write style (depth + 1) inner ++
                writeMembers style depth members))).length ≤ fuel := by
            simp only [writeMembers, Style.string, List.length_cons, List.length_append] at enough ⊢
            omega
          have read := readValue_write fuel (depth + 1) value sound.1 _ ends short.1
          have others := readMembers_write fuel depth other inner members sound.2 rest short.2
          have comma : skipBlanks (writeMembers style depth ((other, inner) :: members) ++ rest) =
              ',' :: (style.between (depth + 1) ++ (style.string other (':' :: (style.colon ++
                write style (depth + 1) inner ++ writeMembers style depth members)) ++ rest)) := by
            rw [writeMembers, List.cons_append, List.append_assoc]
            rfl
          rw [readMembers]
          simp only [opened, readString_all readable, Option.bind_some, List.cons_append, colon]
          rw [List.append_assoc, List.append_assoc, readValue_blank readable.colon, read, Option.bind_some]
          simp only [comma]
          rw [readMembers_blank (readable.between (depth + 1)), others, Option.map_some]

end

/-- A document is read back, with blanks before and after it. -/
theorem parse_write (depth : Nat) {value : Json} (sound : Sound value) {before after : Text} (early : Blank before)
    (late : Blank after) : parse (before ++ (write style depth value ++ after)) = some value := by
  have ends : Delimits after := List.append_nil after ▸ delimits_blank late delimits_nil
  have long : (write style depth value).length ≤ (before ++ (write style depth value ++ after)).length + 1 := by
    simp only [List.length_append]
    omega
  have rest : skipBlanks after = [] := List.append_nil after ▸ skipBlanks_blank late []
  rw [parse, readValue_blank early, readValue_write readable _ depth value sound after ends long, Option.bind_some, if_pos rest]

end Reading

end DeepOrc.Lib.Json

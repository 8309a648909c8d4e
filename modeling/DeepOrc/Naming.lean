import Mathlib.Data.List.DropRight
import Mathlib.Data.Nat.Notation
import Mathlib.Tactic.Common
import Mathlib.Algebra.Group.Nat.Defs

/-! # Sequential gateway names and Headscale display names -/

namespace DeepOrc.Naming

/-! ### Characters as Python classifies them -/

/-- `str.isspace` on one character. -/
def isSpace (c : Char) : Bool :=
  let code := c.toNat
  (9 ≤ code && code ≤ 13) || (28 ≤ code && code ≤ 32) || code == 0x85 || code == 0xa0 || code == 0x1680 ||
    (0x2000 ≤ code && code ≤ 0x200a) || code == 0x2028 || code == 0x2029 || code == 0x202f || code == 0x205f ||
    code == 0x3000

/-- The zeros of the Unicode decimal digits, which `\d` matches. -/
def decimalZeros : List Nat :=
  [0x30, 0x660, 0x6f0, 0x7c0, 0x966, 0x9e6, 0xa66, 0xae6, 0xb66, 0xbe6, 0xc66, 0xce6, 0xd66, 0xde6, 0xe50, 0xed0,
    0xf20, 0x1040, 0x1090, 0x17e0, 0x1810, 0x1946, 0x19d0, 0x1a80, 0x1a90, 0x1b50, 0x1bb0, 0x1c40, 0x1c50, 0xa620,
    0xa8d0, 0xa900, 0xa9d0, 0xa9f0, 0xaa50, 0xabf0, 0xff10, 0x104a0, 0x10d30, 0x11066, 0x110f0, 0x11136, 0x111d0,
    0x112f0, 0x11450, 0x114d0, 0x11650, 0x116c0, 0x11730, 0x118e0, 0x11950, 0x11c50, 0x11d50, 0x11da0, 0x11f50,
    0x16a60, 0x16ac0, 0x16b50, 0x1d7ce, 0x1d7d8, 0x1d7e2, 0x1d7ec, 0x1d7f6, 0x1e140, 0x1e2f0, 0x1e4f0, 0x1e950,
    0x1fbf0]

def isDecimal (c : Char) : Bool := decimalZeros.any fun first => first ≤ c.toNat && c.toNat < first + 10

/-- The value of a decimal digit of any script. -/
def digitValue (c : Char) : Option Nat :=
  (decimalZeros.find? fun first => first ≤ c.toNat && c.toNat < first + 10).map fun first => c.toNat - first

/-- `str.lower` where it can produce ASCII: the letters, the Kelvin sign and the dotted capital I. -/
def lowerChar (c : Char) : List Char :=
  if 'A' ≤ c ∧ c ≤ 'Z' then [Char.ofNat (c.toNat + 32)]
  else if c = '\u212A' then ['k']
  else if c = '\u0130' then ['i', '\u0307']
  else [c]

def strip (name : List Char) : List Char := ((name.dropWhile isSpace).reverse.dropWhile isSpace).reverse

theorem strip_eq_rdropWhile (name : List Char) : strip name = (name.dropWhile isSpace).rdropWhile isSpace := rfl

theorem toNat_of_isDigit {c : Char} (digit : c.isDigit = true) : 48 ≤ c.toNat ∧ c.toNat ≤ 57 := by
  simp only [Char.isDigit, Bool.and_eq_true, decide_eq_true_eq] at digit
  exact digit

theorem isSpace_of_isDigit {c : Char} (digit : c.isDigit = true) : isSpace c = false := by
  obtain ⟨least, most⟩ := toNat_of_isDigit digit
  simp only [isSpace, Bool.or_eq_false_iff, Bool.and_eq_false_iff, decide_eq_false_iff_not, beq_eq_false_iff_ne]
  omega

theorem digitValue_of_isDigit {c : Char} (digit : c.isDigit = true) : digitValue c = some (c.toNat - '0'.toNat) := by
  obtain ⟨least, most⟩ := toNat_of_isDigit digit
  have ascii : (decide (0x30 ≤ c.toNat) && decide (c.toNat < 0x30 + 10)) = true := by
    rw [Bool.and_eq_true, decide_eq_true_eq, decide_eq_true_eq]
    omega
  have found : (decimalZeros.find? fun first => first ≤ c.toNat && c.toNat < first + 10) = some 0x30 := by
    unfold decimalZeros
    rw [List.find?_cons, ascii]
  rw [digitValue, found]
  rfl

theorem strip_idem (name : List Char) : strip (strip name) = strip name := by
  have front : (strip name).dropWhile isSpace = strip name := by
    rw [List.dropWhile_eq_self_iff]
    intro filled
    obtain ⟨rest, whole⟩ := List.rdropWhile_prefix isSpace (name.dropWhile isSpace)
    rw [← strip_eq_rdropWhile] at whole
    have long : 0 < (name.dropWhile isSpace).length := by
      rw [← whole, List.length_append]
      omega
    have first := List.dropWhile_get_zero_not isSpace name long
    have same : (name.dropWhile isSpace).get ⟨0, long⟩ = (strip name)[0] := by
      simp only [List.get_eq_getElem, ← whole]
      exact List.getElem_append_left filled
    rw [same] at first
    exact first
  rw [strip_eq_rdropWhile (strip name), front, strip_eq_rdropWhile, List.rdropWhile_idempotent]

/-! ### Sequential names -/

def gatewayPrefix : String := "gw-"

def sequentialWidth : Nat := 3

/-- `f"{index:0{width}d}"` -/
def zeroPadded (index width : Nat) : String :=
  let digits := Nat.toDigits 10 index
  String.ofList (List.replicate (width - digits.length) '0' ++ digits)

def formatSequentialName (pre : String) (index width : Nat) : String := pre ++ zeroPadded index width

def nextSequentialName (pre : String) (taken : List String) (width : Nat) : Except String String :=
  match (List.range (10 ^ width)).find? fun index => !taken.contains (formatSequentialName pre index width) with
  | some index => .ok (formatSequentialName pre index width)
  | none => .error s!"No available names for prefix {pre} (width {width})"

/-- `^gw-\d{3}$`, where `$` also matches before a final newline. -/
def isGatewayName (name : String) : Bool :=
  match name.toList with
  | ['g', 'w', '-', a, b, c] => isDecimal a && isDecimal b && isDecimal c
  | ['g', 'w', '-', a, b, c, '\n'] => isDecimal a && isDecimal b && isDecimal c
  | _ => false

/-! ### Display names -/

def isAlphanumeric (c : Char) : Bool := ('a' ≤ c && c ≤ 'z') || ('A' ≤ c && c ≤ 'Z') || ('0' ≤ c && c ≤ '9')

/-- `^[a-zA-Z0-9](?:[a-zA-Z0-9-]{0,61}[a-zA-Z0-9])?$` on a text that does not end in a newline. -/
def matchesDisplayName (name : List Char) : Bool :=
  name.length ≤ 63 && name.all (fun c => isAlphanumeric c || c == '-') && name.head?.any isAlphanumeric &&
    name.getLast?.any isAlphanumeric

def normalizeTailscaleDisplayName (name : String) : String :=
  String.ofList ((strip name.toList).flatMap lowerChar)

def validateTailscaleDisplayName (name : String) : Except String String :=
  let value := normalizeTailscaleDisplayName name
  if value = "" then .error "Headscale name cannot be empty"
  else if 63 < value.length then .error "Headscale name must be at most 63 characters"
  else if !matchesDisplayName value.toList then
    .error ("Headscale name must start and end with a letter or digit and contain only letters, digits, " ++
      "and hyphens")
  else .ok value

/-! ### What a generated name is -/

theorem nextSequentialName_not_mem {pre : String} {taken : List String} {width : Nat} {name : String}
    (chosen : nextSequentialName pre taken width = .ok name) : name ∉ taken := by
  unfold nextSequentialName at chosen
  split at chosen
  · rename_i index found
    cases chosen
    have free := List.find?_some found
    simpa using free
  · cases chosen

theorem nextSequentialName_form {pre : String} {taken : List String} {width : Nat} {name : String}
    (chosen : nextSequentialName pre taken width = .ok name) :
    ∃ index < 10 ^ width, name = formatSequentialName pre index width := by
  unfold nextSequentialName at chosen
  split at chosen
  · rename_i index found
    cases chosen
    exact ⟨index, List.mem_range.mp (List.mem_of_find?_eq_some found), rfl⟩
  · cases chosen

theorem nextSequentialName_of_free {pre : String} {taken : List String} {width index : Nat}
    (small : index < 10 ^ width) (free : formatSequentialName pre index width ∉ taken) :
    ∃ name, nextSequentialName pre taken width = .ok name := by
  unfold nextSequentialName
  cases search : (List.range (10 ^ width)).find? fun index => !taken.contains (formatSequentialName pre index width) with
  | some chosen => exact ⟨_, rfl⟩
  | none =>
      have held := List.find?_eq_none.mp search index (List.mem_range.mpr small)
      simp [free] at held

theorem nextSequentialName_least {pre : String} {taken : List String} {width : Nat} {name : String}
    (chosen : nextSequentialName pre taken width = .ok name) :
    ∃ index, name = formatSequentialName pre index width ∧
      ∀ lower < index, formatSequentialName pre lower width ∈ taken := by
  unfold nextSequentialName at chosen
  split at chosen
  · rename_i index found
    cases chosen
    refine ⟨index, rfl, ?_⟩
    intro lower less
    have passed := (List.find?_range_eq_some.mp found).2.2 lower less
    simpa using passed
  · cases chosen

/-- Reading the digits back gives the index, whatever the padding. -/
theorem zeroPadded_injective {width first second : Nat} (same : zeroPadded first width = zeroPadded second width) :
    first = second := by
  have read : ∀ index, Nat.ofDigitChars 10 (zeroPadded index width).toList 0 = index := by
    intro index
    simp [zeroPadded, Nat.ofDigitChars_append]
  rw [← read first, same, read second]

theorem formatSequentialName_injective {pre : String} {width first second : Nat}
    (same : formatSequentialName pre first width = formatSequentialName pre second width) : first = second := by
  have texts := congrArg String.toList same
  simp only [formatSequentialName, String.toList_append, List.append_cancel_left_eq] at texts
  exact zeroPadded_injective (String.toList_inj.mp texts)

theorem isDecimal_digitChar : ∀ digit < 10, isDecimal (Nat.digitChar digit) = true := by decide

/-- Below the limit a number has exactly as many digits as the padding asks for. -/
theorem zeroPadded_three {index : Nat} (small : index < 1000) :
    ∃ a b c, (zeroPadded index 3).toList = [a, b, c] ∧ isDecimal a ∧ isDecimal b ∧ isDecimal c := by
  have last := isDecimal_digitChar (index % 10) (Nat.mod_lt _ (by omega))
  by_cases units : index < 10
  · refine ⟨'0', '0', index.digitChar, ?_, by decide, by decide, isDecimal_digitChar index units⟩
    simp [zeroPadded, Nat.toDigits_of_lt_base units]
  · have front := Nat.toDigits_of_base_le (by omega : 1 < 10) (by omega : 10 ≤ index)
    by_cases tens : index < 100
    · have quotient : index / 10 < 10 := by omega
      rw [Nat.toDigits_of_lt_base quotient] at front
      refine ⟨'0', (index / 10).digitChar, (index % 10).digitChar, ?_, by decide,
        isDecimal_digitChar _ quotient, last⟩
      simp [zeroPadded, front]
    · have quotient : index / 10 / 10 < 10 := by omega
      have middle := Nat.toDigits_of_base_le (by omega : 1 < 10) (by omega : 10 ≤ index / 10)
      rw [middle, Nat.toDigits_of_lt_base quotient] at front
      refine ⟨(index / 10 / 10).digitChar, (index / 10 % 10).digitChar, (index % 10).digitChar, ?_,
        isDecimal_digitChar _ quotient, isDecimal_digitChar _ (Nat.mod_lt _ (by omega)), last⟩
      simp [zeroPadded, front]

theorem isGatewayName_of_next {taken : List String} {name : String}
    (chosen : nextSequentialName gatewayPrefix taken sequentialWidth = .ok name) : isGatewayName name = true := by
  obtain ⟨index, small, rfl⟩ := nextSequentialName_form chosen
  obtain ⟨a, b, c, digits, first, second, third⟩ := zeroPadded_three (show index < 1000 from small)
  simp only [isGatewayName, formatSequentialName, gatewayPrefix, sequentialWidth, String.toList_append, digits]
  simp [first, second, third]

end DeepOrc.Naming

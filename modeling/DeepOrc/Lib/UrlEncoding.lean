import Mathlib.Data.List.TakeWhile

/-!
# Form encoding of query strings

The encoder is `urllib.parse.urlencode` (`quote_plus` on both sides of each pair), the decoder Go's
`url.ParseQuery`. Strings are byte strings on both sides.
-/

namespace DeepOrc.Lib.UrlEncoding

abbrev Bytes := List UInt8

/-- The UTF-8 bytes of a text. -/
def utf8 (text : String) : Bytes := text.toList.flatMap String.utf8EncodeChar

/-- An ASCII byte occurs in the UTF-8 of a text only as that character. -/
theorem mem_utf8EncodeChar_ascii {b : UInt8} (ascii : b.toNat < 128) (c : Char) :
    b ∈ String.utf8EncodeChar c ↔ c.toNat = b.toNat := by
  have same : ∀ value < 128, b = UInt8.ofNat value ↔ value = b.toNat := by
    intro value small
    rw [← UInt8.toNat_inj, UInt8.toNat_ofNat_of_lt' (show value < 256 by omega)]
    exact eq_comm
  have other : ∀ value, 128 ≤ value → value < 256 → b ≠ UInt8.ofNat value := by
    intro value large byte equal
    rw [← UInt8.toNat_inj, UInt8.toNat_ofNat_of_lt' byte] at equal
    omega
  have value_eq : c.val.toNat = c.toNat := rfl
  unfold String.utf8EncodeChar
  simp only [value_eq]
  split
  · rename_i small
    rw [List.mem_singleton]
    exact same _ (by omega)
  · rename_i large
    have apart : c.toNat ≠ b.toNat := by omega
    simp only [apart, iff_false]
    split
    · simp only [List.mem_cons, List.not_mem_nil, or_false, not_or]
      exact ⟨other _ (by omega) (by omega), other _ (by omega) (by omega)⟩
    · split
      · simp only [List.mem_cons, List.not_mem_nil, or_false, not_or]
        exact ⟨other _ (by omega) (by omega), other _ (by omega) (by omega),
          other _ (by omega) (by omega)⟩
      · simp only [List.mem_cons, List.not_mem_nil, or_false, not_or]
        exact ⟨other _ (by omega) (by omega), other _ (by omega) (by omega),
          other _ (by omega) (by omega), other _ (by omega) (by omega)⟩

theorem mem_utf8_ascii {c : Char} (ascii : c.toNat < 128) (text : String) :
    UInt8.ofNat c.toNat ∈ utf8 text ↔ c ∈ text.toList := by
  have code : (UInt8.ofNat c.toNat).toNat = c.toNat :=
    UInt8.toNat_ofNat_of_lt' (show c.toNat < 256 by omega)
  unfold utf8
  rw [List.mem_flatMap]
  constructor
  · rintro ⟨other, member, occurs⟩
    rw [mem_utf8EncodeChar_ascii (by omega), code] at occurs
    rwa [← Char.toNat_inj.mp occurs]
  · intro member
    exact ⟨c, member, (mem_utf8EncodeChar_ascii (by omega) c).mpr code.symm⟩

theorem utf8_append (left right : String) : utf8 (left ++ right) = utf8 left ++ utf8 right := by
  simp [utf8]

theorem utf8_eq_nil {text : String} : utf8 text = [] ↔ text = "" := by
  rw [utf8, List.flatMap_eq_nil_iff, ← String.toList_eq_nil_iff, List.eq_nil_iff_forall_not_mem]
  simp only [String.utf8EncodeChar_ne_nil, imp_false]

/-! ### Encoding -/

/-- The bytes `quote` leaves alone: letters, digits and `_.-~`. -/
def unreserved (b : UInt8) : Bool :=
  (65 ≤ b && b ≤ 90) || (97 ≤ b && b ≤ 122) || (48 ≤ b && b ≤ 57) ||
    b == 95 || b == 46 || b == 45 || b == 126

def hexDigit (value : Nat) : UInt8 :=
  if value < 10 then UInt8.ofNat (48 + value) else UInt8.ofNat (55 + value)

def quoteByte (b : UInt8) : Bytes :=
  if unreserved b then [b]
  else if b = 32 then [43]
  else [37, hexDigit (b.toNat / 16), hexDigit (b.toNat % 16)]

def quotePlus (bytes : Bytes) : Bytes := bytes.flatMap quoteByte

def encodePair (pair : Bytes × Bytes) : Bytes := quotePlus pair.1 ++ 61 :: quotePlus pair.2

def urlencode (params : List (Bytes × Bytes)) : Bytes := [38].intercalate (params.map encodePair)

/-! ### Decoding -/

def unhex (b : UInt8) : Option Nat :=
  if 48 ≤ b ∧ b ≤ 57 then some (b.toNat - 48)
  else if 65 ≤ b ∧ b ≤ 70 then some (b.toNat - 55)
  else if 97 ≤ b ∧ b ≤ 102 then some (b.toNat - 87)
  else none

def queryUnescape : Bytes → Option Bytes
  | [] => some []
  | 37 :: hi :: lo :: rest => do
      let high ← unhex hi
      let low ← unhex lo
      let tail ← queryUnescape rest
      return UInt8.ofNat (high * 16 + low) :: tail
  | b :: rest => do
      if b = 37 then none
      let tail ← queryUnescape rest
      return (if b = 43 then 32 else b) :: tail

/-- `strings.Cut`: the text before the first separator and the text after it. -/
def cut (separator : UInt8) (bytes : Bytes) : Bytes × Bytes :=
  (bytes.takeWhile (· != separator), (bytes.dropWhile (· != separator)).drop 1)

/-- One `&`-separated piece of a query; malformed pieces are dropped. -/
def parsePair (piece : Bytes) : Option (Bytes × Bytes) := do
  if piece.contains 59 || piece.isEmpty then none
  let key ← queryUnescape (cut 61 piece).1
  let value ← queryUnescape (cut 61 piece).2
  return (key, value)

def parseQuery (query : Bytes) : List (Bytes × Bytes) := (query.splitOn 38).filterMap parsePair

/-- `Values.Get`: the first value of the key, empty when there is none. -/
def get (values : List (Bytes × Bytes)) (key : Bytes) : Bytes := (values.lookup key).getD []

/-! ### The round trip -/

theorem unhex_hexDigit : ∀ value < 16, unhex (hexDigit value) = some value := by decide

theorem queryUnescape_other {b : UInt8} (ordinary : b ≠ 37) (rest : Bytes) :
    queryUnescape (b :: rest) = (queryUnescape rest).map ((if b = 43 then 32 else b) :: ·) := by
  rw [queryUnescape]
  · cases queryUnescape rest <;> simp [ordinary]
  · intro hi lo tail percent
    exact absurd percent ordinary

theorem queryUnescape_percent {hi lo : Nat} (high : hi < 16) (low : lo < 16) (rest : Bytes) :
    queryUnescape (37 :: hexDigit hi :: hexDigit lo :: rest) =
      (queryUnescape rest).map (UInt8.ofNat (hi * 16 + lo) :: ·) := by
  simp only [queryUnescape, unhex_hexDigit _ high, unhex_hexDigit _ low, Option.bind_eq_bind,
    Option.bind_some, Option.map_eq_bind]
  rfl

theorem unreserved_ne {b : UInt8} (plain : unreserved b = true) :
    b ≠ 37 ∧ b ≠ 43 ∧ b ≠ 38 ∧ b ≠ 59 ∧ b ≠ 61 := by
  refine ⟨?_, ?_, ?_, ?_, ?_⟩ <;> rintro rfl <;> exact absurd plain (by decide)

theorem queryUnescape_quoteByte (b : UInt8) (rest : Bytes) :
    queryUnescape (quoteByte b ++ rest) = (queryUnescape rest).map (b :: ·) := by
  unfold quoteByte
  split
  · rename_i plain
    obtain ⟨percent, plus, -⟩ := unreserved_ne plain
    rw [List.cons_append, List.nil_append, queryUnescape_other percent, if_neg plus]
  · split
    · rename_i space
      rw [List.cons_append, List.nil_append, queryUnescape_other (by decide), if_pos rfl, space]
    · have inside := b.toNat_lt
      rw [List.cons_append, List.cons_append, List.cons_append, List.nil_append,
        queryUnescape_percent (by omega) (Nat.mod_lt _ (by omega)),
        Nat.div_add_mod', UInt8.ofNat_toNat]

theorem queryUnescape_quotePlus (bytes : Bytes) : queryUnescape (quotePlus bytes) = some bytes := by
  induction bytes with
  | nil => rfl
  | cons b rest recovered =>
      rw [show quotePlus (b :: rest) = quoteByte b ++ quotePlus rest from rfl,
        queryUnescape_quoteByte, recovered, Option.map_some]

theorem hexDigit_ne : ∀ value < 16, hexDigit value ≠ 38 ∧ hexDigit value ≠ 59 ∧ hexDigit value ≠ 61 := by
  decide

/-- Quoted text contains none of the three bytes that structure a query. -/
theorem separator_not_mem_quotePlus {bytes : Bytes} {b : UInt8} (member : b ∈ quotePlus bytes) :
    b ≠ 38 ∧ b ≠ 59 ∧ b ≠ 61 := by
  obtain ⟨source, -, quoted⟩ := List.mem_flatMap.mp member
  unfold quoteByte at quoted
  split at quoted
  · rename_i plain
    obtain rfl := List.mem_singleton.mp quoted
    exact (unreserved_ne plain).2.2
  · split at quoted
    · obtain rfl := List.mem_singleton.mp quoted
      decide
    · have inside := source.toNat_lt
      simp only [List.mem_cons, List.not_mem_nil, or_false] at quoted
      rcases quoted with rfl | rfl | rfl
      · decide
      · exact hexDigit_ne _ (by omega)
      · exact hexDigit_ne _ (Nat.mod_lt _ (by omega))

/-- The bytes of a query: unreserved ones and those of `%`, `&`, `+` and `=`. -/
def queryByte (b : UInt8) : Bool := unreserved b || b == 37 || b == 38 || b == 43 || b == 61

theorem hexDigit_unreserved : ∀ value < 16, unreserved (hexDigit value) = true := by decide

theorem queryByte_of_unreserved {b : UInt8} (plain : unreserved b = true) : queryByte b = true := by
  unfold queryByte
  rw [plain]
  rfl

theorem queryByte_of_mem_quotePlus {bytes : Bytes} {b : UInt8} (member : b ∈ quotePlus bytes) : queryByte b = true := by
  obtain ⟨source, -, quoted⟩ := List.mem_flatMap.mp member
  unfold quoteByte at quoted
  split at quoted
  · rename_i plain
    obtain rfl := List.mem_singleton.mp quoted
    exact queryByte_of_unreserved plain
  · split at quoted
    · obtain rfl := List.mem_singleton.mp quoted
      decide
    · have inside := source.toNat_lt
      simp only [List.mem_cons, List.not_mem_nil, or_false] at quoted
      rcases quoted with rfl | rfl | rfl
      · decide
      · exact queryByte_of_unreserved (hexDigit_unreserved _ (by omega))
      · exact queryByte_of_unreserved (hexDigit_unreserved _ (Nat.mod_lt _ (by omega)))

theorem queryByte_encodePair {pair : Bytes × Bytes} {b : UInt8} (member : b ∈ encodePair pair) : queryByte b = true := by
  rcases List.mem_append.mp member with key | value
  · exact queryByte_of_mem_quotePlus key
  · rcases List.mem_cons.mp value with rfl | value
    · decide
    · exact queryByte_of_mem_quotePlus value

theorem queryByte_of_mem_urlencode {params : List (Bytes × Bytes)} {b : UInt8} (member : b ∈ urlencode params) :
    queryByte b = true := by
  induction params with
  | nil => cases member
  | cons pair others ih =>
      cases others with
      | nil =>
          unfold urlencode at member
          rw [List.map_cons, List.map_nil, List.intercalate_singleton] at member
          exact queryByte_encodePair member
      | cons next others =>
          unfold urlencode at member ih
          rw [List.map_cons, List.map_cons, List.intercalate_cons_cons, List.mem_append, List.mem_append] at member
          rcases member with (first | separator) | later
          · exact queryByte_encodePair first
          · obtain rfl := List.mem_singleton.mp separator
            decide
          · exact ih later

theorem toNat_ofNat_ascii : ∀ n < 128, (Char.ofNat n).toNat = n := by decide

/-- Bytes of ASCII as characters. -/
def ascii (bytes : Bytes) : List Char := bytes.map fun b => Char.ofNat b.toNat

theorem utf8_ascii {bytes : Bytes} (small : ∀ b ∈ bytes, b.toNat < 128) : utf8 (String.ofList (ascii bytes)) = bytes := by
  have one (b : UInt8) (inside : b.toNat < 128) : String.utf8EncodeChar (Char.ofNat b.toNat) = [b] := by
    have value : (Char.ofNat b.toNat).val.toNat = b.toNat := toNat_ofNat_ascii b.toNat inside
    unfold String.utf8EncodeChar
    simp only [value]
    rw [if_pos (by omega), UInt8.ofNat_toNat]
  unfold utf8 ascii
  rw [String.toList_ofList, List.flatMap_map]
  induction bytes with
  | nil => rfl
  | cons b bytes ih =>
      rw [List.flatMap_cons, one b (small b List.mem_cons_self), ih fun c member => small c (List.mem_cons_of_mem _ member)]
      rfl

theorem queryByte_lt {b : UInt8} (inside : queryByte b = true) : b.toNat < 128 := by
  simp only [queryByte, unreserved, Bool.or_eq_true, Bool.and_eq_true, decide_eq_true_eq, beq_iff_eq,
    UInt8.le_iff_toNat_le, ← UInt8.toNat_inj, UInt8.toNat_ofNat] at inside
  omega

theorem cut_append {separator : UInt8} {left : Bytes} (absent : separator ∉ left) (right : Bytes) :
    cut separator (left ++ separator :: right) = (left, right) := by
  have kept : ∀ b ∈ left, (b != separator) = true := by
    intro b member
    simp only [bne_iff_ne]
    exact fun equal => absent (equal ▸ member)
  simp [cut, List.takeWhile_append_of_pos kept, List.dropWhile_append_of_pos kept]

theorem cut_of_not_mem {separator : UInt8} {bytes : Bytes} (absent : separator ∉ bytes) :
    cut separator bytes = (bytes, []) := by
  have kept : ∀ b ∈ bytes, (b != separator) = true := by
    intro b member
    simp only [bne_iff_ne]
    exact fun equal => absent (equal ▸ member)
  rw [cut, List.takeWhile_eq_self_iff.mpr kept, List.dropWhile_eq_nil_iff.mpr kept, List.drop_nil]

theorem parsePair_encodePair (pair : Bytes × Bytes) : parsePair (encodePair pair) = some pair := by
  have structure_free : 59 ∉ encodePair pair := by
    intro member
    rcases List.mem_append.mp member with key | value
    · exact (separator_not_mem_quotePlus key).2.1 rfl
    · rcases List.mem_cons.mp value with equals | value
      · exact absurd equals (by decide)
      · exact (separator_not_mem_quotePlus value).2.1 rfl
  have key_free : 61 ∉ quotePlus pair.1 := fun member => (separator_not_mem_quotePlus member).2.2 rfl
  have filled : (encodePair pair).isEmpty = false := by simp [encodePair]
  have separated : cut 61 (encodePair pair) = (quotePlus pair.1, quotePlus pair.2) := cut_append key_free _
  simp [parsePair, structure_free, filled, separated, queryUnescape_quotePlus]

/-- Every list of parameters survives the trip through a query string. -/
theorem parseQuery_urlencode (params : List (Bytes × Bytes)) : parseQuery (urlencode params) = params := by
  cases params with
  | nil => decide
  | cons first others =>
      have separators : ∀ piece ∈ (first :: others).map encodePair, 38 ∉ piece := by
        intro piece member
        obtain ⟨pair, -, rfl⟩ := List.mem_map.mp member
        intro separator
        rcases List.mem_append.mp separator with key | value
        · exact (separator_not_mem_quotePlus key).1 rfl
        · rcases List.mem_cons.mp value with equals | value
          · exact absurd equals (by decide)
          · exact (separator_not_mem_quotePlus value).1 rfl
      unfold parseQuery urlencode
      rw [List.splitOn_intercalate 38 separators (by simp), List.filterMap_map]
      have recovered : parsePair ∘ encodePair = some := funext parsePair_encodePair
      rw [recovered, List.filterMap_some]

end DeepOrc.Lib.UrlEncoding

import Mathlib.Data.List.GetD

/-!
# Standard base64 text

`encode` is the padded base64 of a byte string. What its users need is which characters it can
produce.
-/

namespace DeepOrc.Lib.Base64

def alphabet : List Char :=
  "ABCDEFGHIJKLMNOPQRSTUVWXYZabcdefghijklmnopqrstuvwxyz0123456789+/".toList

def digit (value : Nat) : Char := alphabet.getD value 'A'

def encode : List UInt8 → List Char
  | [] => []
  | [a] => [digit (a.toNat / 4), digit (a.toNat % 4 * 16), '=', '=']
  | [a, b] =>
      [digit (a.toNat / 4), digit (a.toNat % 4 * 16 + b.toNat / 16),
        digit (b.toNat % 16 * 4), '=']
  | a :: b :: c :: rest =>
      digit (a.toNat / 4) :: digit (a.toNat % 4 * 16 + b.toNat / 16) ::
        digit (b.toNat % 16 * 4 + c.toNat / 64) :: digit (c.toNat % 64) :: encode rest

theorem digit_mem_alphabet (value : Nat) : digit value ∈ alphabet := by
  unfold digit
  by_cases inside : value < alphabet.length
  · rw [List.getD_eq_getElem _ _ inside]
    exact List.getElem_mem inside
  · rw [List.getD_eq_default _ _ (Nat.le_of_not_lt inside)]
    decide

theorem mem_encode : ∀ (bytes : List UInt8) (c : Char), c ∈ encode bytes → c = '=' ∨ c ∈ alphabet
  | [], c, member => by simp [encode] at member
  | [a], c, member => by
      simp only [encode, List.mem_cons, List.not_mem_nil, or_false] at member
      rcases member with rfl | rfl | rfl | rfl
      · exact .inr (digit_mem_alphabet _)
      · exact .inr (digit_mem_alphabet _)
      · exact .inl rfl
      · exact .inl rfl
  | [a, b], c, member => by
      simp only [encode, List.mem_cons, List.not_mem_nil, or_false] at member
      rcases member with rfl | rfl | rfl | rfl
      · exact .inr (digit_mem_alphabet _)
      · exact .inr (digit_mem_alphabet _)
      · exact .inr (digit_mem_alphabet _)
      · exact .inl rfl
  | a :: b :: d :: rest, c, member => by
      simp only [encode, List.mem_cons] at member
      rcases member with rfl | rfl | rfl | rfl | member
      · exact .inr (digit_mem_alphabet _)
      · exact .inr (digit_mem_alphabet _)
      · exact .inr (digit_mem_alphabet _)
      · exact .inr (digit_mem_alphabet _)
      · exact mem_encode rest c member

theorem encode_eq_nil {bytes : List UInt8} : encode bytes = [] ↔ bytes = [] := by
  cases bytes using encode.fun_cases_unfolding <;> simp

end DeepOrc.Lib.Base64

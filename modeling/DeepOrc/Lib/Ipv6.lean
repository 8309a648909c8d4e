import DeepOrc.Lib.Ipv4
import DeepOrc.Lib.Text

/-! # IPv6 networks, and the texts of IPv6 addresses -/

namespace DeepOrc.Lib.Ipv6

structure Network where
  address : Nat
  bits : Nat
deriving DecidableEq, Repr

namespace Network

def size (network : Network) : Nat := 2 ^ (128 - network.bits)

def contains (network : Network) (ip : Nat) : Bool := ip / network.size == network.address / network.size

def first (network : Network) : Nat := network.address / network.size * network.size

def broadcast (network : Network) : Nat := network.first + network.size - 1

/-- Every address but the first, which is the routers' anycast address, in networks that have more than two. -/
def hosts (network : Network) : List Nat :=
  if 127 ≤ network.bits then List.range' network.first network.size
  else List.range' (network.first + 1) (network.size - 1)

theorem size_pos (network : Network) : 0 < network.size := Nat.two_pow_pos _

theorem contains_iff {network : Network} {ip : Nat} :
    network.contains ip = true ↔ network.first ≤ ip ∧ ip ≤ network.broadcast := by
  have positive := network.size_pos
  rw [contains, beq_iff_eq, broadcast, first, Nat.div_eq_iff positive]

theorem nodup_hosts (network : Network) : network.hosts.Nodup := by
  unfold hosts
  split <;> exact List.nodup_range'

theorem le_broadcast_of_mem_hosts {network : Network} {ip : Nat} (member : ip ∈ network.hosts) :
    ip ≤ network.broadcast := by
  have positive := network.size_pos
  unfold hosts at member
  unfold broadcast
  split at member <;> rw [List.mem_range'_1] at member <;> omega

end Network

/-! ### Texts -/

def hextets (ip : Nat) : List (List Char) :=
  (List.range 8).map fun index => Nat.toDigits 16 (ip / 2 ^ (16 * (7 - index)) % 2 ^ 16)

/-- A run of zeros; `current` is the one being read. -/
structure Runs where
  best : Nat × Nat
  current : Nat × Nat

/-- The first of the longest runs of zeros, as its start and its length. -/
def longestZeros (parts : List (List Char)) : Nat × Nat :=
  (parts.zipIdx.foldl (fun (runs : Runs) part =>
    if part.1 = ['0'] then
      let current := if runs.current.2 = 0 then (part.2, 1) else (runs.current.1, runs.current.2 + 1)
      ⟨if runs.best.2 < current.2 then current else runs.best, current⟩
    else ⟨runs.best, (0, 0)⟩) ⟨(0, 0), (0, 0)⟩).best

def compressHextets (parts : List (List Char)) : List (List Char) :=
  let (start, length) := longestZeros parts
  if length ≤ 1 then parts
  else
    (if start = 0 then [[]] else []) ++ parts.take start ++ [[]] ++ parts.drop (start + length) ++
      (if start + length = parts.length then [[]] else [])

def plainText (ip : Nat) : List Char := [':'].intercalate (compressHextets (hextets ip))

/-- The address of `::ffff:0:0/96` that stands for an IPv4 address. -/
def mapped (ip : Nat) : Bool := ip / 2 ^ 32 = 0xffff

def text (ip : Nat) : List Char :=
  if mapped ip then plainText (ip / 2 ^ 32) ++ ':' :: (Ipv4.dotted (ip % 2 ^ 32)).toList else plainText ip

def hexDigits : List Char := "0123456789abcdef".toList

theorem digitChar_mem {n : Nat} (small : n < 16) : n.digitChar ∈ hexDigits := by
  have all : ∀ digit < 16, digit.digitChar ∈ hexDigits := by decide
  exact all n small

theorem mem_hexDigits {n : Nat} {c : Char} (member : c ∈ Nat.toDigits 16 n) : c ∈ hexDigits := by
  induction n using Nat.strongRecOn with
  | ind n ih =>
      rw [Nat.toDigits_eq_if (by decide)] at member
      split at member
      · rename_i small
        rw [List.mem_singleton.mp member]
        exact digitChar_mem small
      · rename_i large
        rcases List.mem_append.mp member with front | last
        · exact ih (n / 16) (Nat.div_lt_self (by omega) (by decide)) front
        · rw [List.mem_singleton.mp last]
          exact digitChar_mem (Nat.mod_lt n (by decide))

/-- Some parts are left whatever run is taken out. -/
theorem length_compressHextets {parts : List (List Char)} (long : 2 ≤ parts.length) :
    2 ≤ (compressHextets parts).length := by
  unfold compressHextets
  generalize longestZeros parts = run
  obtain ⟨start, length⟩ := run
  by_cases short : length ≤ 1
  · simpa [short] using long
  · by_cases front : start = 0
    · simp [short, front]
    · simp [short, front]
      omega

theorem mem_compressHextets {parts : List (List Char)} {part : List Char} (member : part ∈ compressHextets parts) :
    part = [] ∨ part ∈ parts := by
  unfold compressHextets at member
  generalize longestZeros parts = run at member
  obtain ⟨start, length⟩ := run
  dsimp only at member
  split at member
  · exact .inr member
  · simp only [List.mem_append] at member
    rcases member with (((front | before) | middle) | after) | back
    · split at front
      · exact .inl (List.mem_singleton.mp front)
      · cases front
    · exact .inr (List.mem_of_mem_take before)
    · exact .inl (List.mem_singleton.mp middle)
    · exact .inr (List.mem_of_mem_drop after)
    · split at back
      · exact .inl (List.mem_singleton.mp back)
      · cases back

theorem mem_intercalate_of_length {sep : Char} {parts : List (List Char)} (long : 2 ≤ parts.length) :
    sep ∈ [sep].intercalate parts := by
  match parts, long with
  | first :: second :: rest, _ =>
      rw [List.intercalate_cons_cons]
      simp

theorem colon_mem_plainText (ip : Nat) : ':' ∈ plainText ip :=
  mem_intercalate_of_length (length_compressHextets (by simp [hextets]))

theorem dot_notMem_plainText (ip : Nat) : '.' ∉ plainText ip := by
  apply Text.notMem_intercalate (by decide)
  intro part member
  rcases mem_compressHextets member with rfl | member
  · exact List.not_mem_nil
  · obtain ⟨index, -, rfl⟩ := List.mem_map.mp member
    intro inside
    exact absurd (mem_hexDigits inside) (by decide)

end DeepOrc.Lib.Ipv6

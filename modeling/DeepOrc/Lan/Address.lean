import DeepOrc.Lib.Fields
import DeepOrc.Lib.Ipv6
import DeepOrc.Lib.Text
import DeepOrc.Models
import DeepOrc.Naming

/-!
# Addresses and networks of either version of IP

What `ip_address` and `ip_network` make of a group's texts, and the texts that are made of them again.
-/

namespace DeepOrc.Lan

open Models
open Lib.Ipv4 (dotted)

/-- An IPv6 address may come with a scope, which stays in its text. -/
inductive Address where
  | v4 (ip : Nat)
  | v6 (ip : Nat) (scope : Option (List Char))
deriving DecidableEq, Repr

inductive Subnet where
  | v4 (network : Lib.Ipv4.Network)
  | v6 (network : Lib.Ipv6.Network) (scope : Option (List Char))
deriving DecidableEq, Repr

def scopeText : Option (List Char) → List Char
  | none => []
  | some scope => '%' :: scope

namespace Address

def value : Address → Nat
  | .v4 ip | .v6 ip _ => ip

def text : Address → List Char
  | .v4 ip => (dotted ip).toList
  | .v6 ip scope => Lib.Ipv6.text ip ++ scopeText scope

/-- Whether `ip_address` takes the text: a scope is not empty and holds no `%` and no `/`. -/
def readable : Address → Bool
  | .v6 _ (some scope) => scope ≠ [] && !scope.contains '%' && !scope.contains '/'
  | _ => true

/-- `.strip()` on the text, in which blanks can only stand at the end of a scope. -/
def strip : Address → Address
  | .v6 ip (some scope) => .v6 ip (some (scope.rdropWhile Naming.isSpace))
  | address => address

/-- Steps of `address += 1`; the first one loses the scope. -/
def plus : Address → Nat → Address
  | address, 0 => address
  | .v4 ip, n => .v4 (ip + n)
  | .v6 ip _, n => .v6 (ip + n) none

end Address

namespace Subnet

def text : Subnet → String
  | .v4 network => network.text
  | .v6 network scope => s!"{String.ofList (Address.v6 network.address scope).text}/{network.bits}"

def contains : Subnet → Address → Bool
  | .v4 network, .v4 ip => network.contains ip
  | .v6 network _, .v6 ip _ => network.contains ip
  | _, _ => false

def broadcast : Subnet → Nat
  | .v4 network => network.broadcast
  | .v6 network _ => network.broadcast

def hosts : Subnet → List Nat
  | .v4 network => network.hosts
  | .v6 network _ => network.hosts

def networkAddress : Subnet → Nat
  | .v4 network => network.address
  | .v6 network _ => network.address

/-- An address of the subnet's version. -/
def address : Subnet → Nat → Address
  | .v4 _, ip => .v4 ip
  | .v6 _ _, ip => .v6 ip none

/-- The error of a sum past the last address of the version. -/
def overflow : Subnet → Nat → Option PyError
  | .v4 _, ip =>
      if 2 ^ 32 ≤ ip then some (.value s!"{ip} (>= 2**32) is not permitted as an IPv4 address") else none
  | .v6 _ _, ip =>
      if 2 ^ 128 ≤ ip then some (.value s!"{ip} (>= 2**128) is not permitted as an IPv6 address") else none

end Subnet

/-! ### Addresses in their order -/

theorem Address.value_plus (address : Address) (n : Nat) : (address.plus n).value = address.value + n := by
  cases n with
  | zero => rfl
  | succ n => cases address <;> rfl

theorem Address.plus_v4 (ip n : Nat) : (Address.v4 ip).plus n = .v4 (ip + n) := by
  cases n <;> rfl

theorem Address.plus_v6 (ip n : Nat) : (Address.v6 ip none).plus n = .v6 (ip + n) none := by
  cases n <;> rfl

theorem Address.plus_injective (address : Address) : Function.Injective address.plus := by
  intro m n same
  have values := congrArg Address.value same
  rw [address.value_plus, address.value_plus] at values
  omega

namespace Subnet

theorem nodup_hosts (subnet : Subnet) : subnet.hosts.Nodup := by
  cases subnet with
  | v4 network => exact network.nodup_hosts
  | v6 network scope => exact network.nodup_hosts

theorem le_broadcast_of_mem_hosts (subnet : Subnet) {host : Nat} (member : host ∈ subnet.hosts) :
    host ≤ subnet.broadcast := by
  cases subnet with
  | v4 network => exact Lib.Ipv4.Network.le_broadcast_of_mem_hosts member
  | v6 network scope => exact Lib.Ipv6.Network.le_broadcast_of_mem_hosts member

@[simp] theorem contains_strip (subnet : Subnet) (address : Address) :
    subnet.contains address.strip = subnet.contains address := by
  rcases address with ip | ⟨ip, _ | scope⟩ <;> cases subnet <;> rfl

/-- Up to the last address a walk stays inside. -/
theorem contains_plus {subnet : Subnet} {address : Address} (inside : subnet.contains address = true) {n : Nat}
    (short : address.value + n ≤ subnet.broadcast) : subnet.contains (address.plus n) = true := by
  cases n with
  | zero => exact inside
  | succ n =>
      cases subnet <;> cases address <;> try cases inside
      · have first := (Lib.Ipv4.Network.contains_iff.mp inside).1
        exact Lib.Ipv4.Network.contains_iff.mpr ⟨Nat.le_add_right_of_le first, short⟩
      · have first := (Lib.Ipv6.Network.contains_iff.mp inside).1
        exact Lib.Ipv6.Network.contains_iff.mpr ⟨Nat.le_add_right_of_le first, short⟩

end Subnet

/-! ### The slot in an address text -/

/-- `int` skips the blanks of C in ASCII and those of Unicode beyond it. -/
def skippedByInt (c : Char) : Bool := Naming.isSpace c && !(28 ≤ c.toNat && c.toNat ≤ 31)

/-- `int(text)`, for texts of at most 4300 digits. -/
def parseInt (text : List Char) : Except PyError Int :=
  let digits := text.countP Naming.isDecimal
  if 4300 < digits then
    .error (.value (s!"Exceeds the limit (4300 digits) for integer string conversion: value has {digits} digits; " ++
      "use sys.set_int_max_str_digits() to increase the limit"))
  else
    match Lib.Fields.readInt skippedByInt Naming.digitValue text with
    | some value => .ok value
    | none => .error (.value s!"invalid literal for int() with base 10: \x27{String.ofList text}\x27")

def Address.macvlanSlot (lanIp : Address) : Except PyError Int :=
  parseInt (((lanIp.text.splitOn '.').getLast?).getD [])

/-- The slot in the scope of an address. -/
def scopeSlot (scope : List Char) : Option Int :=
  if '.' ∈ scope then (parseInt (((scope.splitOn '.').getLast?).getD [])).toOption else none

theorem parseInt_octet {n : Nat} (small : n < 256) : parseInt (toString n).toList = .ok (n : Int) := by
  have text : (toString n).toList = Lib.Fields.decimal n := by
    rw [Nat.toString_eq_repr, Nat.toList_repr]
    rfl
  have short : (Lib.Fields.decimal n).length ≤ 3 := by
    have bound : (Nat.toDigits 10 n).length ≤ 3 := (Nat.length_toDigits_le_iff (by decide) (by decide)).mpr (by omega)
    exact bound
  have few := List.countP_le_length (p := Naming.isDecimal) (l := Lib.Fields.decimal n)
  have read : Lib.Fields.readInt skippedByInt Naming.digitValue (Lib.Fields.decimal n) = some (n : Int) := by
    refine Lib.Fields.readInt_decimal ?_ (fun c digit => Naming.digitValue_of_isDigit digit) n
    intro c digit
    rw [skippedByInt, Naming.isSpace_of_isDigit digit, Bool.false_and]
  rw [text, parseInt, if_neg (by omega), read]

theorem parseInt_foreign {text : List Char} {c : Char} (member : c ∈ text) (solid : skippedByInt c = false)
    (unsigned : c ≠ '-' ∧ c ≠ '+') (other : c ≠ '_') (foreign : Naming.digitValue c = none) :
    ∃ error, parseInt text = .error error := by
  unfold parseInt
  dsimp only
  split
  · exact ⟨_, rfl⟩
  · rw [Lib.Fields.readInt_foreign member solid unsigned other foreign]
    exact ⟨_, rfl⟩

theorem dotted_last (ip : Nat) : ∃ front, (dotted ip).toList = front ++ '.' :: (toString (ip % 256)).toList := by
  refine ⟨(s!"{ip / 16777216}.{ip / 65536 % 256}.{ip / 256 % 256}").toList, ?_⟩
  simp [dotted, show toString "." = "." from rfl]

namespace Address

theorem macvlanSlot_v4 (ip : Nat) : (Address.v4 ip).macvlanSlot = .ok (ip % 256 : Nat) := by
  obtain ⟨front, text⟩ := dotted_last ip
  rw [macvlanSlot, Address.text, text, Lib.Text.getLast?_splitOn (Lib.Text.notMem_numeral rfl)]
  exact parseInt_octet (Nat.mod_lt ip (by decide))

theorem macvlanSlot_mapped {ip : Nat} (mapped : Lib.Ipv6.mapped ip = true) :
    (Address.v6 ip none).macvlanSlot = .ok (ip % 256 : Nat) := by
  obtain ⟨front, text⟩ := dotted_last (ip % 2 ^ 32)
  have octet : ip % 2 ^ 32 % 256 = ip % 256 := Nat.mod_mod_of_dvd ip (by decide)
  have whole : (Address.v6 ip none).text =
      (Lib.Ipv6.plainText (ip / 2 ^ 32) ++ ':' :: front) ++ '.' :: (toString (ip % 256)).toList := by
    rw [Address.text, Lib.Ipv6.text, if_pos mapped, text, octet]
    simp [scopeText]
  rw [macvlanSlot, whole, Lib.Text.getLast?_splitOn (Lib.Text.notMem_numeral rfl)]
  exact parseInt_octet (Nat.mod_lt ip (by decide))

/-- Without a scope no other IPv6 address has a last octet to read. -/
theorem macvlanSlot_plain {ip : Nat} (plain : Lib.Ipv6.mapped ip = false) :
    ∃ error, (Address.v6 ip none).macvlanSlot = .error error := by
  have text : (Address.v6 ip none).text = Lib.Ipv6.plainText ip := by
    rw [Address.text, Lib.Ipv6.text, plain, if_neg Bool.false_ne_true]
    exact List.append_nil _
  rw [macvlanSlot, text, List.splitOn_eq_singleton (Lib.Ipv6.dot_notMem_plainText ip)]
  exact parseInt_foreign (Lib.Ipv6.colon_mem_plainText ip) (by decide) (by decide) (by decide) (by decide)

/-- With a scope, what stands behind its last dot is read. -/
theorem macvlanSlot_scope {ip : Nat} {scope : List Char} {slot : Int} :
    (Address.v6 ip (some scope)).macvlanSlot = .ok slot ↔ scopeSlot scope = some slot := by
  have text : (Address.v6 ip (some scope)).text = Lib.Ipv6.text ip ++ '%' :: scope := rfl
  rw [macvlanSlot, text, scopeSlot]
  by_cases dotted : '.' ∈ scope
  · obtain ⟨front, last, rfl, absent⟩ := Lib.Text.exists_last_sep dotted
    have parts : Lib.Ipv6.text ip ++ '%' :: (front ++ '.' :: last) = (Lib.Ipv6.text ip ++ '%' :: front) ++ '.' :: last := by
      simp
    rw [if_pos dotted, parts, Lib.Text.getLast?_splitOn absent, Lib.Text.getLast?_splitOn absent]
    show parseInt last = .ok slot ↔ (parseInt last).toOption = some slot
    cases parseInt last <;> simp [Except.toOption]
  · have absent : '.' ∉ '%' :: scope := by
      rw [List.mem_cons, not_or]
      exact ⟨by decide, dotted⟩
    have percent := Lib.Text.subset_last_part absent (Lib.Ipv6.text ip) List.mem_cons_self
    obtain ⟨error, failed⟩ := parseInt_foreign percent (by decide) (by decide) (by decide) (by decide)
    rw [if_neg dotted, failed]
    constructor <;> nofun

theorem text_ne_nil (address : Address) : address.text ≠ [] := by
  cases address with
  | v4 ip =>
      obtain ⟨front, text⟩ := dotted_last ip
      rw [Address.text, text]
      simp
  | v6 ip scope =>
      rw [Address.text, Lib.Ipv6.text]
      refine List.append_ne_nil_of_left_ne_nil ?_ _
      split
      · simp
      · exact List.ne_nil_of_mem (Lib.Ipv6.colon_mem_plainText ip)

theorem ofList_text_ne_empty (address : Address) : String.ofList address.text ≠ "" := by
  intro empty
  have letters := congrArg String.toList empty
  rw [String.toList_ofList] at letters
  exact address.text_ne_nil letters

end Address

end DeepOrc.Lan

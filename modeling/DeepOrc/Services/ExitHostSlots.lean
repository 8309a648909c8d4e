import DeepOrc.HostSetup.BlockWords
import DeepOrc.Services.GroupRuns

/-!
# What the gateways of a group take on the exit host

The last octet of an address names the macvlan and is its routing table and the offset of its rules. An IPv6 address
has such an octet when it stands for an IPv4 one, and the start may have a number in its scope; without it the creation
ends before anything is stored.
-/

namespace DeepOrc.Services

open HostSetup (blockLists macText macvlans priorities tables)
open Models Lan
open Lib (Table)

/-! ### The addresses of a run -/

/-- `allocate_lan_ip` returns the address in a round of the loop. -/
def AllocatedEach (groupId : Nat) (group : PeerGroup) (calls : Nat → CreationCalls) (s : GroupDb) (count : Nat)
    (lanIp : Address) : Prop :=
  ∃ round < count, ∃ results, (createEach groupId group round calls s).2 = .ok results ∧
    allocateLanIp (createEach groupId group round calls s).1 groupId group = .ok lanIp

def AllocatedIn (groupId : Nat) (s : GroupDb) (batch : Batch) (lanIp : Address) : Prop :=
  ∃ group, checkBatch s groupId batch.2 = .ok group ∧ AllocatedEach groupId group batch.1 s batch.2 lanIp

def Allocated (groupId : Nat) (s : GroupDb) (batches : List Batch) (lanIp : Address) : Prop :=
  ∃ front batch rest, batches = front ++ batch :: rest ∧ AllocatedIn groupId (afterBatches groupId s front) batch lanIp

/-! ### What the blocks of the setup script take -/

/-- Not an octet that is a table of the kernel's. -/
def reservedSlots : List Int := [0, 253, 254, 255]

def reservedTables : List String := ["0", "253", "254", "255"]

/-- What else the script reads of a gateway. -/
structure HostDetails where
  name : String
  status : GatewayStatus
  config : Option String

def hostEntry (details : Nat → HostDetails) (s : GroupDb) (id : Nat) : HostSetup.Entry :=
  (⟨(details id).name, (details id).status, (s.lan id).lanIp.map fun lanIp => String.ofList lanIp.text,
    (s.lan id).macvlanSlot⟩, (details id).config)

structure ExitHostSound (group : PeerGroup) (groupId : Nat) (allocated : Address → Prop) (s : GroupDb) : Prop where
  defined : ∀ lanIp, allocated lanIp → ∃ slot, lanIp.macvlanSlot = .ok slot
  held : ∀ id ∈ groupGateways s groupId, ∃ lanIp slot, (s.lan id).lanIp = some lanIp ∧
    lanIp.macvlanSlot = .ok slot ∧ (s.lan id).macvlanSlot = some slot
  apart : ∀ details, ∀ one ∈ groupGateways s groupId, ∀ other ∈ groupGateways s groupId, one ≠ other →
    let block := blockLists group (hostEntry details s one)
    let block' := blockLists group (hostEntry details s other)
    (macvlans block).Disjoint (macvlans block') ∧ (tables block).Disjoint (tables block') ∧
      (priorities block).Disjoint (priorities block')
  unreserved : ∀ details, ∀ id ∈ groupGateways s groupId,
    (tables (blockLists group (hostEntry details s id))).Disjoint reservedTables

/-! ### Slots that do not collide -/

def lastOctet (ip : Nat) : Int := (ip % 256 : Nat)

/-- The last octets from the start on leave out the reserved ones, and so do not come round. -/
def SlotsClear (start n : Nat) : Prop := n = 0 ∨ 1 ≤ start % 256 ∧ start % 256 + n ≤ 253

/-- The two kinds of rule of a gateway are 500 apart. -/
def Apart (slot other : Int) : Prop := slot ≠ other ∧ slot ≠ other + 500 ∧ other ≠ slot + 500

/-- For `n` gateways. A scope is read for the start alone, as the walk loses it. -/
def SlotsSuit (start : Address) (allocated : Address → Prop) (n : Nat) : Prop :=
  match start with
  | .v4 ip => SlotsClear ip n
  | .v6 ip none => allocated start → Lib.Ipv6.mapped ip = true ∧ SlotsClear ip n
  | .v6 ip (some scope) => allocated start → ∃ slot, scopeSlot scope = some slot ∧ (n = 0 ∨ slot ∉ reservedSlots) ∧
      (allocated (.v6 (ip + 1) none) → Lib.Ipv6.mapped (ip + 1) = true ∧ SlotsClear (ip + 1) (n - 1) ∧
        ∀ place < n - 1, Apart slot (lastOctet (ip + 1 + place)))

theorem slotsClear_iff {start n : Nat} :
    SlotsClear start n ↔ ∀ place < n, lastOctet (start + place) ∉ reservedSlots := by
  simp only [SlotsClear, reservedSlots, lastOctet, List.mem_cons, List.not_mem_nil, or_false, not_or]
  constructor
  · intro clear place short
    omega
  · intro unreserved
    by_contra blocked
    rw [not_or, not_and_or] at blocked
    obtain ⟨some_one, bounds⟩ := blocked
    have first := unreserved 0 (by omega)
    have last := unreserved (253 - start % 256)
    omega

theorem SlotsClear.apart {start n one other : Nat} (clear : SlotsClear start n) (second : other < n)
    (order : one < other) : Apart (lastOctet (start + one)) (lastOctet (start + other)) := by
  unfold SlotsClear at clear
  unfold Apart lastOctet
  omega

/-- Another last octet does not take an address out of its network of 256. -/
theorem mapped_add {ip n : Nat} (mapped : Lib.Ipv6.mapped ip = true) (near : ip % 256 + n < 256) :
    Lib.Ipv6.mapped (ip + n) = true := by
  have front : ip / 2 ^ 32 = 0xffff := of_decide_eq_true mapped
  exact decide_eq_true (show (ip + n) / 2 ^ 32 = 0xffff by omega)

theorem macvlanSlot_plain_iff {ip : Nat} {slot : Int} :
    (Address.v6 ip none).macvlanSlot = .ok slot ↔ Lib.Ipv6.mapped ip = true ∧ slot = lastOctet ip := by
  cases mapped : Lib.Ipv6.mapped ip with
  | true =>
      rw [Address.macvlanSlot_mapped mapped, Except.ok.injEq]
      exact ⟨fun same => ⟨rfl, same.symm⟩, fun same => same.2.symm⟩
  | false =>
      obtain ⟨error, failed⟩ := Address.macvlanSlot_plain mapped
      rw [failed]
      constructor <;> nofun

/-- What the places of a run ask for: the first `m` are read, and the first `n` taken. -/
structure PlacesSound (start : Address) (m n : Nat) : Prop where
  defined : ∀ place < m, ∃ slot, (start.plus place).macvlanSlot = .ok slot
  apart : ∀ one other slot slot', one < other → other < n → (start.plus one).macvlanSlot = .ok slot →
    (start.plus other).macvlanSlot = .ok slot' → Apart slot slot'
  unreserved : ∀ place slot, place < n → (start.plus place).macvlanSlot = .ok slot → slot ∉ reservedSlots

/-- Addresses with their own last octets. -/
theorem placesSound_octets_iff {start : Address} {ip m n : Nat} (within : n ≤ m)
    (octets : ∀ place slot, (start.plus place).macvlanSlot = .ok slot → slot = lastOctet (ip + place)) :
    PlacesSound start m n ↔ (∀ place < m, ∃ slot, (start.plus place).macvlanSlot = .ok slot) ∧ SlotsClear ip n := by
  constructor
  · intro sound
    refine ⟨sound.defined, slotsClear_iff.mpr fun place short => ?_⟩
    obtain ⟨slot, read⟩ := sound.defined place (by omega)
    rw [← octets place slot read]
    exact sound.unreserved place slot short read
  · rintro ⟨defined, clear⟩
    refine ⟨defined, ?_, ?_⟩
    · intro one other slot slot' order short read read'
      rw [octets one slot read, octets other slot' read']
      exact clear.apart short order
    · intro place slot short read
      rw [octets place slot read]
      exact slotsClear_iff.mp clear place short

section Places

variable {m n : Nat} (within : n ≤ m) (few : m ≤ n + 1)

include within

theorem placesSound_v4_iff {ip : Nat} : PlacesSound (.v4 ip) m n ↔ SlotsClear ip n := by
  have octets : ∀ place, ((Address.v4 ip).plus place).macvlanSlot = .ok (lastOctet (ip + place)) := by
    intro place
    rw [Address.plus_v4, Address.macvlanSlot_v4]
    rfl
  rw [placesSound_octets_iff within fun place slot read => Except.ok.inj (read.symm.trans (octets place)),
    and_iff_right fun place _ => ⟨_, octets place⟩]

include few

/-- At most one address more is read than is taken. -/
theorem placesSound_v6_iff {ip : Nat} :
    PlacesSound (.v6 ip none) m n ↔ (0 < m → Lib.Ipv6.mapped ip = true ∧ SlotsClear ip n) := by
  have read : ∀ place slot, ((Address.v6 ip none).plus place).macvlanSlot = .ok slot ↔
      Lib.Ipv6.mapped (ip + place) = true ∧ slot = lastOctet (ip + place) := by
    intro place slot
    rw [Address.plus_v6, macvlanSlot_plain_iff]
  rw [placesSound_octets_iff within fun place slot found => ((read place slot).mp found).2]
  constructor
  · rintro ⟨defined, clear⟩ some_one
    obtain ⟨slot, found⟩ := defined 0 some_one
    exact ⟨((read 0 slot).mp found).1, clear⟩
  · intro suit
    have clear : SlotsClear ip n := by
      rcases Nat.eq_zero_or_pos m with rfl | some_one
      · exact .inl (Nat.le_zero.mp within)
      · exact (suit some_one).2
    refine ⟨fun place short => ⟨_, (read place _).mpr ⟨?_, rfl⟩⟩, clear⟩
    have near : ip % 256 + place < 256 := by
      unfold SlotsClear at clear
      omega
    exact mapped_add (suit (by omega)).1 near

theorem placesSound_scope_iff {ip : Nat} {scope : List Char} :
    PlacesSound (.v6 ip (some scope)) m n ↔ (0 < m → ∃ slot, scopeSlot scope = some slot ∧
      (n = 0 ∨ slot ∉ reservedSlots) ∧ (1 < m → Lib.Ipv6.mapped (ip + 1) = true ∧ SlotsClear (ip + 1) (n - 1) ∧
        ∀ place < n - 1, Apart slot (lastOctet (ip + 1 + place)))) := by
  have later : ∀ place, (Address.v6 ip (some scope)).plus (place + 1) = (Address.v6 (ip + 1) none).plus place := by
    intro place
    rw [Address.plus_v6]
    show Address.v6 (ip + (place + 1)) none = _
    rw [Nat.add_assoc, Nat.add_comm place]
  have rest : PlacesSound (.v6 (ip + 1) none) (m - 1) (n - 1) ↔
      (0 < m - 1 → Lib.Ipv6.mapped (ip + 1) = true ∧ SlotsClear (ip + 1) (n - 1)) :=
    placesSound_v6_iff (by omega) (by omega)
  constructor
  · intro sound some_one
    obtain ⟨slot, read⟩ := sound.defined 0 some_one
    have tail : PlacesSound (.v6 (ip + 1) none) (m - 1) (n - 1) := by
      refine ⟨?_, ?_, ?_⟩
      · intro place short
        rw [← later]
        exact sound.defined (place + 1) (by omega)
      · intro one other slot slot' order short
        rw [← later, ← later]
        exact sound.apart (one + 1) (other + 1) slot slot' (by omega) (by omega)
      · intro place slot short
        rw [← later]
        exact sound.unreserved (place + 1) slot (by omega)
    refine ⟨slot, Address.macvlanSlot_scope.mp read, ?_, ?_⟩
    · rcases Nat.eq_zero_or_pos n with none_ | taken
      · exact .inl none_
      · exact .inr (sound.unreserved 0 slot taken read)
    · intro second
      obtain ⟨mapped, clear⟩ := rest.mp tail (by omega)
      refine ⟨mapped, clear, fun place short => ?_⟩
      obtain ⟨slot', read'⟩ := tail.defined place (by omega)
      have same : slot' = lastOctet (ip + 1 + place) := by
        rw [Address.plus_v6, macvlanSlot_plain_iff] at read'
        exact read'.2
      rw [← same]
      rw [← later] at read'
      exact sound.apart 0 (place + 1) slot slot' (by omega) (by omega) read read'
  · intro suit
    have tail : PlacesSound (.v6 (ip + 1) none) (m - 1) (n - 1) := by
      apply rest.mpr
      intro second
      obtain ⟨slot, -, -, others⟩ := suit (by omega)
      exact ⟨(others (by omega)).1, (others (by omega)).2.1⟩
    have first : ∀ slot, ((Address.v6 ip (some scope)).plus 0).macvlanSlot = .ok slot ↔ scopeSlot scope = some slot :=
      fun slot => Address.macvlanSlot_scope
    refine ⟨?_, ?_, ?_⟩
    · intro place short
      cases place with
      | zero =>
          obtain ⟨slot, read, -, -⟩ := suit short
          exact ⟨slot, (first slot).mpr read⟩
      | succ place =>
          rw [later]
          exact tail.defined place (by omega)
    · intro one other slot slot' order short read read'
      obtain ⟨other, rfl⟩ := Nat.exists_eq_succ_of_ne_zero (Nat.ne_zero_of_lt order)
      rw [later] at read'
      cases one with
      | zero =>
          obtain ⟨slot'', known, -, others⟩ := suit (by omega)
          have same : slot'' = slot := Option.some.inj (known.symm.trans ((first slot).mp read))
          rw [Address.plus_v6, macvlanSlot_plain_iff] at read'
          rw [read'.2, ← same]
          exact (others (by omega)).2.2 other (by omega)
      | succ one =>
          rw [later] at read
          exact tail.apart one other slot slot' (by omega) (by omega) read read'
    · intro place slot short read
      cases place with
      | zero =>
          obtain ⟨slot', known, free, -⟩ := suit (by omega)
          have same : slot' = slot := Option.some.inj (known.symm.trans ((first slot).mp read))
          rw [← same]
          exact free.resolve_left (by omega)
      | succ place =>
          rw [later] at read
          exact tail.unreserved place slot (by omega) read

/-- The first `m` addresses are the allocated ones. -/
theorem placesSound_iff {start : Address} {allocated : Address → Prop}
    (places : ∀ lanIp, allocated lanIp ↔ ∃ place < m, lanIp = start.plus place) :
    PlacesSound start m n ↔ SlotsSuit start allocated n := by
  have at_place : ∀ place, allocated (start.plus place) ↔ place < m := by
    intro place
    rw [places]
    constructor
    · rintro ⟨other, short, same⟩
      exact start.plus_injective same ▸ short
    · exact fun short => ⟨place, short, rfl⟩
  have first : allocated start ↔ 0 < m := at_place 0
  cases start with
  | v4 ip => exact placesSound_v4_iff within
  | v6 ip scope =>
      cases scope with
      | none =>
          show _ ↔ (allocated _ → _)
          rw [first]
          exact placesSound_v6_iff within few
      | some scope =>
          have second : allocated (.v6 (ip + 1) none) ↔ 1 < m := at_place 1
          show _ ↔ (allocated _ → ∃ slot, _ ∧ _ ∧ (allocated _ → _))
          rw [first, second]
          exact placesSound_scope_iff within few

end Places

/-! ### The allocated addresses of a run -/

section Round

variable {groupId : Nat} {group : PeerGroup} {calls : Nat → CreationCalls} {s : GroupDb} {lanIp : Address}

/-- A round that allocates nothing is the last. -/
theorem allocatedEach_of_exhausted {count : Nat} {error : PyError} (failed : allocateLanIp s groupId group = .error error) :
    ¬AllocatedEach groupId group calls s count lanIp := by
  rintro ⟨round, short, results, ran, allocated⟩
  cases round with
  | zero =>
      simp only [createEach, failed] at allocated
      cases allocated
  | succ round =>
      simp only [createEach, failed] at ran
      cases ran

theorem allocatedEach_of_refused {count : Nat} {ip : Address} {error : PyError}
    (allocated : allocateLanIp s groupId group = .ok ip) (failed : createAt groupId group (calls 0) s ip = .error error) :
    AllocatedEach groupId group calls s (count + 1) lanIp ↔ lanIp = ip := by
  constructor
  · rintro ⟨round, short, results, ran, found⟩
    cases round with
    | zero =>
        simp only [createEach, allocated] at found
        exact (Except.ok.inj found).symm
    | succ round =>
        simp only [createEach, allocated, failed] at ran
        cases ran
  · rintro rfl
    exact ⟨0, Nat.succ_pos count, [], by simp only [createEach], by simpa only [createEach] using allocated⟩

theorem allocatedEach_of_created {count : Nat} {ip : Address} {t : GroupDb} {result : Nat × Nat}
    (allocated : allocateLanIp s groupId group = .ok ip) (created : createAt groupId group (calls 0) s ip = .ok (t, result)) :
    AllocatedEach groupId group calls s (count + 1) lanIp ↔
      lanIp = ip ∨ AllocatedEach groupId group (fun later => calls (later + 1)) t count lanIp := by
  constructor
  · rintro ⟨round, short, results, ran, found⟩
    cases round with
    | zero =>
        simp only [createEach, allocated] at found
        exact .inl (Except.ok.inj found).symm
    | succ round =>
        simp only [createEach, allocated, created, addResult] at ran found
        obtain ⟨tail, ran, -⟩ := map_ok ran
        exact .inr ⟨round, by omega, tail, ran, found⟩
  · rintro (rfl | ⟨round, short, results, ran, found⟩)
    · exact ⟨0, Nat.succ_pos count, [], by simp only [createEach], by simpa only [createEach] using allocated⟩
    · refine ⟨round + 1, by omega, result :: results, ?_, ?_⟩
      · simp only [createEach, allocated, created, addResult, ran]
        rfl
      · simpa only [createEach, allocated, created, addResult] using found

end Round

/-- After some calls `n` gateways hold the first addresses, and `m` addresses were allocated, those from `old` on by them. -/
structure Reached (groupId : Nat) (start : Address) (t : GroupDb) (allocated : Address → Prop) (old m n : Nat) : Prop where
  filled : Filled t groupId start n
  read : ∀ place < n, ∃ slot, (start.plus place).macvlanSlot = .ok slot
  within : n ≤ m
  few : m ≤ n + 1
  places : ∀ lanIp, allocated lanIp ↔ ∃ place < m, old ≤ place ∧ lanIp = start.plus place

section Run

variable {groupId : Nat} {group : PeerGroup}

theorem reached_idle {start : Address} {s : GroupDb} {allocated : Address → Prop} {n : Nat}
    (filled : Filled s groupId start n) (read : ∀ place < n, ∃ slot, (start.plus place).macvlanSlot = .ok slot)
    (idle : ∀ lanIp, ¬allocated lanIp) : Reached groupId start s allocated n n n where
  filled := filled
  read := read
  within := Nat.le_refl n
  few := Nat.le_succ n
  places := by
    intro lanIp
    apply iff_of_false (idle lanIp)
    rintro ⟨place, short, later, -⟩
    omega

theorem createEach_reached (count : Nat) :
    ∀ (calls : Nat → CreationCalls) (s : GroupDb) (n : Nat), Filled s groupId group.lanStartIp n →
      (∀ place < n, ∃ slot, (group.lanStartIp.plus place).macvlanSlot = .ok slot) →
        ∃ m n', n ≤ n' ∧ Reached groupId group.lanStartIp (createEach groupId group count calls s).1
          (AllocatedEach groupId group calls s count) n m n' := by
  induction count with
  | zero =>
      intro calls s n filled read
      refine ⟨n, n, Nat.le_refl n, reached_idle (by simpa only [createEach] using filled) read ?_⟩
      rintro lanIp ⟨round, short, -⟩
      exact Nat.not_lt_zero round short
  | succ count ih =>
      intro calls s n filled read
      cases search : allocateLanIp s groupId group with
      | error error =>
          simp only [createEach, search]
          exact ⟨n, n, Nat.le_refl n, reached_idle filled read fun lanIp => allocatedEach_of_exhausted search⟩
      | ok ip =>
          have next := filled.allocateLanIp search
          cases done : createAt groupId group (calls 0) s ip with
          | error error =>
              simp only [createEach, search, done]
              refine ⟨n + 1, n, Nat.le_refl n, filled, read, Nat.le_succ n, Nat.le_refl _, ?_⟩
              intro lanIp
              rw [allocatedEach_of_refused search done, next]
              constructor
              · exact fun same => ⟨n, Nat.lt_succ_self n, Nat.le_refl n, same⟩
              · rintro ⟨place, short, later, same⟩
                rwa [show place = n by omega] at same
          | ok outcome =>
              obtain ⟨t, gatewayId, jobId⟩ := outcome
              obtain ⟨created⟩ := createAt_ok search done
              have own := filled.allocateLanIp created.allocated
              have read' : ∀ place < n + 1, ∃ slot, (group.lanStartIp.plus place).macvlanSlot = .ok slot := by
                intro place short
                by_cases last : place = n
                · rw [last, ← own]
                  exact ⟨created.slot, created.read⟩
                · exact read place (by omega)
              obtain ⟨m, n', more, reached⟩ := ih (fun later => calls (later + 1)) t (n + 1) (filled.created created) read'
              simp only [createEach, search, done, addResult]
              refine ⟨m, n', by omega, reached.filled, reached.read, reached.within, reached.few, ?_⟩
              intro lanIp
              rw [allocatedEach_of_created search done, next, reached.places]
              have within := reached.within
              constructor
              · rintro (same | ⟨place, short, later, same⟩)
                · exact ⟨n, by omega, Nat.le_refl n, same⟩
                · exact ⟨place, short, by omega, same⟩
              · rintro ⟨place, short, later, same⟩
                by_cases last : place = n
                · exact .inl (last ▸ same)
                · exact .inr ⟨place, short, by omega, same⟩

theorem createGateways_reached {s : GroupDb} {n : Nat} (stored : s.groups.get groupId = some group) (batch : Batch)
    (filled : Filled s groupId group.lanStartIp n)
    (read : ∀ place < n, ∃ slot, (group.lanStartIp.plus place).macvlanSlot = .ok slot) :
    ∃ m n', n ≤ n' ∧ Reached groupId group.lanStartIp (createGateways batch.1 s groupId batch.2).1
      (AllocatedIn groupId s batch) n m n' := by
  unfold createGateways AllocatedIn
  cases checked : checkBatch s groupId batch.2 with
  | error error =>
      refine ⟨n, n, Nat.le_refl n, reached_idle filled read ?_⟩
      rintro lanIp ⟨other, admitted, -⟩
      cases admitted
  | ok other =>
      obtain ⟨-, -, present, -⟩ := checkBatch_ok_iff.mp checked
      rw [stored] at present
      cases present
      obtain ⟨m, n', more, reached⟩ := createEach_reached batch.2 batch.1 s n filled read
      refine ⟨m, n', more, reached.filled, reached.read, reached.within, reached.few, ?_⟩
      intro lanIp
      rw [← reached.places]
      constructor
      · rintro ⟨other, admitted, each⟩
        cases admitted
        exact each
      · exact fun each => ⟨group, rfl, each⟩

theorem afterBatches_concat (s : GroupDb) (batches : List Batch) (batch : Batch) :
    afterBatches groupId s (batches ++ [batch]) =
      (createGateways batch.1 (afterBatches groupId s batches) groupId batch.2).1 := by
  rw [afterBatches, List.foldl_append]
  rfl

theorem allocated_concat {s : GroupDb} {batches : List Batch} {batch : Batch} {lanIp : Address} :
    Allocated groupId s (batches ++ [batch]) lanIp ↔
      Allocated groupId s batches lanIp ∨ AllocatedIn groupId (afterBatches groupId s batches) batch lanIp := by
  constructor
  · rintro ⟨front, own, rest, parts, allocated⟩
    rcases List.eq_nil_or_concat rest with rfl | ⟨rest, last, rfl⟩
    · obtain ⟨rfl, same⟩ := List.append_inj' parts rfl
      cases same
      exact .inr allocated
    · rw [List.concat_eq_append, ← List.cons_append, ← List.append_assoc] at parts
      obtain ⟨rfl, -⟩ := List.append_inj' parts rfl
      exact .inl ⟨front, own, rest, rfl, allocated⟩
  · rintro (⟨front, own, rest, rfl, allocated⟩ | allocated)
    · exact ⟨front, own, rest ++ [batch], by simp, allocated⟩
    · exact ⟨batches, batch, [], rfl, allocated⟩

theorem afterBatches_reached {s : GroupDb} (stored : s.groups.get groupId = some group)
    (fresh : groupGateways s groupId = []) (batches : List Batch) :
    (afterBatches groupId s batches).groups.get groupId = some group ∧
      ∃ m n, Reached groupId group.lanStartIp (afterBatches groupId s batches) (Allocated groupId s batches) 0 m n := by
  induction batches using List.reverseRecOn with
  | nil =>
      refine ⟨stored, 0, 0, reached_idle (filled_none fresh _) (fun _ short => absurd short (Nat.not_lt_zero _)) ?_⟩
      rintro lanIp ⟨front, batch, rest, parts, -⟩
      simp at parts
  | append_singleton batches batch ih =>
      obtain ⟨kept, m, n, before⟩ := ih
      obtain ⟨m', n', more, after⟩ := createGateways_reached kept batch before.filled before.read
      rw [afterBatches_concat]
      refine ⟨by rw [createGateways_groups, kept], max m m', n', after.filled, after.read, ?_, ?_, ?_⟩
      · exact Nat.le_trans after.within (Nat.le_max_right m m')
      · have few := before.few
        have few' := after.few
        omega
      · intro lanIp
        rw [allocated_concat, before.places, after.places]
        have within := before.within
        constructor
        · rintro (⟨place, short, -, same⟩ | ⟨place, short, -, same⟩)
          · exact ⟨place, by omega, Nat.zero_le place, same⟩
          · exact ⟨place, by omega, Nat.zero_le place, same⟩
        · rintro ⟨place, short, -, same⟩
          by_cases old : place < m
          · exact .inl ⟨place, old, Nat.zero_le place, same⟩
          · exact .inr ⟨place, by omega, by omega, same⟩

end Run

/-! ### From the places to the scripts -/

theorem macText_injective : Function.Injective macText := by
  intro slot other same
  have letters := congrArg String.toList (show "mac_" ++ toString slot = "mac_" ++ toString other from same)
  rw [String.toList_append, String.toList_append] at letters
  exact Lib.Text.intNumeral_injective (String.toList_inj.mp (List.append_cancel_left letters))

theorem mem_reservedTables_iff {slot : Int} : toString slot ∈ reservedTables ↔ slot ∈ reservedSlots := by
  have texts : reservedTables = reservedSlots.map fun n : Int => toString n := by decide
  rw [texts, List.mem_map_of_injective Lib.Text.intNumeral_injective]

section Sound

variable {groupId m n : Nat} {group : PeerGroup} {s : GroupDb} {allocated : Address → Prop}
  (reached : Reached groupId group.lanStartIp s allocated 0 m n)

include reached

/-- A gateway of the group with its place, its slot and its entry. -/
theorem Reached.gateway {id : Nat} (member : id ∈ groupGateways s groupId) :
    ∃ place < n, ∃ slot, (groupGateways s groupId)[place]? = some id ∧
      (group.lanStartIp.plus place).macvlanSlot = .ok slot ∧ s.lan id = ⟨some groupId, some (group.lanStartIp.plus place), some slot⟩ := by
  obtain ⟨place, short, found, columns⟩ := reached.filled.place member
  obtain ⟨slot, read⟩ := reached.read place short
  refine ⟨place, short, slot, found, read, ?_⟩
  rw [columns, lanColumns, read]
  rfl

theorem Reached.holder {place : Nat} {slot : Int} (short : place < n)
    (read : (group.lanStartIp.plus place).macvlanSlot = .ok slot) :
    ∃ id ∈ groupGateways s groupId, s.lan id = ⟨some groupId, some (group.lanStartIp.plus place), some slot⟩ := by
  obtain ⟨id, member, columns⟩ := reached.filled.holder short
  rw [lanColumns, read] at columns
  exact ⟨id, member, columns⟩

end Sound

section Words

variable {details : Nat → HostDetails} {s : GroupDb} {group : PeerGroup} {groupId id : Nat} {lanIp : Address} {slot : Int}
  (columns : s.lan id = ⟨some groupId, some lanIp, some slot⟩)

include columns

theorem hostEntry_address : Lib.Text.given (hostEntry details s id).1.lanIp = some (String.ofList lanIp.text) := by
  rw [hostEntry, columns]
  exact Lib.Text.given_some lanIp.ofList_text_ne_empty

theorem hostEntry_slot : (hostEntry details s id).1.macvlanSlot = some slot := by
  rw [hostEntry, columns]

theorem mem_macvlans_hostEntry {name : String} :
    name ∈ macvlans (blockLists group (hostEntry details s id)) ↔ name = macText slot :=
  HostSetup.mem_macvlans_iff (hostEntry_address columns) (hostEntry_slot columns)

theorem mem_tables_hostEntry {table : String} :
    table ∈ tables (blockLists group (hostEntry details s id)) ↔ table = toString slot :=
  HostSetup.mem_tables_iff (hostEntry_address columns) (hostEntry_slot columns)

theorem mem_priorities_hostEntry {pref : String} : pref ∈ priorities (blockLists group (hostEntry details s id)) ↔
    pref = toString (32000 + slot) ∨ (details id).status = .ready ∧ HostSetup.validWgConf (details id).config = true ∧
      pref = toString (32500 + slot) :=
  HostSetup.mem_priorities_iff (hostEntry_address columns) (hostEntry_slot columns)

end Words

/-- A gateway whose block starts WireGuard. -/
def connected : HostDetails := ⟨"gw-000", .ready, some "[Interface]\nPrivateKey = k\n[Peer]\nPublicKey = p\n"⟩

theorem connected_config : HostSetup.validWgConf connected.config = true := by decide +kernel

theorem Reached.sound_iff {groupId m n : Nat} {group : PeerGroup} {s : GroupDb} {allocated : Address → Prop}
    (reached : Reached groupId group.lanStartIp s allocated 0 m n) :
    ExitHostSound group groupId allocated s ↔ PlacesSound group.lanStartIp m n := by
  constructor
  · intro sound
    refine ⟨?_, ?_, ?_⟩
    · intro place short
      exact sound.defined _ ((reached.places _).mpr ⟨place, short, Nat.zero_le place, rfl⟩)
    · intro one other slot slot' order short read read'
      obtain ⟨id, member, columns⟩ := reached.holder (by omega) read
      obtain ⟨id', member', columns'⟩ := reached.holder short read'
      have different : id ≠ id' := by
        rintro rfl
        rw [columns] at columns'
        have same := group.lanStartIp.plus_injective (Option.some.inj (congrArg LanColumns.lanIp columns'))
        omega
      obtain ⟨-, routes, rules⟩ := sound.apart (fun _ => connected) id member id' member' different
      have ruled : toString (32000 + slot) ∈ priorities (blockLists group (hostEntry (fun _ => connected) s id)) :=
        (mem_priorities_hostEntry columns).mpr (.inl rfl)
      have ruled' : toString (32000 + slot') ∈ priorities (blockLists group (hostEntry (fun _ => connected) s id')) :=
        (mem_priorities_hostEntry columns').mpr (.inl rfl)
      refine ⟨?_, ?_, ?_⟩
      · rintro rfl
        exact routes ((mem_tables_hostEntry columns).mpr rfl) ((mem_tables_hostEntry columns').mpr rfl)
      · intro same
        refine rules ruled ((mem_priorities_hostEntry columns').mpr (.inr ⟨rfl, connected_config, ?_⟩))
        rw [same, ← Int.add_assoc, Int.add_right_comm]
        rfl
      · intro same
        refine rules ((mem_priorities_hostEntry columns).mpr (.inr ⟨rfl, connected_config, ?_⟩)) ruled'
        rw [same, ← Int.add_assoc, Int.add_right_comm]
        rfl
    · intro place slot short read reserved
      obtain ⟨id, member, columns⟩ := reached.holder short read
      exact sound.unreserved (fun _ => connected) id member ((mem_tables_hostEntry columns).mpr rfl)
        (mem_reservedTables_iff.mpr reserved)
  · intro sound
    refine ⟨?_, ?_, ?_, ?_⟩
    · intro lanIp known
      obtain ⟨place, short, -, rfl⟩ := (reached.places lanIp).mp known
      exact sound.defined place short
    · intro id member
      obtain ⟨place, short, slot, -, read, columns⟩ := reached.gateway member
      rw [columns]
      exact ⟨_, slot, rfl, read, rfl⟩
    · intro details one member other member' different block block'
      obtain ⟨place, short, slot, found, read, columns⟩ := reached.gateway member
      obtain ⟨place', short', slot', found', read', columns'⟩ := reached.gateway member'
      have apart : Apart slot slot' := by
        rcases Nat.lt_trichotomy place place' with before | rfl | after
        · exact sound.apart place place' slot slot' before short' read read'
        · exact absurd (Option.some.inj (found.symm.trans found')) different
        · obtain ⟨unequal, first, second⟩ := sound.apart place' place slot' slot after short read' read
          exact ⟨unequal.symm, second, first⟩
      unfold Apart at apart
      refine ⟨?_, ?_, ?_⟩
      · intro name taken taken'
        have own := (mem_macvlans_hostEntry columns).mp taken
        exact apart.1 (macText_injective (own.symm.trans ((mem_macvlans_hostEntry columns').mp taken')))
      · intro table taken taken'
        have own := (mem_tables_hostEntry columns).mp taken
        exact apart.1 (Lib.Text.intNumeral_injective (own.symm.trans ((mem_tables_hostEntry columns').mp taken')))
      · intro pref taken taken'
        rcases (mem_priorities_hostEntry columns).mp taken with own | ⟨-, -, own⟩ <;>
          rcases (mem_priorities_hostEntry columns').mp taken' with own' | ⟨-, -, own'⟩
        all_goals
          have same := Lib.Text.intNumeral_injective (own.symm.trans own')
          omega
    · intro details id member table taken reserved
      obtain ⟨place, short, slot, -, read, columns⟩ := reached.gateway member
      rw [(mem_tables_hostEntry columns).mp taken] at reserved
      exact sound.unreserved place slot short read (mem_reservedTables_iff.mp reserved)

/-- From a group without gateways, after any calls of `create_gateways`; whatever row `create_group` has stored. -/
theorem exit_host_sound_iff {group : PeerGroup} {s : GroupDb} {groupId : Nat}
    (stored : s.groups.get groupId = some group) (fresh : groupGateways s groupId = []) (batches : List Batch) :
    let t := afterBatches groupId s batches
    ExitHostSound group groupId (Allocated groupId s batches) t ↔
      SlotsSuit group.lanStartIp (Allocated groupId s batches) (groupGateways t groupId).length := by
  intro t
  obtain ⟨-, m, n, reached⟩ := afterBatches_reached stored fresh batches
  have places : ∀ lanIp, Allocated groupId s batches lanIp ↔ ∃ place < m, lanIp = group.lanStartIp.plus place := by
    intro lanIp
    rw [reached.places]
    simp only [Nat.zero_le, true_and]
  rw [reached.sound_iff, reached.filled.length]
  exact placesSound_iff reached.within reached.few places

theorem exit_host_sound_iff_inferred :
    let t := afterBatches 1 (startingAt 3232238948) [(granted, 1)]
    let allocated := Allocated 1 (startingAt 3232238948) [(granted, 1)]
    ExitHostSound (groupAt 3232238948) 1 allocated t ↔
      SlotsSuit (.v4 3232238948) allocated (groupGateways t 1).length :=
  @exit_host_sound_iff (groupAt 3232238948) (startingAt 3232238948) 1 rfl rfl [(granted, 1)]

/-- fd00::/120 from fd00::64 on. -/
def plainGroup : PeerGroup :=
  ⟨"g", 1, .v6 ⟨0xfd00 * 2 ^ 112, 120⟩ none, .v6 (0xfd00 * 2 ^ 112 + 0x64) none,
    String.ofList (Lib.Ipv6.text (0xfd00 * 2 ^ 112 + 254)), none⟩

def startingPlain : GroupDb := { onePortGroup with groups := Table.empty.insert plainGroup }

/-- 192.168.13.253 gets the kernel's default table, and fd00::64 no slot at all. -/
theorem slot_reserved_or_undefined :
    createGroup [] onePortGroup.db (requestAt 3232239101) = .ok (groupAt 3232239101) ∧
      ¬ExitHostSound (groupAt 3232239101) 1 (Allocated 1 (startingAt 3232239101) [(granted, 1)])
        (afterBatches 1 (startingAt 3232239101) [(granted, 1)]) ∧
    createGroup [] onePortGroup.db ⟨"g", 1, .v6 (0xfd00 * 2 ^ 112 + 0x64) none,
        some (.v6 ⟨0xfd00 * 2 ^ 112, 120⟩ none), none, none⟩ = .ok plainGroup ∧
      ¬ExitHostSound plainGroup 1 (Allocated 1 startingPlain [(granted, 1)]) (afterBatches 1 startingPlain [(granted, 1)]) := by
  refine ⟨by rfl, ?_, by rfl, ?_⟩
  · have ran : 1 ∈ groupGateways (afterBatches 1 (startingAt 3232239101) [(granted, 1)]) 1 ∧
        (afterBatches 1 (startingAt 3232239101) [(granted, 1)]).lan 1 = ⟨some 1, some (.v4 3232239101), some 253⟩ := by
      decide +kernel
    obtain ⟨member, columns⟩ := ran
    intro sound
    exact sound.unreserved (fun _ => connected) 1 member ((mem_tables_hostEntry columns).mpr rfl) (by decide)
  · intro sound
    have first : Allocated 1 startingPlain [(granted, 1)] (.v6 (0xfd00 * 2 ^ 112 + 0x64) none) := by
      have admitted : checkBatch startingPlain 1 1 = .ok plainGroup := by decide +kernel
      have allocated : allocateLanIp startingPlain 1 plainGroup = .ok (.v6 (0xfd00 * 2 ^ 112 + 0x64) none) := by rfl
      refine ⟨[], (granted, 1), [], rfl, plainGroup, admitted, 0, Nat.one_pos, [], ?_, ?_⟩
      · simp only [createEach]
      · simp only [createEach]
        exact allocated
    obtain ⟨slot, read⟩ := sound.defined _ first
    obtain ⟨error, failed⟩ := Address.macvlanSlot_plain (show Lib.Ipv6.mapped (0xfd00 * 2 ^ 112 + 0x64) = false by decide)
    rw [failed] at read
    cases read

end DeepOrc.Services

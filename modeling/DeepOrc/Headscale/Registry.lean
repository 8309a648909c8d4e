import Mathlib.Data.List.Pairwise
import DeepOrc.Headscale.Client

/-!
# The nodes Headscale holds

The registry carries what Headscale guarantees: no two nodes share an id, a name or an address. The
owner is the gateway whose machine registered the node. It is not part of what a listing shows.
-/

namespace DeepOrc.Headscale

structure Registered where
  node : Node
  owner : Option Nat
deriving DecidableEq, Repr

/-- Two nodes Headscale can hold at once. -/
structure Apart (a b : Node) : Prop where
  ids : a.id ≠ b.id
  names : headscaleNodeName a ≠ headscaleNodeName b
  addresses : ∀ ip, nodeIpv4 a = some ip → nodeIpv4 b ≠ some ip

theorem Apart.symm {a b : Node} (apart : Apart a b) : Apart b a :=
  ⟨apart.ids.symm, apart.names.symm, fun ip second first => apart.addresses ip first second⟩

instance : Std.Symm fun a b : Registered => Apart a.node b.node := ⟨fun _ _ => Apart.symm⟩

structure Registry where
  nodes : List Registered
  apart : nodes.Pairwise fun a b => Apart a.node b.node

namespace Registry

theorem apart_nil : ([] : List Registered).Pairwise fun a b => Apart a.node b.node := .nil

def empty : Registry := ⟨[], apart_nil⟩

def Lists (registry : Registry) (listing : List Node) : Prop :=
  listing.Perm (registry.nodes.map Registered.node)

instance (registry : Registry) (listing : List Node) : Decidable (registry.Lists listing) :=
  inferInstanceAs (Decidable (List.Perm _ _))

def apartB (a b : Node) : Bool :=
  a.id != b.id && headscaleNodeName a != headscaleNodeName b &&
    ((nodeIpv4 a).isNone || nodeIpv4 a != nodeIpv4 b)

theorem apart_of_apartB {a b : Node} (checked : apartB a b = true) : Apart a b := by
  simp only [apartB, Bool.and_eq_true, bne_iff_ne, ne_eq, Bool.or_eq_true, Option.isNone_iff_eq_none] at checked
  obtain ⟨⟨ids, names⟩, addresses⟩ := checked
  refine ⟨ids, names, ?_⟩
  intro ip first second
  rcases addresses with missing | different
  · rw [missing] at first
    cases first
  · exact different (first.trans second.symm)

/-- A new node, if its id, name and address are free. -/
def join (registry : Registry) (node : Node) (owner : Option Nat) : Option Registry :=
  if free : registry.nodes.all (fun other => apartB node other.node) = true then
    some {
      nodes := ⟨node, owner⟩ :: registry.nodes
      apart := List.pairwise_cons.mpr
        ⟨fun other member => apart_of_apartB (List.all_eq_true.mp free other member), registry.apart⟩ }
  else none

def renamed (nodeId : Nat) (name : String) (entry : Registered) : Registered :=
  if entry.node.id = some nodeId then { entry with node := { entry.node with givenName := some name } } else entry

@[simp] theorem renamed_id (nodeId : Nat) (name : String) (entry : Registered) :
    (renamed nodeId name entry).node.id = entry.node.id := by
  unfold renamed
  split <;> rfl

@[simp] theorem renamed_owner (nodeId : Nat) (name : String) (entry : Registered) :
    (renamed nodeId name entry).owner = entry.owner := by
  unfold renamed
  split <;> rfl

@[simp] theorem renamed_ipv4 (nodeId : Nat) (name : String) (entry : Registered) :
    nodeIpv4 (renamed nodeId name entry).node = nodeIpv4 entry.node := by
  unfold renamed
  split <;> rfl

theorem renamed_name {nodeId : Nat} {name : String} (filled : name ≠ "") (entry : Registered) :
    headscaleNodeName (renamed nodeId name entry).node =
      if entry.node.id = some nodeId then name else headscaleNodeName entry.node := by
  unfold renamed
  split
  · simp [headscaleNodeName, firstFilled, filled]
  · rfl

theorem renamed_apart {nodeId : Nat} {name : String} (filled : name ≠ "") {a b : Registered}
    (apart : Apart a.node b.node)
    (free : ∀ entry, entry = a ∨ entry = b → entry.node.id ≠ some nodeId → headscaleNodeName entry.node ≠ name) :
    Apart (renamed nodeId name a).node (renamed nodeId name b).node := by
  refine ⟨by simpa using apart.ids, ?_, by simpa using apart.addresses⟩
  rw [renamed_name filled, renamed_name filled]
  split_ifs with first second second
  · exact absurd (first.trans second.symm) apart.ids
  · exact (free b (.inr rfl) second).symm
  · exact free a (.inl rfl) first
  · exact apart.names

/-- `nodes rename` refuses an empty name and one that another node has. -/
def rename (registry : Registry) (nodeId : Nat) (name : String) : Option Registry :=
  if free : name ≠ "" ∧
      ∀ entry ∈ registry.nodes, entry.node.id ≠ some nodeId → headscaleNodeName entry.node ≠ name then
    some {
      nodes := registry.nodes.map (renamed nodeId name)
      apart := by
        rw [List.pairwise_map]
        refine List.Pairwise.imp_of_mem ?_ registry.apart
        intro a b first second apart
        apply renamed_apart free.1 apart
        rintro entry (rfl | rfl) other
        · exact free.2 _ first other
        · exact free.2 _ second other }
  else none

def remove (registry : Registry) (nodeId : Nat) : Registry where
  nodes := registry.nodes.filter fun entry => entry.node.id ≠ some nodeId
  apart := registry.apart.filter _

/-! ### Lookups -/

theorem eq_of_apart {registry : Registry} {a b : Registered} (first : a ∈ registry.nodes)
    (second : b ∈ registry.nodes) (overlap : ¬ Apart a.node b.node) : a = b := by
  by_contra different
  exact overlap (registry.apart.forall first second different)

theorem eq_of_ipv4 {registry : Registry} {a b : Registered} (first : a ∈ registry.nodes)
    (second : b ∈ registry.nodes) {ip : String} (left : nodeIpv4 a.node = some ip)
    (right : nodeIpv4 b.node = some ip) : a = b :=
  eq_of_apart first second fun apart => apart.addresses ip left right

theorem eq_of_id {registry : Registry} {a b : Registered} (first : a ∈ registry.nodes)
    (second : b ∈ registry.nodes) (same : a.node.id = b.node.id) : a = b :=
  eq_of_apart first second fun apart => apart.ids same

theorem mem_of_lists {registry : Registry} {listing : List Node} (lists : registry.Lists listing) {node : Node}
    (member : node ∈ listing) : ∃ entry ∈ registry.nodes, entry.node = node :=
  List.mem_map.mp (lists.mem_iff.mp member)

end Registry

end DeepOrc.Headscale

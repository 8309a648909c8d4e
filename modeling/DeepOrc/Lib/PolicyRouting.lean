import DeepOrc.Lib.Ipv4
import Mathlib.Data.List.Pairwise

/-!
# Policy routing

A packet goes by the first rule, in the order of their preferences, that finds a route for it. In a table the longest
destination wins, and of equally long ones that with the lowest metric.
-/

namespace DeepOrc.Lib.PolicyRouting

open Ipv4 (Network)

variable {δ : Type*}

/-! ### Tables -/

inductive Hop (δ : Type*) where
  | via (dev : δ) (gateway : Option Nat)
  /-- To the host itself. -/
  | here
  /-- `unreachable`, `blackhole` and `prohibit`. -/
  | refuse
  /-- `throw` -/
  | skip
deriving DecidableEq

structure Route (δ : Type*) where
  destination : Network
  metric : Nat
  hop : Hop δ
  fits : destination.bits ≤ 32
deriving DecidableEq

namespace Route

def key (route : Route δ) : Nat × Nat × Nat := (route.destination.first, route.destination.bits, route.metric)

def reaches (route : Route δ) (ip : Nat) : Bool := route.destination.contains ip

/-- Of two routes for an address the kernel takes the one that is at least as good. -/
def better (one other : Route δ) : Prop :=
  other.destination.bits < one.destination.bits ∨
    one.destination.bits = other.destination.bits ∧ one.metric ≤ other.metric

instance (one other : Route δ) : Decidable (one.better other) := inferInstanceAs (Decidable (_ ∨ _ ∧ _))

end Route

/-- A table holds one route for a destination and a metric. -/
structure RoutingTable (δ : Type*) where
  routes : List (Route δ)
  keyed : routes.Pairwise fun one other => one.key ≠ other.key

namespace RoutingTable

def empty : RoutingTable δ := ⟨[], .nil⟩

def filter (table : RoutingTable δ) (kept : Route δ → Bool) : RoutingTable δ :=
  ⟨table.routes.filter kept, table.keyed.sublist List.filter_sublist⟩

/-- `ip route replace` -/
def replace (table : RoutingTable δ) (route : Route δ) : RoutingTable δ where
  routes := route :: table.routes.filter fun other => route.key ≠ other.key
  keyed := by
    refine List.pairwise_cons.mpr ⟨?_, table.keyed.sublist List.filter_sublist⟩
    intro other member
    simpa using (List.mem_filter.mp member).2

/-- What the kernel adds by itself stays out of the way of a route that is there. -/
def offer (table : RoutingTable δ) (route : Route δ) : RoutingTable δ :=
  if table.routes.any fun other => other.key = route.key then table else table.replace route

/-- `ip route del` takes the first route it matches. -/
def delete (table : RoutingTable δ) (wanted : Route δ → Bool) : RoutingTable δ :=
  ⟨table.routes.eraseP wanted, table.keyed.sublist List.eraseP_sublist⟩

def pick (ip : Nat) : List (Route δ) → Option (Route δ)
  | [] => none
  | route :: routes =>
      match pick ip routes with
      | none => if route.reaches ip then some route else none
      | some found => if route.reaches ip ∧ route.better found then some route else some found

def best (table : RoutingTable δ) (ip : Nat) : Option (Route δ) := pick ip table.routes

end RoutingTable

/-! ### Rules -/

structure Packet (δ : Type*) where
  source : Nat
  destination : Nat
  iif : δ
  mark : Nat
  destination_lt : destination < 2 ^ 32

/-- `mark` is a value and a mask. -/
structure Selector (δ : Type*) where
  inverted : Bool
  source : Option Network
  destination : Option Network
  iif : Option δ
  mark : Option (Nat × Nat)
deriving DecidableEq

namespace Selector

def everything : Selector δ := ⟨false, none, none, none, none⟩

def toNetwork (network : Network) : Selector δ := { everything with destination := some network }

def fromHost (ip : Nat) : Selector δ := { everything with source := some ⟨ip, 32⟩ }

def onIif (dev : δ) : Selector δ := { (everything : Selector δ) with iif := some dev }

end Selector

def Selector.selects [DecidableEq δ] (selector : Selector δ) (packet : Packet δ) : Bool :=
  (selector.source.all (fun network => network.contains packet.source) &&
    selector.destination.all (fun network => network.contains packet.destination) &&
    selector.iif.all (fun dev => dev = packet.iif) &&
    selector.mark.all (fun mark => packet.mark &&& mark.2 = mark.1)) != selector.inverted

inductive Action where
  /-- With `suppress_prefixlength`, if there is one. -/
  | lookup (table : Nat) (suppress : Option Nat)
  | refuse
deriving DecidableEq

structure Rule (δ : Type*) where
  pref : Nat
  selector : Selector δ
  action : Action
deriving DecidableEq

/-- What a table has for an address. -/
abbrev Lookup (δ : Type*) := Nat → Nat → Option (Route δ)

def Action.verdict (lookup : Lookup δ) (ip : Nat) : Action → Option (Hop δ)
  | .refuse => some .refuse
  | .lookup table suppress =>
      match lookup table ip with
      | none => none
      | some route =>
          match route.hop with
          | .skip => none
          | .refuse => some .refuse
          | hop => if suppress.any fun bits => route.destination.bits ≤ bits then none else some hop

def Rule.verdict [DecidableEq δ] (lookup : Lookup δ) (packet : Packet δ) (rule : Rule δ) : Option (Hop δ) :=
  if rule.selector.selects packet then rule.action.verdict lookup packet.destination else none

def walk [DecidableEq δ] (lookup : Lookup δ) (packet : Packet δ) (rules : List (Rule δ)) : Option (Hop δ) :=
  rules.findSome? (Rule.verdict lookup packet)

structure Policy (δ : Type*) where
  rules : List (Rule δ)
  sorted : rules.Pairwise fun earlier later => earlier.pref ≤ later.pref

namespace Policy

def filter (policy : Policy δ) (kept : Rule δ → Bool) : Policy δ :=
  ⟨policy.rules.filter kept, policy.sorted.sublist List.filter_sublist⟩

def only (policy : Policy δ) (kept : Nat → Bool) : Policy δ := policy.filter fun rule => kept rule.pref

/-- `ip rule del` -/
def delete (policy : Policy δ) (wanted : Rule δ → Bool) : Policy δ :=
  ⟨policy.rules.eraseP wanted, policy.sorted.sublist List.eraseP_sublist⟩

/-- `ip rule add`: behind the rules of the same preference. -/
def add (policy : Policy δ) (rule : Rule δ) : Policy δ where
  rules := (policy.rules.filter fun other => other.pref ≤ rule.pref) ++
    rule :: policy.rules.filter fun other => rule.pref < other.pref
  sorted := by
    refine List.pairwise_append.mpr ⟨policy.sorted.sublist List.filter_sublist, List.pairwise_cons.mpr ⟨?_, ?_⟩, ?_⟩
    · intro other member
      have later := (List.mem_filter.mp member).2
      simp only [decide_eq_true_eq] at later
      omega
    · exact policy.sorted.sublist List.filter_sublist
    · intro one member other member'
      have earlier := (List.mem_filter.mp member).2
      simp only [decide_eq_true_eq] at earlier
      rcases List.mem_cons.mp member' with rfl | member'
      · exact earlier
      · have later := (List.mem_filter.mp member').2
        simp only [decide_eq_true_eq] at later
        omega

/-- `while ip rule del …; do :; done` -/
def deleteWhile (wanted : Rule δ → Bool) : Nat → Policy δ → Policy δ
  | 0, policy => policy
  | rounds + 1, policy =>
      if policy.rules.any wanted then deleteWhile wanted rounds (policy.delete wanted) else policy

def deleteAll (policy : Policy δ) (wanted : Rule δ → Bool) : Policy δ :=
  deleteWhile wanted policy.rules.length policy

/-- The one rule of its preference from then on. -/
def put (policy : Policy δ) (rule : Rule δ) : Policy δ :=
  (policy.deleteAll fun other => other.pref = rule.pref).add rule

end Policy

/-! ### Which route is taken -/

namespace RoutingTable

variable {table other : RoutingTable δ} {route found : Route δ} {ip : Nat}

theorem mem_replace : found ∈ (table.replace route).routes ↔
    found = route ∨ found ∈ table.routes ∧ route.key ≠ found.key := by
  simp [replace]

theorem eq_of_key (member : route ∈ table.routes) (member' : found ∈ table.routes) (same : route.key = found.key) :
    route = found := by
  have symmetric : Std.Symm fun one other : Route δ => one.key ≠ other.key := ⟨fun _ _ => Ne.symm⟩
  by_contra different
  exact table.keyed.forall member member' different same

theorem first_of_contains {network : Network} (contains : network.contains ip = true) :
    network.first = ip / network.size * network.size := by
  rw [Network.contains, beq_iff_eq] at contains
  rw [Network.first, contains]

/-- Two routes for one address that are equally long and have one metric are for one destination. -/
theorem key_eq (reaches : route.reaches ip = true) (reaches' : found.reaches ip = true)
    (bits : route.destination.bits = found.destination.bits) (metric : route.metric = found.metric) :
    route.key = found.key := by
  have size : route.destination.size = found.destination.size := by rw [Network.size, Network.size, bits]
  unfold Route.key
  rw [first_of_contains reaches, first_of_contains reaches', size, bits, metric]

theorem pick_spec (ip : Nat) (routes : List (Route δ)) :
    (∀ found, pick ip routes = some found → found ∈ routes ∧ found.reaches ip = true ∧
      ∀ other ∈ routes, other.reaches ip = true → found.better other) ∧
    (pick ip routes = none → ∀ other ∈ routes, other.reaches ip = false) := by
  induction routes with
  | nil => simp [pick]
  | cons route routes rest =>
      obtain ⟨some_, none_⟩ := rest
      constructor
      · intro found picked
        rw [pick] at picked
        split at picked
        · rename_i nothing
          split at picked
          · rename_i reaches
            cases picked
            refine ⟨List.mem_cons_self, reaches, fun other listed reaches' => ?_⟩
            rcases List.mem_cons.mp listed with rfl | listed
            · exact .inr ⟨rfl, Nat.le_refl _⟩
            · rw [none_ nothing other listed] at reaches'
              cases reaches'
          · cases picked
        · rename_i earlier among
          obtain ⟨member, reaches, wins⟩ := some_ earlier among
          split at picked
          · rename_i takes
            cases picked
            refine ⟨List.mem_cons_self, takes.1, fun other listed reaches' => ?_⟩
            rcases List.mem_cons.mp listed with rfl | listed
            · exact .inr ⟨rfl, Nat.le_refl _⟩
            · have first := takes.2
              have second := wins other listed reaches'
              unfold Route.better at *
              omega
          · rename_i loses
            cases picked
            refine ⟨List.mem_cons_of_mem _ member, reaches, fun other listed reaches' => ?_⟩
            rcases List.mem_cons.mp listed with rfl | listed
            · have worse : ¬ other.better found := fun wins => loses ⟨reaches', wins⟩
              unfold Route.better at *
              omega
            · exact wins other listed reaches'
      · intro nothing other listed
        rw [pick] at nothing
        split at nothing
        · rename_i nothing'
          split at nothing
          · cases nothing
          · rename_i misses
            rcases List.mem_cons.mp listed with rfl | listed
            · simpa using misses
            · exact none_ nothing' other listed
        · split at nothing
          · cases nothing
          · cases nothing

theorem best_eq_some_iff : table.best ip = some found ↔ found ∈ table.routes ∧ found.reaches ip = true ∧
    ∀ other ∈ table.routes, other.reaches ip = true → found.better other := by
  obtain ⟨some_, none_⟩ := pick_spec ip table.routes
  constructor
  · exact some_ found
  · rintro ⟨member, reaches, wins⟩
    cases picked : table.best ip with
    | none =>
        rw [none_ picked found member] at reaches
        cases reaches
    | some taken =>
        obtain ⟨member', reaches', wins'⟩ := some_ taken picked
        have one := wins taken member' reaches'
        have two := wins' found member reaches
        have same : found.key = taken.key := by
          unfold Route.better at one two
          exact key_eq reaches reaches' (by omega) (by omega)
        rw [eq_of_key member member' same]

theorem best_eq_none_iff : table.best ip = none ↔ ∀ other ∈ table.routes, other.reaches ip = false := by
  obtain ⟨some_, none_⟩ := pick_spec ip table.routes
  constructor
  · exact none_
  · intro misses
    cases picked : table.best ip with
    | none => rfl
    | some taken =>
        obtain ⟨member, reaches, -⟩ := some_ taken picked
        rw [misses taken member] at reaches
        cases reaches

/-- Only the routes for the address count. -/
theorem best_congr (same : ∀ route : Route δ, route.reaches ip = true → (route ∈ table.routes ↔ route ∈ other.routes)) :
    table.best ip = other.best ip := by
  cases picked : other.best ip with
  | none =>
      rw [best_eq_none_iff] at picked ⊢
      intro route member
      by_contra reaches
      rw [Bool.not_eq_false] at reaches
      rw [picked route ((same route reaches).mp member)] at reaches
      cases reaches
  | some found =>
      rw [best_eq_some_iff] at picked ⊢
      obtain ⟨member, reaches, wins⟩ := picked
      refine ⟨(same found reaches).mpr member, reaches, fun route listed reaches' => ?_⟩
      exact wins route ((same route reaches').mp listed) reaches'

theorem key_ne_of_reaches (misses : route.reaches ip = false) (reaches : found.reaches ip = true) :
    route.key ≠ found.key := by
  intro same
  unfold Route.key at same
  simp only [Prod.mk.injEq] at same
  obtain ⟨first, bits, -⟩ := same
  have size : route.destination.size = found.destination.size := by rw [Network.size, Network.size, bits]
  have inside := Network.contains_iff.mp reaches
  have outside : route.destination.contains ip = true := by
    rw [Network.contains_iff, Network.broadcast, first, size]
    exact inside
  rw [Route.reaches, outside] at misses
  cases misses

theorem best_replace_of_misses (misses : route.reaches ip = false) : (table.replace route).best ip = table.best ip := by
  apply best_congr
  intro found reaches
  rw [mem_replace]
  constructor
  · rintro (rfl | ⟨member, -⟩)
    · rw [misses] at reaches
      cases reaches
    · exact member
  · intro member
    exact .inr ⟨member, key_ne_of_reaches misses reaches⟩

theorem mem_filter {kept : Route δ → Bool} : route ∈ (table.filter kept).routes ↔ route ∈ table.routes ∧ kept route = true :=
  List.mem_filter

/-- A default route with the lowest metric comes after every longer route and before every other default. -/
theorem best_replace_default (length : route.destination.bits = 0) (metric : route.metric = 0)
    (reaches : route.reaches ip = true) : (table.replace route).best ip =
      ((table.filter fun other => other.destination.bits ≠ 0).best ip).or (some route) := by
  cases picked : (table.filter fun other => other.destination.bits ≠ 0).best ip with
  | none =>
      rw [best_eq_none_iff] at picked
      rw [Option.none_or, best_eq_some_iff]
      refine ⟨mem_replace.mpr (.inl rfl), reaches, fun other listed reaches' => .inr ?_⟩
      rcases mem_replace.mp listed with rfl | ⟨member, -⟩
      · exact ⟨rfl, Nat.le_refl _⟩
      · by_contra longer
        have nonzero : other.destination.bits ≠ 0 := by omega
        rw [picked other (mem_filter.mpr ⟨member, by simpa using nonzero⟩)] at reaches'
        cases reaches'
  | some found =>
      rw [best_eq_some_iff] at picked
      obtain ⟨member, reaches', wins⟩ := picked
      obtain ⟨listed, long⟩ := mem_filter.mp member
      have positive : found.destination.bits ≠ 0 := by simpa using long
      rw [Option.some_or, best_eq_some_iff]
      refine ⟨mem_replace.mpr (.inr ⟨listed, ?_⟩), reaches', fun other listed' reaches'' => ?_⟩
      · intro same
        unfold Route.key at same
        simp only [Prod.mk.injEq] at same
        omega
      · rcases mem_replace.mp listed' with rfl | ⟨member', -⟩
        · exact .inl (by omega)
        · by_cases zero : other.destination.bits = 0
          · exact .inl (by omega)
          · exact wins other (mem_filter.mpr ⟨member', by simpa using zero⟩) reaches''

/-- Nothing comes before a route for one address with the lowest metric. -/
theorem best_of_host (member : route ∈ table.routes) (length : route.destination.bits = 32) (metric : route.metric = 0)
    (reaches : route.reaches ip = true) : table.best ip = some route := by
  rw [best_eq_some_iff]
  refine ⟨member, reaches, fun other _ _ => ?_⟩
  have fits := other.fits
  unfold Route.better
  omega

theorem foldl_replace_of_misses {routes : List (Route δ)} (misses : ∀ route ∈ routes, route.reaches ip = false)
    (table : RoutingTable δ) : (routes.foldl replace table).best ip = table.best ip := by
  induction routes generalizing table with
  | nil => rfl
  | cons route routes rest =>
      rw [List.foldl_cons, rest fun other member => misses other (List.mem_cons_of_mem _ member)]
      exact best_replace_of_misses (misses route List.mem_cons_self)

/-- A route that is put stays, unless another is put for its destination and metric. -/
theorem mem_foldl_replace {routes : List (Route δ)} (agree : ∀ other ∈ routes, other.key = route.key → other = route)
    (table : RoutingTable δ) (given : route ∈ routes ∨ route ∈ table.routes) :
    route ∈ (routes.foldl replace table).routes := by
  induction routes generalizing table with
  | nil =>
      rcases given with none_ | member
      · cases none_
      · exact member
  | cons first routes rest =>
      refine rest (fun other member => agree other (List.mem_cons_of_mem _ member)) (table.replace first) ?_
      rcases given with listed | member
      · rcases List.mem_cons.mp listed with rfl | listed
        · exact .inr (mem_replace.mpr (.inl rfl))
        · exact .inl listed
      · refine .inr (mem_replace.mpr ?_)
        by_cases same : first.key = route.key
        · exact .inl (agree first List.mem_cons_self same).symm
        · exact .inr ⟨member, same⟩

theorem mem_offer (misses : route.reaches ip = false) (reaches : found.reaches ip = true) :
    found ∈ (table.offer route).routes ↔ found ∈ table.routes := by
  unfold offer
  split
  · rfl
  · rw [mem_replace]
    constructor
    · rintro (rfl | ⟨member, -⟩)
      · rw [misses] at reaches
        cases reaches
      · exact member
    · intro member
      exact .inr ⟨member, key_ne_of_reaches misses reaches⟩

/-- Deleting a route like each unwanted one deletes these. -/
theorem foldl_eraseP {α : Type*} {wanted : α → Bool} {alike : α → α → Bool}
    (self : ∀ value, wanted value = true → alike value value = true)
    (carries : ∀ value other, wanted value = true → alike value other = true → wanted other = true) (list : List α) :
    (list.filter wanted).foldl (fun left value => left.eraseP (alike value)) list = list.filter fun value => !wanted value := by
  have behind (values : List α) (first : α) (unlike : ∀ value ∈ values, alike value first = false) (left : List α) :
      values.foldl (fun left value => left.eraseP (alike value)) (first :: left) =
        first :: values.foldl (fun left value => left.eraseP (alike value)) left := by
    induction values generalizing left with
    | nil => rfl
    | cons value values rest =>
        rw [List.foldl_cons, List.foldl_cons, List.eraseP_cons_of_neg (by simp [unlike value List.mem_cons_self])]
        exact rest (fun other member => unlike other (List.mem_cons_of_mem _ member)) _
  induction list with
  | nil => rfl
  | cons first list rest =>
      cases fits : wanted first with
      | true =>
          rw [List.filter_cons_of_pos fits, List.foldl_cons, List.eraseP_cons_of_pos (self first fits), rest]
          simp [fits]
      | false =>
          have unlike : ∀ value ∈ list.filter wanted, alike value first = false := by
            intro value member
            by_contra same
            rw [carries value first (List.mem_filter.mp member).2 (by simpa using same)] at fits
            cases fits
          rw [List.filter_cons_of_neg (by simp [fits]), behind _ _ unlike, rest]
          simp [fits]

theorem routes_foldl_delete (alike : Route δ → Route δ → Bool) (lines : List (Route δ)) (table : RoutingTable δ) :
    (lines.foldl (fun table line => table.delete (alike line)) table).routes =
      lines.foldl (fun left line => left.eraseP (alike line)) table.routes := by
  induction lines generalizing table with
  | nil => rfl
  | cons line lines rest => exact rest (table.delete (alike line))

end RoutingTable

/-! ### Which rules are left -/

theorem eraseP_filter {α : Type*} (wanted : α → Bool) (list : List α) :
    (list.eraseP wanted).filter (fun value => !wanted value) = list.filter fun value => !wanted value := by
  induction list with
  | nil => rfl
  | cons value list rest =>
      rw [List.eraseP_cons]
      cases fits : wanted value with
      | true => simp [fits]
      | false => simp [fits, rest]

namespace Policy

variable {policy : Policy δ} {rule : Rule δ}

theorem ext {one other : Policy δ} (rules : one.rules = other.rules) : one = other := by
  cases one
  cases other
  cases rules
  rfl

theorem deleteWhile_eq (wanted : Rule δ → Bool) (rounds : Nat) (policy : Policy δ)
    (enough : (policy.rules.filter wanted).length ≤ rounds) :
    deleteWhile wanted rounds policy = policy.filter fun rule => !wanted rule := by
  induction rounds generalizing policy with
  | zero =>
      apply ext
      have none_ : policy.rules.filter wanted = [] := List.length_eq_zero_iff.mp (Nat.le_zero.mp enough)
      rw [List.filter_eq_nil_iff] at none_
      symm
      apply List.filter_eq_self.mpr
      intro rule member
      simpa using none_ rule member
  | succ rounds rest =>
      rw [deleteWhile]
      split
      · rename_i some_
        obtain ⟨rule, member, fits⟩ := List.any_eq_true.mp some_
        have fewer : ((policy.delete wanted).rules.filter wanted).length ≤ rounds := by
          obtain ⟨first, earlier, later, unwanted, wants, split, erased⟩ := List.exists_of_eraseP member fits
          change ((policy.rules.eraseP wanted).filter wanted).length ≤ rounds
          rw [split, List.filter_append, List.filter_cons_of_pos wants, List.length_append, List.length_cons] at enough
          rw [erased, List.filter_append, List.length_append]
          omega
        rw [rest (policy.delete wanted) fewer]
        exact ext (eraseP_filter wanted policy.rules)
      · rename_i none_
        apply ext
        symm
        apply List.filter_eq_self.mpr
        intro rule member
        by_contra fits
        exact none_ (List.any_eq_true.mpr ⟨rule, member, by simpa using fits⟩)

theorem deleteAll_eq (wanted : Rule δ → Bool) : policy.deleteAll wanted = policy.filter fun rule => !wanted rule :=
  deleteWhile_eq wanted policy.rules.length policy (List.length_filter_le _ _)

/-- A policy is what it has up to some preference, and then the rest. -/
theorem rules_eq_append (policy : Policy δ) {kept : Nat → Bool}
    (down : ∀ low high, low ≤ high → kept high = true → kept low = true) :
    policy.rules = (policy.only kept).rules ++ (policy.only fun pref => !kept pref).rules := by
  obtain ⟨rules, sorted⟩ := policy
  change rules = rules.filter (fun rule => kept rule.pref) ++ rules.filter fun rule => !kept rule.pref
  induction rules with
  | nil => rfl
  | cons rule rules rest =>
      obtain ⟨first, later⟩ := List.pairwise_cons.mp sorted
      cases within : kept rule.pref with
      | true =>
          rw [List.filter_cons, List.filter_cons]
          simp only [within, Bool.not_true, Bool.false_eq_true, if_true, if_false]
          exact congrArg (rule :: ·) (rest later)
      | false =>
          have beyond : ∀ other ∈ rule :: rules, kept other.pref = false := by
            intro other member
            rcases List.mem_cons.mp member with rfl | member
            · exact within
            · by_contra inside
              rw [down rule.pref other.pref (first other member) (by simpa using inside)] at within
              cases within
          have none_ : (rule :: rules).filter (fun rule => kept rule.pref) = [] :=
            List.filter_eq_nil_iff.mpr fun other member => by simp [beyond other member]
          have all : (rule :: rules).filter (fun rule => !kept rule.pref) = rule :: rules :=
            List.filter_eq_self.mpr fun other member => by simp [beyond other member]
          rw [none_, all, List.nil_append]

theorem only_only (kept kept' : Nat → Bool) :
    (policy.only kept).only kept' = policy.only fun pref => kept' pref && kept pref :=
  ext List.filter_filter

theorem only_congr {kept kept' : Nat → Bool} (same : ∀ pref, kept pref = kept' pref) :
    policy.only kept = policy.only kept' := by
  rw [funext same]

theorem add_rules (policy : Policy δ) (rule : Rule δ) : (policy.add rule).rules =
    (policy.only (· ≤ rule.pref)).rules ++ rule :: (policy.only fun pref => !decide (pref ≤ rule.pref)).rules := by
  change _ ++ rule :: policy.rules.filter (fun other => rule.pref < other.pref) = _
  congr 2
  apply List.filter_congr
  intro other _
  change decide (rule.pref < other.pref) = !decide (other.pref ≤ rule.pref)
  rw [← decide_not, decide_eq_decide]
  omega

theorem le_down {bound : Nat} (low high : Nat) (le : low ≤ high) (inside : decide (high ≤ bound) = true) :
    decide (low ≤ bound) = true := by
  simp only [decide_eq_true_eq] at *
  omega

theorem only_add (kept : Nat → Bool) :
    (policy.add rule).only kept = if kept rule.pref then (policy.only kept).add rule else policy.only kept := by
  apply ext
  have before : ((policy.only (· ≤ rule.pref)).only kept).rules = ((policy.only kept).only (· ≤ rule.pref)).rules := by
    rw [only_only, only_only]
    exact congrArg Policy.rules (only_congr fun pref => Bool.and_comm _ _)
  have behind : ((policy.only fun pref => !decide (pref ≤ rule.pref)).only kept).rules =
      ((policy.only kept).only fun pref => !decide (pref ≤ rule.pref)).rules := by
    rw [only_only, only_only]
    exact congrArg Policy.rules (only_congr fun pref => Bool.and_comm _ _)
  change (policy.add rule).rules.filter _ = _
  rw [add_rules, List.filter_append, List.filter_cons]
  change ((policy.only _).only kept).rules ++ (if _ then _ :: ((policy.only _).only kept).rules else
    ((policy.only _).only kept).rules) = _
  rw [before, behind]
  split
  · rw [add_rules]
  · exact ((policy.only kept).rules_eq_append le_down).symm

theorem put_eq (policy : Policy δ) (rule : Rule δ) : policy.put rule = (policy.only fun pref => pref ≠ rule.pref).add rule := by
  unfold put
  rw [deleteAll_eq]
  congr 1
  exact ext (List.filter_congr fun other _ => by simp)

theorem only_put (kept : Nat → Bool) :
    (policy.put rule).only kept = if kept rule.pref then (policy.only kept).put rule else policy.only kept := by
  rw [put_eq, put_eq, only_add, only_only, only_only]
  split
  · congr 1
    exact only_congr fun pref => Bool.and_comm _ _
  · rename_i dropped
    apply only_congr
    intro pref
    by_cases same : pref = rule.pref
    · rw [same]
      simpa using dropped
    · simp [same]

theorem only_foldl_put (kept : Nat → Bool) (rules : List (Rule δ)) (policy : Policy δ) :
    (rules.foldl put policy).only kept = (rules.filter fun rule => kept rule.pref).foldl put (policy.only kept) := by
  induction rules generalizing policy with
  | nil => rfl
  | cons rule rules rest =>
      rw [List.foldl_cons, rest, only_put, List.filter_cons]
      split
      · rfl
      · rfl

theorem rules_put_only (policy : Policy δ) (rule : Rule δ) :
    ((policy.only (· = rule.pref)).put rule).rules = [rule] := by
  rw [put_eq, only_only]
  have nothing : policy.only (fun pref => decide (pref ≠ rule.pref) && decide (pref = rule.pref)) = ⟨[], .nil⟩ :=
    ext (List.filter_eq_nil_iff.mpr fun other _ => by simp)
  rw [nothing]
  rfl

theorem filter_pref_eq {rules : List (Rule δ)} (member : rule ∈ rules) (apart : (rules.map Rule.pref).Nodup) :
    (rules.filter fun other => other.pref = rule.pref) = [rule] := by
  induction rules with
  | nil => cases member
  | cons first rules rest =>
      rw [List.map_cons, List.nodup_cons] at apart
      rcases List.mem_cons.mp member with rfl | listed
      · rw [List.filter_cons_of_pos (by simp)]
        have none_ : (rules.filter fun other => other.pref = rule.pref) = [] := by
          apply List.filter_eq_nil_iff.mpr
          intro other listed same
          exact apart.1 (List.mem_map.mpr ⟨other, listed, by simpa using same⟩)
        rw [none_]
      · have different : first.pref ≠ rule.pref := fun same => apart.1 (same ▸ List.mem_map_of_mem listed)
        rw [List.filter_cons_of_neg (by simpa using different)]
        exact rest listed apart.2

theorem only_eq_foldl_put {rules : List (Rule δ)} (member : rule ∈ rules) (apart : (rules.map Rule.pref).Nodup)
    (policy : Policy δ) : ((rules.foldl put policy).only (· = rule.pref)).rules = [rule] := by
  rw [only_foldl_put]
  have one := filter_pref_eq member apart
  rw [one]
  exact rules_put_only policy rule

end Policy

section Walk

variable [DecidableEq δ] {policy : Policy δ} {rule : Rule δ} {lookup other : Lookup δ} {packet : Packet δ}

theorem walk_append (rules later : List (Rule δ)) :
    walk lookup packet (rules ++ later) = (walk lookup packet rules).or (walk lookup packet later) :=
  List.findSome?_append

theorem walk_cons (rule : Rule δ) (rules : List (Rule δ)) :
    walk lookup packet (rule :: rules) = (rule.verdict lookup packet).or (walk lookup packet rules) := by
  unfold walk
  rw [List.findSome?_cons]
  cases rule.verdict lookup packet with
  | none => rfl
  | some hop => rfl

theorem walk_congr (same : ∀ table, lookup table packet.destination = other table packet.destination)
    (rules : List (Rule δ)) : walk lookup packet rules = walk other packet rules := by
  unfold walk
  congr 1
  funext rule
  unfold Rule.verdict Action.verdict
  cases rule.action with
  | refuse => rfl
  | lookup table suppress => simp only [same table]

theorem selects_toNetwork (network : Network) :
    (Selector.toNetwork network).selects packet = network.contains packet.destination := by
  simp [Selector.toNetwork, Selector.everything, Selector.selects]

theorem selects_fromHost (ip : Nat) : (Selector.fromHost ip).selects packet = decide (packet.source = ip) := by
  simp [Selector.fromHost, Selector.everything, Selector.selects, Network.contains, Network.size, Bool.beq_eq_decide_eq]

theorem selects_onIif (dev : δ) : (Selector.onIif dev).selects packet = decide (dev = packet.iif) := by
  simp [Selector.onIif, Selector.everything, Selector.selects]

theorem verdict_of_not_selects (misses : rule.selector.selects packet = false) : rule.verdict lookup packet = none := by
  unfold Rule.verdict
  rw [misses]
  rfl

theorem walk_split (policy : Policy δ) (pref : Nat) : walk lookup packet policy.rules =
    (walk lookup packet (policy.only (· < pref)).rules).or
      ((walk lookup packet (policy.only (· = pref)).rules).or (walk lookup packet (policy.only (pref < ·)).rules)) := by
  have low : ∀ low high, low ≤ high → decide (high < pref) = true → decide (low < pref) = true := by
    intro low high le inside
    simp only [decide_eq_true_eq] at *
    omega
  have equal : ((policy.only fun other => !decide (other < pref)).only (· ≤ pref)) = policy.only (· = pref) := by
    rw [Policy.only_only]
    apply Policy.only_congr
    intro other
    rw [Bool.eq_iff_iff]
    simp only [Bool.and_eq_true, Bool.not_eq_true', decide_eq_false_iff_not, decide_eq_true_eq]
    omega
  have high : ((policy.only fun other => !decide (other < pref)).only fun other => !decide (other ≤ pref)) =
      policy.only (pref < ·) := by
    rw [Policy.only_only]
    apply Policy.only_congr
    intro other
    rw [Bool.eq_iff_iff]
    simp only [Bool.and_eq_true, Bool.not_eq_true', decide_eq_false_iff_not, decide_eq_true_eq]
    omega
  rw [policy.rules_eq_append low, walk_append,
    (policy.only fun other => !decide (other < pref)).rules_eq_append Policy.le_down, walk_append, equal, high]

/-- A rule without a verdict only takes the place of the others of its preference. -/
theorem walk_put_of_none (silent : rule.verdict lookup packet = none) :
    walk lookup packet (policy.put rule).rules = walk lookup packet (policy.only (· ≠ rule.pref)).rules := by
  rw [Policy.put_eq, Policy.add_rules, walk_append, walk_cons, silent, Option.none_or, ← walk_append,
    ← Policy.rules_eq_append _ Policy.le_down]

theorem walk_foldl_put (rules : List (Rule δ)) (silent : ∀ rule ∈ rules, rule.verdict lookup packet = none)
    (policy : Policy δ) : walk lookup packet (rules.foldl Policy.put policy).rules =
      walk lookup packet (policy.only fun pref => pref ∉ rules.map Rule.pref).rules := by
  induction rules generalizing policy with
  | nil =>
      have all : (policy.only fun pref => pref ∉ ([] : List (Rule δ)).map Rule.pref) = policy :=
        Policy.ext (List.filter_eq_self.mpr fun other _ => by simp)
      rw [all]
      rfl
  | cons rule rules rest =>
      have first := silent rule List.mem_cons_self
      rw [List.foldl_cons, rest (fun other member => silent other (List.mem_cons_of_mem _ member)), Policy.only_put]
      split
      · rw [walk_put_of_none first, Policy.only_only]
        congr 2
        apply Policy.only_congr
        intro pref
        rw [Bool.eq_iff_iff]
        simp [not_or]
      · rename_i repeated
        congr 2
        apply Policy.only_congr
        intro pref
        have listed : rule.pref ∈ rules.map Rule.pref := by simpa using repeated
        rw [Bool.eq_iff_iff]
        simp only [decide_eq_true_eq, List.map_cons, List.mem_cons, not_or]
        constructor
        · intro absent
          exact ⟨fun same => absent (same ▸ listed), absent⟩
        · exact And.right

/-- Where none of the rules put there decides, they only take places. -/
theorem walk_only_foldl_put {rules : List (Rule δ)} (kept : Nat → Bool) (silent : ∀ other ∈ rules, kept other.pref = true →
    other.verdict lookup packet = none) (policy : Policy δ) :
    walk lookup packet ((rules.foldl Policy.put policy).only kept).rules =
      walk lookup packet ((policy.only fun pref => pref ∉ rules.map Rule.pref).only kept).rules := by
  rw [Policy.only_foldl_put, walk_foldl_put _ ?_, Policy.only_only, Policy.only_only]
  · congr 2
    apply Policy.only_congr
    intro pref
    cases inside : kept pref with
    | false => simp
    | true =>
        rw [Bool.and_true, Bool.true_and, decide_eq_decide, not_iff_not, List.mem_map, List.mem_map]
        constructor
        · rintro ⟨other, listed, same⟩
          exact ⟨other, (List.mem_filter.mp listed).1, same⟩
        · rintro ⟨other, listed, rfl⟩
          exact ⟨other, List.mem_filter.mpr ⟨listed, inside⟩, rfl⟩
  · intro other listed
    obtain ⟨listed, inside⟩ := List.mem_filter.mp listed
    exact silent other listed inside

section Several

variable {rules : List (Rule δ)} (member : rule ∈ rules) (apart : (rules.map Rule.pref).Nodup)

include member apart

/-- The first of the rules put there that decides leaves only the rules ahead of it. -/
theorem walk_foldl_put_of_some {hop : Hop δ} (decides : rule.verdict lookup packet = some hop)
    (silent : ∀ other ∈ rules, other.pref < rule.pref → other.verdict lookup packet = none) (policy : Policy δ) :
    walk lookup packet (rules.foldl Policy.put policy).rules =
      (walk lookup packet ((policy.only fun pref => pref ∉ rules.map Rule.pref).only (· < rule.pref)).rules).or
        (some hop) := by
  have below : walk lookup packet ((rules.foldl Policy.put policy).only (· < rule.pref)).rules = _ :=
    walk_only_foldl_put (· < rule.pref) (fun other listed low => silent other listed (by simpa using low)) policy
  rw [walk_split _ rule.pref, below, Policy.only_eq_foldl_put member apart]
  congr 1
  rw [walk_cons, decides]
  rfl

/-- If one of the rules put there may decide, the others only take places. -/
theorem walk_foldl_put_alone (silent : ∀ other ∈ rules, other ≠ rule → other.verdict lookup packet = none)
    (policy : Policy δ) : walk lookup packet (rules.foldl Policy.put policy).rules =
      walk lookup packet ((policy.only fun pref => pref ∉ rules.map Rule.pref).put rule).rules := by
  have below : walk lookup packet ((rules.foldl Policy.put policy).only (· < rule.pref)).rules = _ :=
    walk_only_foldl_put (· < rule.pref) ?_ policy
  have above : walk lookup packet ((rules.foldl Policy.put policy).only (rule.pref < ·)).rules = _ :=
    walk_only_foldl_put (rule.pref < ·) ?_ policy
  · rw [walk_split _ rule.pref, below, above, Policy.only_eq_foldl_put member apart,
      walk_split ((policy.only fun pref => pref ∉ rules.map Rule.pref).put rule) rule.pref, Policy.only_put,
      Policy.only_put, Policy.only_put]
    simp only [Nat.lt_irrefl, decide_false, decide_true, Bool.false_eq_true, if_false, if_true, Policy.rules_put_only]
  · intro other listed low
    apply silent other listed
    intro same
    rw [same] at low
    simp at low
  · intro other listed high
    apply silent other listed
    intro same
    rw [same] at high
    simp at high

end Several

end Walk

end DeepOrc.Lib.PolicyRouting

import DeepOrc.HostSetup.Blocks

/-!
# The script run again

Once the commands for a gateway have run, they change nothing more, and neither do those for the other gateways change
what they did.
-/

namespace DeepOrc.HostSetup

open Lib.Ipv4 (Network)
open Lib.PolicyRouting (Policy Rule Selector)
open Lib.PolicyRouting.Policy (Once)
open Lib.Commands (Settling runAll)

/-! ### Rules -/

section Rules

variable {slot slot' lanIp lanIp' : Nat} {wgIf wgIf' : Name}

theorem isFrom_fromRule : isFrom lanIp slot (fromRule slot lanIp) = true := by
  simp [isFrom, fromRule, Selector.fromHost, sentTo, lookup]

theorem isFrom_fromRule_of_ne (apart : slot ≠ slot') : isFrom lanIp slot (fromRule slot' lanIp') = false := by
  simp [isFrom, fromRule, sentTo, lookup, Ne.symm apart]

theorem isFrom_iifRule : isFrom lanIp slot (iifRule slot' wgIf) = false := by
  simp [isFrom, iifRule, Selector.onIif, Selector.everything]

theorem isIif_iifRule : isIif wgIf slot (iifRule slot wgIf) = true := by
  simp [isIif, iifRule, Selector.onIif, sentTo, lookup]

theorem isIif_iifRule_of_ne (apart : slot ≠ slot') : isIif wgIf slot (iifRule slot' wgIf') = false := by
  simp [isIif, iifRule, sentTo, lookup, Ne.symm apart]

theorem isIif_fromRule : isIif wgIf slot (fromRule slot' lanIp) = false := by
  simp [isIif, fromRule, Selector.fromHost, Selector.everything]

theorem pref_ne (low : slot ≤ 252) : (fromRule slot lanIp).pref ≠ (iifRule slot' wgIf).pref := by
  unfold fromRule iifRule
  change 32000 + slot ≠ 32500 + slot'
  omega

end Rules

section AddNew

variable {policy : Policy Name} {rule other : Rule Name} {wanted : Rule Name → Bool}

theorem addNew_of_not_mem (absent : rule ∉ policy.rules) : addNew policy rule = policy.add rule := if_neg absent

theorem addNew_of_mem (present : rule ∈ policy.rules) : addNew policy rule = policy := if_pos present

theorem countP_addNew (unlike : wanted rule = false) :
    (addNew policy rule).rules.countP wanted = policy.rules.countP wanted := by
  by_cases present : rule ∈ policy.rules
  · rw [addNew_of_mem present]
  · rw [addNew_of_not_mem present, Policy.countP_add, unlike]
    rfl

theorem once_addNew (once : Once wanted rule policy) (unlike : wanted other = false) (different : rule.pref ≠ other.pref) :
    Once wanted rule (addNew policy other) := by
  by_cases present : other ∈ policy.rules
  · rw [addNew_of_mem present]
    exact once
  · rw [addNew_of_not_mem present]
    exact once.add unlike different

theorem once_delete_addNew (few : policy.rules.countP wanted ≤ 1) (wants : wanted rule = true) :
    Once wanted rule (addNew (policy.delete wanted) rule) := by
  have none_ := List.countP_eq_zero.mp (Policy.countP_delete_self few)
  have absent : rule ∉ (policy.delete wanted).rules := fun member => none_ rule member wants
  rw [addNew_of_not_mem absent]
  exact ⟨policy.delete wanted, fun other member => by simpa using none_ other member, rfl⟩

theorem addNew_delete_of_once (once : Once wanted rule policy) (wants : wanted rule = true) :
    addNew (policy.delete wanted) rule = policy := by
  obtain ⟨absent, same⟩ := once.delete_add wants
  rw [addNew_of_not_mem absent, same]

end AddNew

/-- Two gateways of a group. -/
structure Apart (one other : Seat) : Prop where
  slot : one.slot ≠ other.slot
  wgIf : one.wgIf ≠ other.wgIf

theorem Apart.symm {one other : Seat} (apart : Apart one other) : Apart other one := ⟨apart.slot.symm, apart.wgIf.symm⟩

theorem Apart.mac {one other : Seat} (apart : Apart one other) : one.mac ≠ other.mac :=
  fun same => apart.slot (macName_injective same)

namespace Seat

variable {seat other : Seat} {policy : Policy Name}

/-- At most one rule for the address and one for the interface. -/
structure Single (seat : Seat) (policy : Policy Name) : Prop where
  from_ : policy.rules.countP (isFrom seat.lanIp seat.slot) ≤ 1
  iif : policy.rules.countP (isIif seat.wgIf seat.slot) ≤ 1

structure Ruled (seat : Seat) (policy : Policy Name) : Prop where
  from_ : Once (isFrom seat.lanIp seat.slot) (fromRule seat.slot seat.lanIp) policy
  iif : seat.config.isSome = true → Once (isIif seat.wgIf seat.slot) (iifRule seat.slot seat.wgIf) policy
  noIif : seat.config.isSome = false → ∀ rule ∈ policy.rules, isIif seat.wgIf seat.slot rule = false

theorem ruled (low : seat.slot ≤ 252) (single : seat.Single policy) : seat.Ruled (seat.policy policy) := by
  have first := once_delete_addNew single.from_ isFrom_fromRule
  have spared : isIif seat.wgIf seat.slot (fromRule seat.slot seat.lanIp) = false := isIif_fromRule
  have few : (addNew (policy.delete (isFrom seat.lanIp seat.slot)) (fromRule seat.slot seat.lanIp)).rules.countP
      (isIif seat.wgIf seat.slot) ≤ 1 := by
    rw [countP_addNew spared]
    exact Nat.le_trans (Lib.PolicyRouting.countP_eraseP_le _) single.iif
  unfold Seat.policy
  cases config : seat.config.isSome with
  | false =>
      refine ⟨first.delete spared, ?_, ?_⟩
      · simp [config]
      · intro _ rule member
        have none_ := List.countP_eq_zero.mp (Policy.countP_delete_self few) rule member
        simpa using none_
  | true =>
      refine ⟨once_addNew (first.delete spared) isFrom_iifRule (pref_ne low), ?_, ?_⟩
      · intro _
        exact once_delete_addNew few isIif_iifRule
      · simp [config]

theorem policy_of_ruled (ruled : seat.Ruled policy) : seat.policy policy = policy := by
  unfold Seat.policy
  rw [addNew_delete_of_once ruled.from_ isFrom_fromRule]
  cases config : seat.config.isSome with
  | false =>
      simp only [Bool.false_eq_true, if_false]
      exact Policy.delete_eq_self (ruled.noIif config)
  | true =>
      simp only [if_true]
      exact addNew_delete_of_once (ruled.iif config) isIif_iifRule

/-- A kind of rule that is none of the gateway's. -/
structure Strange (seat : Seat) (wanted : Rule Name → Bool) : Prop where
  from_ : wanted (fromRule seat.slot seat.lanIp) = false
  iif : wanted (iifRule seat.slot seat.wgIf) = false

theorem strange_isFrom (apart : other.slot ≠ seat.slot) : seat.Strange (isFrom other.lanIp other.slot) :=
  ⟨isFrom_fromRule_of_ne apart, isFrom_iifRule⟩

theorem strange_isIif (apart : other.slot ≠ seat.slot) : seat.Strange (isIif other.wgIf other.slot) :=
  ⟨isIif_fromRule, isIif_iifRule_of_ne apart⟩

variable {wanted : Rule Name → Bool}

theorem countP_policy (strange : seat.Strange wanted) :
    (seat.policy policy).rules.countP wanted ≤ policy.rules.countP wanted := by
  have counted : ((addNew (policy.delete (isFrom seat.lanIp seat.slot)) (fromRule seat.slot seat.lanIp)).delete
      (isIif seat.wgIf seat.slot)).rules.countP wanted ≤ policy.rules.countP wanted := by
    apply Nat.le_trans (Lib.PolicyRouting.countP_eraseP_le wanted)
    rw [countP_addNew strange.from_]
    exact Lib.PolicyRouting.countP_eraseP_le wanted
  unfold Seat.policy
  cases seat.config.isSome with
  | false => exact counted
  | true =>
      simp only [if_true]
      rw [countP_addNew strange.iif]
      exact counted

theorem once_policy {rule : Rule Name} (strange : seat.Strange wanted) (spared : isFrom seat.lanIp seat.slot rule = false)
    (spared' : isIif seat.wgIf seat.slot rule = false) (before : rule.pref ≠ (fromRule seat.slot seat.lanIp).pref)
    (behind : rule.pref ≠ (iifRule seat.slot seat.wgIf).pref) (once : Once wanted rule policy) :
    Once wanted rule (seat.policy policy) := by
  have first := (once_addNew (once.delete spared) strange.from_ before).delete spared'
  unfold Seat.policy
  cases seat.config.isSome with
  | false => exact first
  | true => exact once_addNew first strange.iif behind

theorem ruled_policy (apart : other.slot ≠ seat.slot) (low : other.slot ≤ 252) (low' : seat.slot ≤ 252)
    (ruled : other.Ruled policy) : other.Ruled (seat.policy policy) where
  from_ := by
    refine once_policy (strange_isFrom apart) (isFrom_fromRule_of_ne apart.symm) isIif_fromRule ?_ (pref_ne low) ruled.from_
    change 32000 + other.slot ≠ 32000 + seat.slot
    omega
  iif := by
    intro config
    refine once_policy (strange_isIif apart) isFrom_iifRule (isIif_iifRule_of_ne apart.symm) (pref_ne low').symm ?_
      (ruled.iif config)
    change 32500 + other.slot ≠ 32500 + seat.slot
    omega
  noIif := by
    intro config
    have none_ : policy.rules.countP (isIif other.wgIf other.slot) = 0 :=
      List.countP_eq_zero.mpr fun rule member => by simp [ruled.noIif config rule member]
    have still : (seat.policy policy).rules.countP (isIif other.wgIf other.slot) ≤ _ := countP_policy (strange_isIif apart)
    rw [none_, Nat.le_zero, List.countP_eq_zero] at still
    intro rule member
    simpa using still rule member

theorem single_policy (apart : other.slot ≠ seat.slot) (single : other.Single policy) :
    other.Single (seat.policy policy) :=
  ⟨Nat.le_trans (countP_policy (strange_isFrom apart)) single.from_,
    Nat.le_trans (countP_policy (strange_isIif apart)) single.iif⟩

end Seat

/-! ### Links and routes -/

/-- The gateways of a group: their slots are not those of the kernel's tables, their addresses in the subnet of the
group, and the parent is none of their links. -/
structure Fits (group : PeerGroup) (seat : Seat) : Prop where
  slot_le : seat.slot ≤ 252
  inside : group.lanSubnet.contains seat.lanIp = true
  named : ∀ slot, macName slot ≠ seat.wgIf
  mac : group.parent ≠ seat.mac
  wgIf : group.parent ≠ seat.wgIf

theorem Fits.table_ne {group : PeerGroup} {seat : Seat} (fits : Fits group seat) : mainTable ≠ seat.slot := by
  have low := fits.slot_le
  change 254 ≠ seat.slot
  omega

section Routes

variable {group : PeerGroup} {ethernet : Bool} {slot lanIp : Nat} {route : Route}

theorem mem_replaced {routes : Finset Route} {other : Route} :
    other ∈ replaced routes route ↔ other = route ∨ other ∈ routes ∧ other.sameKey route = false := by
  simp [replaced]

theorem sameKey_of_table_ne {other : Route} (apart : other.table ≠ route.table) : other.sameKey route = false := by
  simp [Route.sameKey, apart]

theorem table_of_blocks {destination : Network} (blocking : blocks destination route = true) : route.table = mainTable := by
  simp only [blocks, Bool.and_eq_true, decide_eq_true_eq] at blocking
  exact blocking.1.1

theorem blocks_wgRoute {destination : Network} {name : Name} {config : WgConfig} :
    blocks destination (wgRoute name config) = true ↔ config.allowedIps = destination := by
  simp only [blocks, Bool.and_eq_true, decide_eq_true_eq]
  simp [wgRoute]

theorem mem_connectedRoutes {name : Name} {address : Network} : route ∈ connectedRoutes name address ↔
    address.bits < 32 ∧ route = ⟨mainTable, base address, 0, name, none⟩ := by
  unfold connectedRoutes
  split
  · simp [*]
  · simp [*]

theorem mem_macRoutes (member : route ∈ macRoutes group ethernet slot lanIp) : ethernet = true ∧
    route.dev = macName slot ∧ (route.table = slot ∨ route ∈ connectedRoutes (macName slot) (lanAddress group lanIp)) := by
  have connected : route ∈ connectedRoutes (macName slot) (lanAddress group lanIp) → route.dev = macName slot ∧
      (route.table = slot ∨ route ∈ connectedRoutes (macName slot) (lanAddress group lanIp)) := by
    intro listed
    obtain ⟨-, same⟩ := mem_connectedRoutes.mp listed
    exact ⟨by rw [same], .inr listed⟩
  cases ethernet with
  | false => simp [macRoutes] at member
  | true =>
      refine ⟨rfl, ?_⟩
      rcases mem_replaced.mp member with rfl | ⟨listed, -⟩
      · exact ⟨rfl, .inl rfl⟩
      · split at listed
        · rcases mem_replaced.mp listed with rfl | ⟨listed, -⟩
          · exact ⟨rfl, .inl rfl⟩
          · exact connected listed
        · exact connected listed

theorem connectedRoutes_subset (low : slot ≤ 252)
    (connected : route ∈ connectedRoutes (macName slot) (lanAddress group lanIp)) :
    route ∈ macRoutes group true slot lanIp := by
  obtain ⟨-, same⟩ := mem_connectedRoutes.mp connected
  have main : route.table ≠ slot := by
    rw [same]
    change 254 ≠ slot
    omega
  refine mem_replaced.mpr (.inr ⟨?_, sameKey_of_table_ne main⟩)
  split
  · exact mem_replaced.mpr (.inr ⟨connected, sameKey_of_table_ne main⟩)
  · exact connected

theorem base_lanAddress (inside : group.lanSubnet.contains lanIp = true) : base (lanAddress group lanIp) = base group.lanSubnet := by
  rw [Network.contains, beq_iff_eq] at inside
  unfold base Network.first
  change (⟨lanIp / group.lanSubnet.size * group.lanSubnet.size, _⟩ : Network) = _
  rw [inside]
  rfl

theorem macSpares_of_foreign (elsewhere : route.dev ≠ macName slot) (table : route.table ≠ slot) :
    macSpares group ethernet slot lanIp route = true := by
  have default_ : route.sameKey (lanDefault group slot) = false := sameKey_of_table_ne table
  have lan : route.sameKey (lanRoute group slot) = false := sameKey_of_table_ne table
  simp [macSpares, elsewhere, default_, lan]

end Routes

section WgRun

variable {wgIf : Name} {config : WgConfig} {links links' : Name → Option Link} {routes routes' : Finset Route}
  {route : Route} {name : Name}

theorem WgRun.links_of_ne (run : WgRun wgIf config links routes links' routes') (elsewhere : name ≠ wgIf) :
    links' name = links name := by
  cases run with
  | taken link there other => exact Function.update_of_ne elsewhere ..
  | blocked route member elsewhere' blocking own => exact Function.update_of_ne elsewhere ..
  | up free own => exact Function.update_of_ne elsewhere ..

theorem WgRun.mem_of_ne (run : WgRun wgIf config links routes links' routes') (member : route ∈ routes)
    (elsewhere : route.dev ≠ wgIf) : route ∈ routes' := by
  cases run with
  | taken link there other => exact member
  | blocked other member' elsewhere' blocking own => exact Finset.mem_filter.mpr ⟨member, elsewhere⟩
  | up free own => exact Finset.mem_insert_of_mem (Finset.mem_filter.mpr ⟨member, elsewhere⟩)

theorem WgRun.mem (run : WgRun wgIf config links routes links' routes') (member : route ∈ routes') : route ∈ routes ∨
    route = wgRoute wgIf config ∧
      ∀ other ∈ routes, other.dev ≠ wgIf → blocks config.allowedIps other = false := by
  cases run with
  | taken link there other => exact .inl member
  | blocked other member' elsewhere blocking own => exact .inl (Finset.mem_filter.mp member).1
  | up free own =>
      rcases Finset.mem_insert.mp member with same | member
      · exact .inr ⟨same, free⟩
      · exact .inl (Finset.mem_filter.mp member).1

end WgRun

namespace Seat.Wireguard

variable {seat : Seat} {links links' : Name → Option Link} {routes routes' : Finset Route} {route : Route} {name : Name}

theorem links_of_ne (run : seat.Wireguard links routes links' routes') (elsewhere : name ≠ seat.wgIf) :
    links' name = links name := by
  unfold Seat.Wireguard at run
  cases config : seat.config with
  | none =>
      rw [config] at run
      rw [run.1]
  | some config' =>
      rw [config] at run
      exact WgRun.links_of_ne run elsewhere

theorem mem_of_ne (run : seat.Wireguard links routes links' routes') (member : route ∈ routes)
    (elsewhere : route.dev ≠ seat.wgIf) : route ∈ routes' := by
  unfold Seat.Wireguard at run
  cases config : seat.config with
  | none =>
      rw [config] at run
      rw [run.2]
      exact member
  | some config' =>
      rw [config] at run
      exact WgRun.mem_of_ne run member elsewhere

theorem mem (run : seat.Wireguard links routes links' routes') (member : route ∈ routes') : route ∈ routes ∨
    ∃ config, seat.config = some config ∧ route = wgRoute seat.wgIf config ∧
      ∀ other ∈ routes, other.dev ≠ seat.wgIf → blocks config.allowedIps other = false := by
  unfold Seat.Wireguard at run
  cases config : seat.config with
  | none =>
      rw [config] at run
      rw [run.2] at member
      exact .inl member
  | some config' =>
      rw [config] at run
      rcases WgRun.mem run member with listed | up
      · exact .inl listed
      · exact .inr ⟨config', rfl, up⟩

end Seat.Wireguard

namespace Ran

variable {group : PeerGroup} {ethernet : Bool} {seat : Seat} {host after : Host} {route : Route} {name : Name}

theorem links_of_ne (ran : Ran group ethernet seat host after) (mac : name ≠ seat.mac) (wg : name ≠ seat.wgIf) :
    after.links name = host.links name := by
  rw [ran.net.links_of_ne wg]
  exact Function.update_of_ne mac ..

/-- Only routes through the links of the gateway, or in its table, are touched. -/
theorem mem_of_mem (ran : Ran group ethernet seat host after) (member : route ∈ host.routes) (mac : route.dev ≠ seat.mac)
    (wg : route.dev ≠ seat.wgIf) (table : route.table ≠ seat.slot) : route ∈ after.routes := by
  refine ran.net.mem_of_ne (Finset.mem_union_left _ ?_) wg
  exact Finset.mem_filter.mpr ⟨member, macSpares_of_foreign mac table⟩

theorem mem (ran : Ran group ethernet seat host after) (member : route ∈ after.routes) :
    (route ∈ host.routes ∧ macSpares group ethernet seat.slot seat.lanIp route = true) ∨
    route ∈ macRoutes group ethernet seat.slot seat.lanIp ∨
    ∃ config, seat.config = some config ∧ route = wgRoute seat.wgIf config ∧ ∀ other ∈ host.routes,
      other.dev ≠ seat.mac → other.dev ≠ seat.wgIf → other.table ≠ seat.slot →
        blocks config.allowedIps other = false := by
  rcases ran.net.mem member with listed | ⟨config, some_, same, free⟩
  · rcases Finset.mem_union.mp listed with listed | listed
    · exact .inl (Finset.mem_filter.mp listed)
    · exact .inr (.inl listed)
  · refine .inr (.inr ⟨config, some_, same, fun other listed mac wg table => ?_⟩)
    refine free other (Finset.mem_union_left _ ?_) wg
    exact Finset.mem_filter.mpr ⟨listed, macSpares_of_foreign mac table⟩

theorem configs_of_ne (ran : Ran group ethernet seat host after) (elsewhere : name ≠ seat.wgIf) :
    after.configs name = host.configs name := by
  rw [ran.configs]
  unfold Seat.configs
  cases seat.config with
  | none => rfl
  | some config => exact Function.update_of_ne elsewhere ..

end Ran

/-! ### One gateway -/

/-- What has to hold of a host for the commands of a gateway to do all they do the first time: none of its rules is
there twice, and none of its links takes a network of `wanted` that goes away with it. -/
structure Ready (group : PeerGroup) (ethernet : Bool) (wanted : Network → Prop) (seat : Seat) (host : Host) : Prop where
  parent : host.onEthernet group.parent = ethernet
  single : seat.Single host.policy
  routes : ∀ destination, wanted destination → ∀ route ∈ host.routes, blocks destination route = true →
    route.dev ≠ seat.mac ∧ route.dev ≠ seat.wgIf

inductive WgSettled (wgIf : Name) (config : WgConfig) (host : Host) : Prop where
  | taken (link : Link) (there : host.links wgIf = some link) (other : link.kind ≠ .wireguard)
      (mtu : link.mtu = some backhaulWgMtu)
  | blocked (gone : host.links wgIf = none) (route : Route) (member : route ∈ host.routes)
      (blocking : blocks config.allowedIps route = true)
  | up (there : host.links wgIf = some (wgLink config)) (member : wgRoute wgIf config ∈ host.routes)
      (only : ∀ route ∈ host.routes, route.dev = wgIf → route = wgRoute wgIf config)
      (free : ∀ route ∈ host.routes, route.dev ≠ wgIf → blocks config.allowedIps route = false)

structure Settled (group : PeerGroup) (ethernet : Bool) (seat : Seat) (host : Host) : Prop where
  parent : host.onEthernet group.parent = ethernet
  link : host.links seat.mac = macLink group ethernet seat.lanIp
  spares : ∀ route ∈ host.routes, macSpares group ethernet seat.slot seat.lanIp route = true ∨
    route ∈ macRoutes group ethernet seat.slot seat.lanIp
  routes : macRoutes group ethernet seat.slot seat.lanIp ⊆ host.routes
  ruled : seat.Ruled host.policy
  registered : host.rtTables.any (decimal seat.slot ++ [' ']).isPrefixOf = true
  wireguard : ∀ config, seat.config = some config → WgSettled seat.wgIf config host ∧
    host.configs seat.wgIf = some config ∧ forwardOut seat.wgIf seat.mac ∈ host.forward ∧
    forwardBack seat.wgIf seat.mac ∈ host.forward ∧ masquerade seat.mac ∈ host.postrouting

theorem mem_ensure {chain : List (List Text)} {rule other : List Text} :
    other ∈ ensure chain rule ↔ other = rule ∨ other ∈ chain := by
  unfold ensure
  split
  · rename_i present
    constructor
    · exact .inr
    · rintro (rfl | member)
      · exact present
      · exact member
  · rw [List.mem_append, List.mem_singleton, or_comm]

theorem registered_register {host : Host} {start line : Text} (starts : start.isPrefixOf line = true) :
    (host.register start line).rtTables.any start.isPrefixOf = true := by
  unfold Host.register
  split
  · assumption
  · simp [starts]

theorem register_subset {host : Host} {start line other : Text} (registered : host.rtTables.any other.isPrefixOf = true) :
    (host.register start line).rtTables.any other.isPrefixOf = true := by
  unfold Host.register
  split
  · exact registered
  · rw [List.any_append, registered, Bool.true_or]

section OneGateway

variable {group : PeerGroup} {ethernet : Bool} {wanted : Network → Prop} {seat other : Seat} {host after : Host}

theorem parent_kept (fits : Fits group seat) (ran : Ran group ethernet seat host after) :
    after.onEthernet group.parent = host.onEthernet group.parent := by
  unfold Host.onEthernet
  rw [ran.links_of_ne fits.mac fits.wgIf]

theorem wgSettled {wgIf : Name} {config : WgConfig} {links : Name → Option Link} {routes : Finset Route}
    (run : WgRun wgIf config links routes after.links after.routes) : WgSettled wgIf config after := by
  generalize links' : after.links = after' at run
  generalize routes' : after.routes = routes'' at run
  cases run with
  | taken link there other =>
      refine .taken { link with mtu := some backhaulWgMtu } ?_ other rfl
      rw [links']
      exact Function.update_self ..
  | blocked route member elsewhere blocking own =>
      refine .blocked ?_ route ?_ blocking
      · rw [links']
        exact Function.update_self ..
      · rw [routes']
        exact Finset.mem_filter.mpr ⟨member, elsewhere⟩
  | up free own =>
      refine .up ?_ ?_ ?_ ?_
      · rw [links']
        exact Function.update_self ..
      · rw [routes']
        exact Finset.mem_insert_self ..
      · intro route member same
        rw [routes'] at member
        rcases Finset.mem_insert.mp member with same' | member
        · exact same'
        · exact absurd same (Finset.mem_filter.mp member).2
      · intro route member elsewhere
        rw [routes'] at member
        rcases Finset.mem_insert.mp member with rfl | member
        · exact absurd rfl elsewhere
        · exact free route (Finset.mem_filter.mp member).1 elsewhere

theorem settled_of_ready (fits : Fits group seat) (ready : Ready group ethernet wanted seat host)
    (ran : Ran group ethernet seat host after) : Settled group ethernet seat after where
  parent := (parent_kept fits ran).trans ready.parent
  link := by
    rw [ran.net.links_of_ne (fits.named seat.slot)]
    exact Function.update_self ..
  spares := by
    intro route member
    rcases ran.mem member with ⟨-, spared⟩ | made | ⟨config, -, rfl, -⟩
    · exact .inl spared
    · exact .inr made
    · exact .inl (macSpares_of_foreign (Ne.symm (fits.named seat.slot)) fits.table_ne)
  routes := by
    intro route member
    obtain ⟨-, dev, -⟩ := mem_macRoutes member
    apply ran.net.mem_of_ne (Finset.mem_union_right _ member)
    rw [dev]
    exact fits.named seat.slot
  ruled := by
    rw [ran.policy]
    exact Seat.ruled fits.slot_le ready.single
  registered := by
    rw [ran.rtTables]
    exact registered_register (by simp)
  wireguard := by
    intro config some_
    have run := ran.net
    rw [Seat.Wireguard, some_] at run
    refine ⟨wgSettled run, ?_, ?_, ?_, ?_⟩
    · rw [ran.configs, Seat.configs, some_]
      exact Function.update_self ..
    · rw [ran.forward, Seat.forward, some_]
      exact mem_ensure.mpr (.inr (mem_ensure.mpr (.inl rfl)))
    · rw [ran.forward, Seat.forward, some_]
      exact mem_ensure.mpr (.inl rfl)
    · rw [ran.postrouting, Seat.postrouting, some_]
      exact mem_ensure.mpr (.inl rfl)

theorem WgSettled.same {wgIf : Name} {config : WgConfig} {links : Name → Option Link} {routes : Finset Route}
    (settled : WgSettled wgIf config host) (run : WgRun wgIf config host.links host.routes links routes) :
    links = host.links ∧ routes = host.routes := by
  cases settled with
  | taken link there other mtu =>
      cases run with
      | taken link' there' other' =>
          cases there.symm.trans there'
          refine ⟨Function.update_eq_self_iff.mpr ?_, rfl⟩
          rw [there, ← mtu]
      | blocked route member elsewhere blocking own => exact absurd (own link there) other
      | up free own => exact absurd (own link there) other
  | blocked gone route member blocking =>
      have elsewhere : route.dev ≠ wgIf := by
        intro same
        have stands := host.standing route member
        rw [same, gone] at stands
        cases stands
      cases run with
      | taken link there other => cases gone.symm.trans there
      | blocked route' member' elsewhere' blocking' own =>
          exact ⟨Function.update_eq_self_iff.mpr gone.symm, filter_dev_of_none gone⟩
      | up free own =>
          rw [free route member elsewhere] at blocking
          cases blocking
  | up there listed only free =>
      cases run with
      | taken link there' other =>
          cases there.symm.trans there'
          exact absurd rfl other
      | blocked route member elsewhere blocking own =>
          rw [free route member elsewhere] at blocking
          cases blocking
      | up free' own =>
          refine ⟨Function.update_eq_self_iff.mpr there.symm, ?_⟩
          ext route
          rw [Finset.mem_insert, Finset.mem_filter]
          constructor
          · rintro (rfl | ⟨member, -⟩)
            · exact listed
            · exact member
          · intro member
            by_cases own' : route.dev = wgIf
            · exact .inl (only route member own')
            · exact .inr ⟨member, own'⟩

theorem ensure_of_mem {chain : List (List Text)} {rule : List Text} (present : rule ∈ chain) : ensure chain rule = chain :=
  if_pos present

theorem eq_of_settled (settled : Settled group ethernet seat host) (ran : Ran group ethernet seat host after) :
    after = host := by
  have links : Function.update host.links seat.mac (macLink group ethernet seat.lanIp) = host.links :=
    Function.update_eq_self_iff.mpr settled.link.symm
  have routes : host.routes.filter (fun route => macSpares group ethernet seat.slot seat.lanIp route) ∪
      macRoutes group ethernet seat.slot seat.lanIp = host.routes := by
    ext route
    rw [Finset.mem_union, Finset.mem_filter]
    constructor
    · rintro (⟨member, -⟩ | made)
      · exact member
      · exact settled.routes made
    · intro member
      rcases settled.spares route member with spared | made
      · exact .inl ⟨member, spared⟩
      · exact .inr made
  have run := ran.net
  rw [links, routes] at run
  have net : after.links = host.links ∧ after.routes = host.routes := by
    unfold Seat.Wireguard at run
    cases config : seat.config with
    | none =>
        rw [config] at run
        exact run
    | some config' =>
        rw [config] at run
        exact (settled.wireguard config' config).1.same run
  have registered : (host.registerSlot seat.slot).rtTables = host.rtTables := by
    unfold Host.registerSlot Host.register
    rw [if_pos settled.registered]
  have rest : after.forward = host.forward ∧ after.postrouting = host.postrouting ∧ after.configs = host.configs := by
    rw [ran.forward, ran.postrouting, ran.configs, Seat.forward, Seat.postrouting, Seat.configs]
    cases config : seat.config with
    | none => exact ⟨rfl, rfl, rfl⟩
    | some config' =>
        obtain ⟨-, written, out, back, masquerades⟩ := settled.wireguard config' config
        simp only [Option.isSome_some, if_true]
        rw [ensure_of_mem out, ensure_of_mem back, ensure_of_mem masquerades]
        exact ⟨rfl, rfl, Function.update_eq_self_iff.mpr written.symm⟩
  have policy : after.policy = host.policy := ran.policy.trans (Seat.policy_of_ruled settled.ruled)
  exact Host.ext net.1 net.2 policy rest.1 rest.2.1 rest.2.2 (ran.rtTables.trans registered)

end OneGateway

/-! ### Two gateways -/

section TwoGateways

variable {group : PeerGroup} {ethernet : Bool} {wanted : Network → Prop} {seat other : Seat} {host after : Host}
  {route : Route}

/-- What is added is added through the links of the gateway. -/
theorem Ran.mem_of_dev_ne (ran : Ran group ethernet seat host after) (member : route ∈ after.routes)
    (mac : route.dev ≠ seat.mac) (wg : route.dev ≠ seat.wgIf) : route ∈ host.routes := by
  rcases ran.mem member with ⟨listed, -⟩ | made | ⟨config, -, rfl, -⟩
  · exact listed
  · exact absurd (mem_macRoutes made).2.1 mac
  · exact absurd rfl wg

theorem ready_kept (fits : Fits group seat) (fits' : Fits group other) (apart : Apart seat other)
    (ran : Ran group ethernet seat host after) (ready : Ready group ethernet wanted other host) :
    Ready group ethernet wanted other after where
  parent := (parent_kept fits ran).trans ready.parent
  single := by
    rw [ran.policy]
    exact Seat.single_policy apart.symm.slot ready.single
  routes := by
    intro destination want route member blocking
    rcases ran.mem member with ⟨listed, -⟩ | made | ⟨config, -, rfl, -⟩
    · exact ready.routes destination want route listed blocking
    · rw [(mem_macRoutes made).2.1]
      exact ⟨apart.mac, fits'.named seat.slot⟩
    · exact ⟨Ne.symm (fits.named other.slot), apart.wgIf⟩

/-- The network of the group is the same for all of its macvlans. -/
theorem exists_macRoute (fits : Fits group seat) (fits' : Fits group other) {destination : Network}
    (made : route ∈ macRoutes group ethernet seat.slot seat.lanIp) (blocking : blocks destination route = true) :
    ∃ own ∈ macRoutes group ethernet other.slot other.lanIp, own.dev = other.mac ∧ blocks destination own = true := by
  obtain ⟨on, -, place⟩ := mem_macRoutes made
  subst on
  rcases place with table | connected
  · exact absurd ((table_of_blocks blocking).symm.trans table) fits.table_ne
  · obtain ⟨bits, rfl⟩ := mem_connectedRoutes.mp connected
    have own : (⟨mainTable, base (lanAddress group other.lanIp), 0, other.mac, none⟩ : Route) ∈
        connectedRoutes other.mac (lanAddress group other.lanIp) := mem_connectedRoutes.mpr ⟨bits, rfl⟩
    refine ⟨_, connectedRoutes_subset fits'.slot_le own, rfl, ?_⟩
    rw [← blocking]
    simp only [blocks, base_lanAddress fits.inside, base_lanAddress fits'.inside]

theorem table_macRoutes (fits : Fits group seat) (apart : Apart other seat)
    (made : route ∈ macRoutes group ethernet other.slot other.lanIp) : route.table ≠ seat.slot := by
  obtain ⟨-, -, place⟩ := mem_macRoutes made
  rcases place with table | connected
  · rw [table]
    exact apart.slot
  · obtain ⟨-, rfl⟩ := mem_connectedRoutes.mp connected
    exact fits.table_ne

theorem mem_forward {rule : List Text} {chain : List (List Text)} (present : rule ∈ chain) : rule ∈ seat.forward chain := by
  unfold Seat.forward
  split
  · exact mem_ensure.mpr (.inr (mem_ensure.mpr (.inr present)))
  · exact present

theorem mem_postrouting {rule : List Text} {chain : List (List Text)} (present : rule ∈ chain) :
    rule ∈ seat.postrouting chain := by
  unfold Seat.postrouting
  split
  · exact mem_ensure.mpr (.inr present)
  · exact present

theorem wgSettled_kept (fits : Fits group seat) (fits' : Fits group other) (apart : Apart other seat)
    (ran : Ran group ethernet seat host after) (ready : Ready group ethernet wanted seat host)
    (settled : Settled group ethernet other host) {config : WgConfig} (wants : wanted config.allowedIps)
    (wireguard : WgSettled other.wgIf config host) : WgSettled other.wgIf config after := by
  have links : after.links other.wgIf = host.links other.wgIf :=
    ran.links_of_ne (Ne.symm (fits'.named seat.slot)) apart.wgIf
  cases wireguard with
  | taken link there foreign mtu => exact .taken link (links.trans there) foreign mtu
  | blocked gone route member blocking =>
      obtain ⟨mac, wg⟩ := ready.routes config.allowedIps wants route member blocking
      refine .blocked (links.trans gone) route (ran.mem_of_mem member mac wg ?_) blocking
      rw [table_of_blocks blocking]
      exact fits.table_ne
  | up there listed only free =>
      have mac : other.wgIf ≠ seat.mac := Ne.symm (fits'.named seat.slot)
      refine .up (links.trans there) (ran.mem_of_mem listed mac apart.wgIf fits.table_ne) ?_ ?_
      · intro route member own
        refine only route (ran.mem_of_dev_ne member ?_ ?_) own
        · rw [own]
          exact mac
        · rw [own]
          exact apart.wgIf
      · intro route member elsewhere
        by_contra blocking
        rw [Bool.not_eq_false] at blocking
        rcases ran.mem member with ⟨listed', -⟩ | made | ⟨config', some_, rfl, free'⟩
        · rw [free route listed' elsewhere] at blocking
          cases blocking
        · obtain ⟨own, made', dev, blocking'⟩ := exists_macRoute fits fits' made blocking
          have named : own.dev ≠ other.wgIf := by
            rw [dev]
            exact fits'.named other.slot
          rw [free own (settled.routes made') named] at blocking'
          cases blocking'
        · have clash := free' (wgRoute other.wgIf config) listed mac apart.wgIf fits.table_ne
          rw [blocks_wgRoute.mpr (blocks_wgRoute.mp blocking).symm] at clash
          cases clash

theorem settled_kept (fits : Fits group seat) (fits' : Fits group other) (apart : Apart other seat)
    (ran : Ran group ethernet seat host after) (ready : Ready group ethernet wanted seat host)
    (wants : ∀ config, other.config = some config → wanted config.allowedIps)
    (settled : Settled group ethernet other host) : Settled group ethernet other after where
  parent := (parent_kept fits ran).trans settled.parent
  link := (ran.links_of_ne apart.mac (fits.named other.slot)).trans settled.link
  spares := by
    intro route member
    rcases ran.mem member with ⟨listed, -⟩ | made | ⟨config, -, rfl, -⟩
    · exact settled.spares route listed
    · obtain ⟨-, dev, -⟩ := mem_macRoutes made
      refine .inl (macSpares_of_foreign ?_ (table_macRoutes fits' apart.symm made))
      rw [dev]
      exact apart.symm.mac
    · exact .inl (macSpares_of_foreign (Ne.symm (fits.named other.slot)) fits'.table_ne)
  routes := by
    intro route made
    obtain ⟨-, dev, -⟩ := mem_macRoutes made
    refine ran.mem_of_mem (settled.routes made) ?_ ?_ (table_macRoutes fits apart made)
    · rw [dev]
      exact apart.mac
    · rw [dev]
      exact fits.named other.slot
  ruled := by
    rw [ran.policy]
    exact Seat.ruled_policy apart.slot fits'.slot_le fits.slot_le settled.ruled
  registered := by
    rw [ran.rtTables]
    exact register_subset settled.registered
  wireguard := by
    intro config some_
    obtain ⟨wireguard, written, out, back, masquerades⟩ := settled.wireguard config some_
    refine ⟨wgSettled_kept fits fits' apart ran ready settled (wants config some_) wireguard,
      (ran.configs_of_ne apart.wgIf).trans written, ?_, ?_, ?_⟩
    · rw [ran.forward]
      exact mem_forward out
    · rw [ran.forward]
      exact mem_forward back
    · rw [ran.postrouting]
      exact mem_postrouting masquerades

end TwoGateways

end DeepOrc.HostSetup

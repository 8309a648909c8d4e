import DeepOrc.HostSetup.Script
import DeepOrc.Lib.PolicyEdits
import DeepOrc.Lib.Text
import Mathlib.Data.Finset.Lattice.Lemmas

/-!
# What the commands for one gateway do

The macvlan is made anew every time. WireGuard comes up unless its name is taken by a link of another kind, or main has
a route for its network already.
-/

namespace DeepOrc.HostSetup

open Lib.Commands (execute_append flatMap_filterMap)
open Lib.Ipv4 (Network)
open Lib.PolicyRouting (Policy Rule)

/-! ### Names -/

theorem macName_injective : Function.Injective macName := by
  intro one other same
  exact Lib.Text.numeral_injective (List.append_cancel_left same)

theorem macName_ne_wgInterfaceName (slot : Nat) (name : Name) : macName slot ≠ wgInterfaceName name := by
  intro same
  have heads := congrArg List.head? same
  simp [macName, wgInterfaceName] at heads

/-! ### Links and routes -/

theorem Host.setLink_setLink (host : Host) (name : Name) (link link' : Link) :
    (host.setLink name link).setLink name link' = host.setLink name link' := by
  unfold Host.setLink
  ext1
  all_goals simp

/-- Everything but the links and the routes. -/
def Host.rest (host : Host) : Policy Name × List (List Text) × List (List Text) × (Name → Option WgConfig) × List Text :=
  (host.policy, host.forward, host.postrouting, host.configs, host.rtTables)

section Net

variable {host : Host} {name parent : Name} {link : Link} {kind : LinkKind} {address : Network} {mtu : Option Nat}
  {route : Route} {start line : Text}

@[simp] theorem rest_setLink : (host.setLink name link).rest = host.rest := rfl
@[simp] theorem rest_linkDel : (host.linkDel name).rest = host.rest := rfl

@[simp] theorem rest_addRoute : (host.addRoute route).rest = host.rest := by
  unfold Host.addRoute
  split <;> rfl

@[simp] theorem rest_connect : (host.connect name address).rest = host.rest := by
  unfold Host.connect
  split
  · exact rest_addRoute
  · rfl

@[simp] theorem rest_routeReplace : (host.routeReplace route).rest = host.rest := by
  unfold Host.routeReplace
  split <;> rfl

@[simp] theorem links_routeReplace : (host.routeReplace route).links = host.links := by
  unfold Host.routeReplace
  split <;> rfl

@[simp] theorem links_addRoute : (host.addRoute route).links = host.links := by
  unfold Host.addRoute
  split <;> rfl

@[simp] theorem links_connect : (host.connect name address).links = host.links := by
  unfold Host.connect
  split
  · exact links_addRoute
  · rfl

@[simp] theorem links_register : (host.register start line).links = host.links := by
  unfold Host.register
  split <;> rfl

@[simp] theorem routes_register : (host.register start line).routes = host.routes := by
  unfold Host.register
  split <;> rfl

theorem routes_addRoute (stands : (host.links route.dev).isSome = true) :
    (host.addRoute route).routes = insert route host.routes := by
  unfold Host.addRoute
  rw [dif_pos stands]

def connectedRoutes (name : Name) (address : Network) : Finset Route :=
  if address.bits < 32 then {⟨mainTable, base address, 0, name, none⟩} else ∅

theorem routes_connect (stands : (host.links name).isSome = true) :
    (host.connect name address).routes = host.routes ∪ connectedRoutes name address := by
  unfold Host.connect connectedRoutes
  split
  · rw [routes_addRoute stands, Finset.insert_eq, Finset.union_comm]
  · rw [Finset.union_empty]

theorem routes_routeReplace : (host.routeReplace route).routes =
    if host.routable route = true then replaced host.routes route else host.routes := by
  unfold Host.routeReplace
  split <;> rfl

theorem routable_of_up (there : host.links route.dev = some ⟨kind, [address], true, mtu⟩) :
    host.routable route = route.gateway.all fun gateway => address.contains gateway := by
  simp [Host.routable, there]

theorem routeReplace_of_none (gone : host.links route.dev = none) : host.routeReplace route = host := by
  have refused : host.routable route = false := by
    unfold Host.routable
    rw [gone]
    rfl
  unfold Host.routeReplace
  rw [dif_neg (by simp [refused])]

theorem rest_register {other : Host} (same : host.rest = other.rest) :
    (host.register start line).rest = (other.register start line).rest := by
  simp only [Host.rest, Prod.mk.injEq] at same
  obtain ⟨policy, forward, postrouting, configs, rtTables⟩ := same
  unfold Host.register
  rw [rtTables]
  split
  · simp [Host.rest, *]
  · simp [Host.rest, *]

theorem addrAdd_of_down (there : host.links name = some ⟨kind, [], false, mtu⟩) :
    host.addrAdd name address = host.setLink name ⟨kind, [address], false, mtu⟩ := by
  simp [Host.addrAdd, there]

theorem linkSetUp_of_down (there : host.links name = some ⟨kind, [address], false, mtu⟩) :
    host.linkSetUp name = (host.setLink name ⟨kind, [address], true, mtu⟩).connect name address := by
  simp [Host.linkSetUp, there]

end Net

theorem replaced_union (routes added : Finset Route) (route : Route) :
    replaced (routes ∪ added) route = (routes.filter fun other => !other.sameKey route) ∪ replaced added route := by
  ext other
  simp only [replaced, Finset.mem_insert, Finset.mem_filter, Finset.mem_union]
  tauto

/-! ### The macvlan -/

section Mac

variable (group : PeerGroup) (ethernet : Bool) (slot lanIp : Nat)

/-- `ethernet` says whether the parent takes a macvlan. -/
def macLink : Option Link :=
  if ethernet then some ⟨.macvlan group.parent, [lanAddress group lanIp], true, none⟩ else none

def hasLanGw : Bool := (lanAddress group lanIp).contains group.lanGw

def macRoutes : Finset Route :=
  if ethernet then
    let connected := connectedRoutes (macName slot) (lanAddress group lanIp)
    replaced (if hasLanGw group lanIp then replaced connected (lanDefault group slot) else connected) (lanRoute group slot)
  else ∅

/-- A route that stays when the macvlan is made anew. -/
def macSpares (route : Route) : Bool :=
  route.dev ≠ macName slot && !(ethernet && hasLanGw group lanIp && route.sameKey (lanDefault group slot)) &&
    !(ethernet && route.sameKey (lanRoute group slot))

variable {group ethernet slot lanIp} {host : Host}

def Host.registerSlot (host : Host) (slot : Nat) : Host :=
  host.register (decimal slot ++ [' ']) (decimal slot ++ " deeporc-".toList ++ decimal slot)

theorem linkDel_gone (host : Host) (name : Name) : (host.linkDel name).links name = none := Function.update_self ..

theorem onEthernet_linkDel {name parent : Name} (foreign : parent ≠ name) :
    (host.linkDel name).onEthernet parent = host.onEthernet parent := by
  unfold Host.onEthernet Host.linkDel
  simp only [Function.update_of_ne foreign]

theorem mac_run : execute host (macCommands group slot lanIp) =
    ((((((host.linkDel (macName slot)).linkAddMacvlan (macName slot) group.parent).addrAdd (macName slot)
      (lanAddress group lanIp)).linkSetUp (macName slot)).registerSlot slot).routeReplace
        (lanDefault group slot)).routeReplace (lanRoute group slot) := by
  unfold execute Lib.Commands.execute macCommands Host.registerSlot
  simp only [List.foldl_cons, List.foldl_nil, Command.run]

theorem mac_run_false (foreign : group.parent ≠ macName slot) (parent : host.onEthernet group.parent = false) :
    execute host (macCommands group slot lanIp) = (host.linkDel (macName slot)).registerSlot slot := by
  have gone := linkDel_gone host (macName slot)
  have still : (host.linkDel (macName slot)).onEthernet group.parent = _ := (onEthernet_linkDel foreign).trans parent
  have refused : (host.linkDel (macName slot)).linkAddMacvlan (macName slot) group.parent = host.linkDel (macName slot) := by
    simp [Host.linkAddMacvlan, still]
  have addressless : (host.linkDel (macName slot)).addrAdd (macName slot) (lanAddress group lanIp) =
      host.linkDel (macName slot) := by
    simp [Host.addrAdd, gone]
  have down : (host.linkDel (macName slot)).linkSetUp (macName slot) = host.linkDel (macName slot) := by
    simp [Host.linkSetUp, gone]
  have gone' : ((host.linkDel (macName slot)).registerSlot slot).links (macName slot) = none := by
    rw [Host.registerSlot, links_register, gone]
  have default_ : ((host.linkDel (macName slot)).registerSlot slot).routeReplace (lanDefault group slot) =
      (host.linkDel (macName slot)).registerSlot slot := routeReplace_of_none gone'
  have lan : ((host.linkDel (macName slot)).registerSlot slot).routeReplace (lanRoute group slot) =
      (host.linkDel (macName slot)).registerSlot slot := routeReplace_of_none gone'
  rw [mac_run, refused, addressless, down, default_, lan]

theorem mac_run_true (foreign : group.parent ≠ macName slot) (parent : host.onEthernet group.parent = true) :
    execute host (macCommands group slot lanIp) =
      (((((host.linkDel (macName slot)).setLink (macName slot)
        ⟨.macvlan group.parent, [lanAddress group lanIp], true, none⟩).connect (macName slot)
          (lanAddress group lanIp)).registerSlot slot).routeReplace (lanDefault group slot)).routeReplace
            (lanRoute group slot) := by
  have gone := linkDel_gone host (macName slot)
  have still : (host.linkDel (macName slot)).onEthernet group.parent = _ := (onEthernet_linkDel foreign).trans parent
  have made : (host.linkDel (macName slot)).linkAddMacvlan (macName slot) group.parent =
      (host.linkDel (macName slot)).setLink (macName slot) ⟨.macvlan group.parent, [], false, none⟩ := by
    simp [Host.linkAddMacvlan, gone, still]
  have down : ∀ addresses, ((host.linkDel (macName slot)).setLink (macName slot)
      ⟨.macvlan group.parent, addresses, false, none⟩).links (macName slot) =
        some ⟨.macvlan group.parent, addresses, false, none⟩ := fun addresses => Function.update_self ..
  rw [mac_run, made, addrAdd_of_down (down []), Host.setLink_setLink, linkSetUp_of_down (down [_]), Host.setLink_setLink]

theorem rest_mac_run (foreign : group.parent ≠ macName slot) :
    (execute host (macCommands group slot lanIp)).rest = (host.registerSlot slot).rest := by
  cases parent : host.onEthernet group.parent with
  | false =>
      rw [mac_run_false foreign parent]
      exact rest_register rest_linkDel
  | true =>
      rw [mac_run_true foreign parent, rest_routeReplace, rest_routeReplace]
      apply rest_register
      rw [rest_connect, rest_setLink, rest_linkDel]

theorem links_mac_run (foreign : group.parent ≠ macName slot) (parent : host.onEthernet group.parent = ethernet) :
    (execute host (macCommands group slot lanIp)).links =
      Function.update host.links (macName slot) (macLink group ethernet lanIp) := by
  cases ethernet with
  | false =>
      rw [mac_run_false foreign parent, Host.registerSlot, links_register]
      rfl
  | true =>
      rw [mac_run_true foreign parent, links_routeReplace, links_routeReplace, Host.registerSlot, links_register,
        links_connect]
      exact Function.update_idem ..

theorem routes_mac_run (foreign : group.parent ≠ macName slot) (parent : host.onEthernet group.parent = ethernet) :
    (execute host (macCommands group slot lanIp)).routes =
      host.routes.filter (fun route => macSpares group ethernet slot lanIp route) ∪
        macRoutes group ethernet slot lanIp := by
  cases ethernet with
  | false =>
      rw [mac_run_false foreign parent, Host.registerSlot, routes_register]
      simp [macRoutes, macSpares, Host.linkDel]
  | true =>
      rw [mac_run_true foreign parent]
      generalize made : (((host.linkDel (macName slot)).setLink (macName slot)
        ⟨.macvlan group.parent, [lanAddress group lanIp], true, none⟩).connect (macName slot)
          (lanAddress group lanIp)).registerSlot slot = up
      have link : up.links (macName slot) = some ⟨.macvlan group.parent, [lanAddress group lanIp], true, none⟩ := by
        rw [← made, Host.registerSlot, links_register, links_connect]
        exact Function.update_self ..
      have routes : up.routes = host.routes.filter (fun route => route.dev ≠ macName slot) ∪
          connectedRoutes (macName slot) (lanAddress group lanIp) := by
        rw [← made, Host.registerSlot, routes_register, routes_connect]
        · rfl
        · have there := Function.update_self (macName slot) (some (Link.mk (.macvlan group.parent)
            [lanAddress group lanIp] true none)) (host.linkDel (macName slot)).links
          exact congrArg Option.isSome there
      have first : up.routable (lanDefault group slot) = hasLanGw group lanIp := by
        rw [routable_of_up link]
        rfl
      have second : (up.routeReplace (lanDefault group slot)).routable (lanRoute group slot) = true := by
        rw [routable_of_up ((congrFun links_routeReplace _).trans link)]
        rfl
      rw [routes_routeReplace, if_pos second, routes_routeReplace, first, routes]
      cases reachable : hasLanGw group lanIp with
      | false =>
          simp only [Bool.false_eq_true, if_false, if_true, replaced_union, macRoutes, reachable, Finset.filter_filter]
          congr 1
          apply Finset.filter_congr
          intro route _
          simp [macSpares, reachable]
      | true =>
          simp only [if_true, replaced_union, macRoutes, reachable, Finset.filter_filter]
          congr 1
          apply Finset.filter_congr
          intro route _
          simp [macSpares, reachable, and_assoc]

end Mac

/-! ### WireGuard -/

/-- The links and the routes with the configuration brought down and up again. -/
inductive WgRun (wgIf : Name) (config : WgConfig) (links : Name → Option Link) (routes : Finset Route) :
    (Name → Option Link) → Finset Route → Prop where
  /-- There is a link of another kind. -/
  | taken (link : Link) (there : links wgIf = some link) (other : link.kind ≠ .wireguard) :
      WgRun wgIf config links routes
        (Function.update links wgIf (some { link with mtu := some backhaulWgMtu })) routes
  | blocked (route : Route) (member : route ∈ routes) (elsewhere : route.dev ≠ wgIf)
      (blocking : blocks config.allowedIps route = true) (own : ∀ link, links wgIf = some link → link.kind = .wireguard) :
      WgRun wgIf config links routes (Function.update links wgIf none) (routes.filter fun route => route.dev ≠ wgIf)
  | up (free : ∀ route ∈ routes, route.dev ≠ wgIf → blocks config.allowedIps route = false)
      (own : ∀ link, links wgIf = some link → link.kind = .wireguard) :
      WgRun wgIf config links routes (Function.update links wgIf (some (wgLink config)))
        (insert (wgRoute wgIf config) (routes.filter fun route => route.dev ≠ wgIf))

section Wg

variable {host : Host} {wgIf : Name} {config : WgConfig}

def Host.writeConfig (host : Host) (wgIf : Name) (config : WgConfig) : Host :=
  { host with configs := Function.update host.configs wgIf (some config) }

def Host.wgRestart (host : Host) (wgIf : Name) (config : WgConfig) : Host :=
  (((host.writeConfig wgIf config).wgQuickDown wgIf).wgQuickUp wgIf).linkSetMtu wgIf backhaulWgMtu

theorem filter_dev_of_none (gone : host.links wgIf = none) :
    host.routes.filter (fun route => route.dev ≠ wgIf) = host.routes := by
  apply Finset.filter_true_of_mem
  intro route member same
  have stands := host.standing route member
  rw [same, gone] at stands
  cases stands

/-- Down, there is no link of the name unless it is of another kind. -/
theorem wgQuickDown_own (listed : (host.configs wgIf).isSome = true)
    (own : ∀ link, host.links wgIf = some link → link.kind = .wireguard) : host.wgQuickDown wgIf = host.linkDel wgIf := by
  unfold Host.wgQuickDown
  cases there : host.links wgIf with
  | none =>
      simp only [isWireguard, Option.any_none, Bool.and_false, Bool.false_eq_true, if_false]
      refine Host.ext ?_ ?_ rfl rfl rfl rfl rfl
      · exact (Function.update_eq_self_iff.mpr there.symm).symm
      · exact (filter_dev_of_none there).symm
  | some link => simp [isWireguard, listed, own link there]

theorem wgQuickDown_other {link : Link} (there : host.links wgIf = some link) (other : link.kind ≠ .wireguard) :
    host.wgQuickDown wgIf = host := by
  simp [Host.wgQuickDown, isWireguard, there, other]

theorem wgQuickUp_blocked (gone : host.links wgIf = none) (listed : host.configs wgIf = some config)
    (blocked : ∃ route ∈ host.routes, blocks config.allowedIps route = true) : host.wgQuickUp wgIf = host := by
  simp [Host.wgQuickUp, listed, gone, blocked]

theorem wgQuickUp_free (gone : host.links wgIf = none) (listed : host.configs wgIf = some config)
    (free : ¬ ∃ route ∈ host.routes, blocks config.allowedIps route = true) :
    host.wgQuickUp wgIf = (host.setLink wgIf (wgLink config)).addRoute (wgRoute wgIf config) := by
  simp only [Host.wgQuickUp, listed, gone, Option.isSome_none, Bool.false_eq_true, if_false, if_neg free]

theorem wgQuickUp_taken (there : (host.links wgIf).isSome = true) : host.wgQuickUp wgIf = host := by
  unfold Host.wgQuickUp
  cases host.configs wgIf with
  | none => rfl
  | some config => simp [there]

theorem linkSetMtu_some {link : Link} (there : host.links wgIf = some link) (mtu : Nat) :
    host.linkSetMtu wgIf mtu = host.setLink wgIf { link with mtu := some mtu } := by
  simp [Host.linkSetMtu, there]

theorem linkSetMtu_none (gone : host.links wgIf = none) (mtu : Nat) : host.linkSetMtu wgIf mtu = host := by
  simp [Host.linkSetMtu, gone]

theorem wgRestart_run : WgRun wgIf config host.links host.routes (host.wgRestart wgIf config).links
      (host.wgRestart wgIf config).routes ∧
    (host.wgRestart wgIf config).rest = (host.writeConfig wgIf config).rest := by
  have listed : (host.writeConfig wgIf config).configs wgIf = some config := Function.update_self ..
  by_cases own : ∀ link, host.links wgIf = some link → link.kind = .wireguard
  · have some_ := congrArg Option.isSome listed
    have down : (host.writeConfig wgIf config).wgQuickDown wgIf = _ := wgQuickDown_own some_ own
    have gone := linkDel_gone (host.writeConfig wgIf config) wgIf
    have listed' : ((host.writeConfig wgIf config).linkDel wgIf).configs wgIf = some config := listed
    rw [Host.wgRestart, down]
    by_cases blocked : ∃ route ∈ ((host.writeConfig wgIf config).linkDel wgIf).routes,
        blocks config.allowedIps route = true
    · rw [wgQuickUp_blocked gone listed' blocked, linkSetMtu_none gone]
      obtain ⟨route, member, blocking⟩ := blocked
      obtain ⟨member, elsewhere⟩ := Finset.mem_filter.mp member
      exact ⟨.blocked route member elsewhere blocking own, rfl⟩
    · rw [wgQuickUp_free gone listed' blocked]
      generalize downed : (host.writeConfig wgIf config).linkDel wgIf = before at gone blocked
      have there : (before.setLink wgIf (wgLink config)).links wgIf = some (wgLink config) := Function.update_self ..
      have there' : ((before.setLink wgIf (wgLink config)).addRoute (wgRoute wgIf config)).links wgIf =
          some (wgLink config) := (congrFun links_addRoute wgIf).trans there
      have links : before.links = Function.update host.links wgIf none := by
        rw [← downed]
        rfl
      have routes : before.routes = host.routes.filter fun route => route.dev ≠ wgIf := by
        rw [← downed]
        rfl
      rw [linkSetMtu_some there']
      constructor
      · have links' : Function.update ((before.setLink wgIf (wgLink config)).addRoute (wgRoute wgIf config)).links wgIf
            (some (wgLink config)) = Function.update host.links wgIf (some (wgLink config)) := by
          rw [links_addRoute]
          change Function.update (Function.update before.links wgIf _) wgIf _ = _
          rw [Function.update_idem, links, Function.update_idem]
        have routes' : ((before.setLink wgIf (wgLink config)).addRoute (wgRoute wgIf config)).routes =
            insert (wgRoute wgIf config) (host.routes.filter fun route => route.dev ≠ wgIf) := by
          rw [routes_addRoute (congrArg Option.isSome there), ← routes]
          rfl
        change WgRun wgIf config host.links host.routes (Function.update _ wgIf (some (wgLink config))) _
        rw [links']
        change WgRun wgIf config host.links host.routes _
          ((before.setLink wgIf (wgLink config)).addRoute (wgRoute wgIf config)).routes
        rw [routes']
        refine .up (fun route member elsewhere => ?_) own
        by_contra blocking
        refine blocked ⟨route, ?_, by simpa using blocking⟩
        rw [routes]
        exact Finset.mem_filter.mpr ⟨member, elsewhere⟩
      · rw [rest_setLink, rest_addRoute, rest_setLink, ← downed]
        rfl
  · push Not at own
    obtain ⟨link, there, other⟩ := own
    have there' : (host.writeConfig wgIf config).links wgIf = some link := there
    rw [Host.wgRestart, wgQuickDown_other there' other, wgQuickUp_taken (by rw [there']; rfl), linkSetMtu_some there']
    exact ⟨.taken link there other, rfl⟩

end Wg

/-! ### All of it for one gateway -/

/-- What the setup script uses of a gateway that has an address and a slot; `config` if its WireGuard is set up. -/
structure Seat where
  slot : Nat
  lanIp : Nat
  wgIf : Name
  config : Option WgConfig

namespace Seat

abbrev mac (seat : Seat) : Name := macName seat.slot

def commands (group : PeerGroup) (seat : Seat) : List Command :=
  macCommands group seat.slot seat.lanIp ++ ruleCommands seat.slot seat.lanIp seat.wgIf ++
    (match seat.config with
      | some config => wgCommands seat.slot seat.wgIf config
      | none => [])

def policy (seat : Seat) (policy : Policy Name) : Policy Name :=
  let policy := (addNew (policy.delete (isFrom seat.lanIp seat.slot)) (fromRule seat.slot seat.lanIp)).delete
    (isIif seat.wgIf seat.slot)
  if seat.config.isSome then addNew policy (iifRule seat.slot seat.wgIf) else policy

def forward (seat : Seat) (chain : List (List Text)) : List (List Text) :=
  if seat.config.isSome then ensure (ensure chain (forwardOut seat.wgIf seat.mac)) (forwardBack seat.wgIf seat.mac)
  else chain

def postrouting (seat : Seat) (chain : List (List Text)) : List (List Text) :=
  if seat.config.isSome then ensure chain (masquerade seat.mac) else chain

def configs (seat : Seat) (configs : Name → Option WgConfig) : Name → Option WgConfig :=
  match seat.config with
  | some config => Function.update configs seat.wgIf (some config)
  | none => configs

def Wireguard (seat : Seat) (links : Name → Option Link) (routes : Finset Route) (links' : Name → Option Link)
    (routes' : Finset Route) : Prop :=
  match seat.config with
  | some config => WgRun seat.wgIf config links routes links' routes'
  | none => links' = links ∧ routes' = routes

end Seat

def Gateway.seat (gateway : Gateway) : Option Seat :=
  match gateway.lanIp, gateway.macvlanSlot with
  | some lanIp, some slot => some ⟨slot, lanIp, wgInterfaceName gateway.name, gateway.wgConfig⟩
  | _, _ => none

theorem flatMap_setupBlock (group : PeerGroup) (gateways : List Gateway) :
    gateways.flatMap (setupBlock group) = (gateways.filterMap Gateway.seat).flatMap (Seat.commands group) := by
  refine flatMap_filterMap (fun gateway => ?_) gateways
  unfold setupBlock Gateway.seat
  cases gateway.lanIp with
  | none => rfl
  | some lanIp =>
      cases gateway.macvlanSlot with
      | none => rfl
      | some slot => rfl

/-- What a host is like after the commands for one gateway. -/
structure Ran (group : PeerGroup) (ethernet : Bool) (seat : Seat) (host after : Host) : Prop where
  net : seat.Wireguard (Function.update host.links seat.mac (macLink group ethernet seat.lanIp))
    (host.routes.filter (fun route => macSpares group ethernet seat.slot seat.lanIp route) ∪
      macRoutes group ethernet seat.slot seat.lanIp) after.links after.routes
  policy : after.policy = seat.policy host.policy
  forward : after.forward = seat.forward host.forward
  postrouting : after.postrouting = seat.postrouting host.postrouting
  configs : after.configs = seat.configs host.configs
  rtTables : after.rtTables = (host.registerSlot seat.slot).rtTables

theorem ran {group : PeerGroup} {ethernet : Bool} {seat : Seat} {host : Host} (foreign : group.parent ≠ seat.mac)
    (parent : host.onEthernet group.parent = ethernet) :
    Ran group ethernet seat host (execute host (seat.commands group)) := by
  have links : (execute host (macCommands group seat.slot seat.lanIp)).links = _ := links_mac_run foreign parent
  have routes : (execute host (macCommands group seat.slot seat.lanIp)).routes = _ := routes_mac_run foreign parent
  have rest : (execute host (macCommands group seat.slot seat.lanIp)).rest = _ := rest_mac_run foreign
  have untouched : (host.registerSlot seat.slot).rest =
      (host.policy, host.forward, host.postrouting, host.configs, (host.registerSlot seat.slot).rtTables) := by
    unfold Host.registerSlot Host.register
    split <;> rfl
  rw [untouched] at rest
  simp only [Host.rest, Prod.mk.injEq] at rest
  obtain ⟨policy, forward, postrouting, configs, rtTables⟩ := rest
  generalize made : execute host (macCommands group seat.slot seat.lanIp) = after at *
  have unfolded : execute host (seat.commands group) = execute (execute after
      (ruleCommands seat.slot seat.lanIp seat.wgIf)) (match seat.config with
        | some config => wgCommands seat.slot seat.wgIf config
        | none => []) := by
    rw [← made]
    unfold Seat.commands execute
    rw [execute_append, execute_append]
  rw [unfolded]
  cases config : seat.config with
  | none =>
      refine ⟨?_, ?_, ?_, ?_, ?_, rtTables⟩
      · unfold Seat.Wireguard
        rw [config]
        exact ⟨links, routes⟩
      · unfold Seat.policy
        rw [config, ← policy]
        rfl
      · unfold Seat.forward
        rw [config, ← forward]
        rfl
      · unfold Seat.postrouting
        rw [config, ← postrouting]
        rfl
      · unfold Seat.configs
        rw [config, ← configs]
        rfl
  | some config' =>
      generalize ruled : execute after (ruleCommands seat.slot seat.lanIp seat.wgIf) = before
      have run : WgRun seat.wgIf config' before.links before.routes (before.wgRestart seat.wgIf config').links _ ∧ _ :=
        wgRestart_run
      obtain ⟨net, rest⟩ := run
      simp only [Host.rest, Host.writeConfig, Prod.mk.injEq] at rest
      obtain ⟨policy', forward', postrouting', configs', rtTables'⟩ := rest
      have unfolded' : execute before (wgCommands seat.slot seat.wgIf config') =
          { before.wgRestart seat.wgIf config' with
            policy := addNew (before.wgRestart seat.wgIf config').policy (iifRule seat.slot seat.wgIf)
            forward := ensure (ensure (before.wgRestart seat.wgIf config').forward (forwardOut seat.wgIf seat.mac))
              (forwardBack seat.wgIf seat.mac)
            postrouting := ensure (before.wgRestart seat.wgIf config').postrouting (masquerade seat.mac) } := rfl
      rw [unfolded']
      subst ruled
      refine ⟨?_, ?_, ?_, ?_, ?_, rtTables'.trans rtTables⟩
      · unfold Seat.Wireguard
        rw [config, ← links, ← routes]
        exact net
      · unfold Seat.policy
        rw [config, policy', ← policy]
        rfl
      · unfold Seat.forward
        rw [config, forward', ← forward]
        rfl
      · unfold Seat.postrouting
        rw [config, postrouting', ← postrouting]
        rfl
      · unfold Seat.configs
        rw [config, configs', ← configs]
        rfl

end DeepOrc.HostSetup

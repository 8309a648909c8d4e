import DeepOrc.Lib.Commands
import DeepOrc.Lib.PolicyRouting
import DeepOrc.Models
import Mathlib.Data.Finset.Basic

/-!
# The setup script of an exit host and its teardown

For each gateway of a group the host has a macvlan with a routing table of its own, and, once the gateway is ready, a
WireGuard link. What is between parentheses in the script goes on after a failed command.
-/

namespace DeepOrc.HostSetup

open Lib.Ipv4 (Network)
open Lib.PolicyRouting (Policy Rule Selector Action)
open Models (GatewayStatus)

abbrev Text := List Char

abbrev Name := List Char

/-! ### The host -/

inductive LinkKind where
  | macvlan (parent : Name)
  | wireguard
  /-- Any other link; a macvlan can stand on one that is Ethernet. -/
  | other (ethernet : Bool)
deriving DecidableEq

structure Link where
  kind : LinkKind
  addresses : List Network
  up : Bool
  mtu : Option Nat
deriving DecidableEq

structure Route where
  table : Nat
  destination : Network
  metric : Nat
  dev : Name
  gateway : Option Nat
deriving DecidableEq

/-- What `export_config` puts into a configuration file: the keys, the endpoint and the DNS server stand in `rest`. -/
structure WgConfig where
  address : Nat
  allowedIps : Network
  rest : Text
deriving DecidableEq

/-- A file in WG_CONF_DIR is listed by the interface it is for; iptables rules are the words after `-A`. -/
@[ext]
structure Host where
  links : Name → Option Link
  routes : Finset Route
  policy : Policy Name
  forward : List (List Text)
  postrouting : List (List Text)
  configs : Name → Option WgConfig
  rtTables : List Text
  standing : ∀ route ∈ routes, (links route.dev).isSome = true

/-! ### Commands -/

def mainTable : Nat := 254

def Link.ethernet (link : Link) : Bool :=
  match link.kind with
  | .macvlan _ => true
  | .wireguard => false
  | .other ethernet => ethernet

/-- The network of an address as the kernel keeps it. -/
def base (network : Network) : Network := ⟨network.first, network.bits⟩

def Host.setLink (host : Host) (name : Name) (link : Link) : Host where
  __ := host
  links := Function.update host.links name (some link)
  standing := by
    intro route member
    have stands := host.standing route member
    rw [Function.update_apply]
    split
    · rfl
    · exact stands

/-- Routes through a link go with it. -/
def Host.linkDel (host : Host) (name : Name) : Host where
  __ := host
  links := Function.update host.links name none
  routes := host.routes.filter fun route => route.dev ≠ name
  standing := by
    intro route member
    obtain ⟨member, elsewhere⟩ := Finset.mem_filter.mp member
    rw [Function.update_of_ne elsewhere]
    exact host.standing route member

def Host.onEthernet (host : Host) (parent : Name) : Bool := (host.links parent).any Link.ethernet

def Host.linkAddMacvlan (host : Host) (name parent : Name) : Host :=
  if (host.links name).isNone && host.onEthernet parent then
    host.setLink name ⟨.macvlan parent, [], false, none⟩
  else host

def Host.addRoute (host : Host) (route : Route) : Host :=
  if stands : (host.links route.dev).isSome = true then
    { host with
      routes := insert route host.routes
      standing := by
        intro other member
        rcases Finset.mem_insert.mp member with rfl | member
        · exact stands
        · exact host.standing other member }
  else host

/-- There is no network around a single address. -/
def Host.connect (host : Host) (name : Name) (address : Network) : Host :=
  if address.bits < 32 then host.addRoute ⟨mainTable, base address, 0, name, none⟩ else host

/-- A link that is up is connected to the network of its new address at once. -/
def Host.addrAdd (host : Host) (name : Name) (address : Network) : Host :=
  match host.links name with
  | none => host
  | some link =>
      if address ∈ link.addresses then host
      else
        let host := host.setLink name { link with addresses := link.addresses ++ [address] }
        if link.up then host.connect name address else host

def Host.linkSetUp (host : Host) (name : Name) : Host :=
  match host.links name with
  | none => host
  | some link =>
      if link.up then host
      else link.addresses.foldl (fun host address => host.connect name address) (host.setLink name { link with up := true })

def Host.linkSetMtu (host : Host) (name : Name) (mtu : Nat) : Host :=
  match host.links name with
  | none => host
  | some link => host.setLink name { link with mtu := some mtu }

def Route.sameKey (one other : Route) : Bool :=
  one.table = other.table && one.destination = other.destination && one.metric = other.metric

/-- The link has to be up, and a gateway in one of its networks. -/
def Host.routable (host : Host) (route : Route) : Bool :=
  (host.links route.dev).any fun link =>
    link.up && route.gateway.all fun gateway => link.addresses.any fun address => address.contains gateway

def replaced (routes : Finset Route) (route : Route) : Finset Route :=
  insert route (routes.filter fun other => !other.sameKey route)

theorem Host.isSome_of_routable {host : Host} {route : Route} (routable : host.routable route = true) :
    (host.links route.dev).isSome = true := by
  unfold Host.routable at routable
  cases link : host.links route.dev with
  | none =>
      rw [link] at routable
      cases routable
  | some link => rfl

def Host.routeReplace (host : Host) (route : Route) : Host :=
  if routable : host.routable route = true then
    { host with
      routes := replaced host.routes route
      standing := by
        intro other member
        rcases Finset.mem_insert.mp member with rfl | member
        · exact Host.isSome_of_routable routable
        · exact host.standing other (Finset.mem_filter.mp member).1 }
  else host

def Host.routeFlush (host : Host) (table : Nat) : Host where
  __ := host
  routes := host.routes.filter fun route => route.table ≠ table
  standing := fun route member => host.standing route (Finset.mem_filter.mp member).1

/-- `grep -q "^…" … || echo …` -/
def Host.register (host : Host) (start line : Text) : Host :=
  if host.rtTables.any start.isPrefixOf then host else { host with rtTables := host.rtTables ++ [line] }

/-- A rule for table, as `ip rule del` finds it. -/
def sentTo (table : Nat) (rule : Rule Name) : Bool :=
  match rule.action with
  | .lookup other _ => other = table
  | .refuse => false

def isFrom (ip table : Nat) (rule : Rule Name) : Bool := rule.selector.source = some ⟨ip, 32⟩ && sentTo table rule

def isIif (name : Name) (table : Nat) (rule : Rule Name) : Bool := rule.selector.iif = some name && sentTo table rule

/-- The same rule twice is refused. -/
def addNew (policy : Policy Name) (rule : Rule Name) : Policy Name :=
  if rule ∈ policy.rules then policy else policy.add rule

def isWireguard (link : Option Link) : Bool := link.any fun link => link.kind = .wireguard

def Host.wgQuickDown (host : Host) (name : Name) : Host :=
  if (host.configs name).isSome && isWireguard (host.links name) then host.linkDel name else host

def blocks (destination : Network) (route : Route) : Bool :=
  route.table = mainTable && route.destination = destination && route.metric = 0

def wgRoute (name : Name) (config : WgConfig) : Route := ⟨mainTable, config.allowedIps, 0, name, none⟩

/-- The MTU in the configuration. -/
def backhaulWgMtu : Nat := 1380

def wgLink (config : WgConfig) : Link := ⟨.wireguard, [⟨config.address, 32⟩], true, some backhaulWgMtu⟩

/-- `ip route add` fails where main has the destination already; the link is deleted again then. -/
def Host.wgQuickUp (host : Host) (name : Name) : Host :=
  match host.configs name with
  | none => host
  | some config =>
      if (host.links name).isSome then host
      else if ∃ route ∈ host.routes, blocks config.allowedIps route = true then host
      else (host.setLink name (wgLink config)).addRoute (wgRoute name config)

/-- `iptables -C … || iptables -A …` -/
def ensure (chain : List (List Text)) (rule : List Text) : List (List Text) :=
  if rule ∈ chain then chain else chain ++ [rule]

inductive Command where
  | linkDel (name : Name)
  | linkAddMacvlan (name parent : Name)
  | addrAdd (name : Name) (address : Network)
  | linkSetUp (name : Name)
  | linkSetMtu (name : Name) (mtu : Nat)
  | register (start line : Text)
  | routeReplace (route : Route)
  | routeFlush (table : Nat)
  | ruleDelFrom (ip table : Nat)
  | ruleDelIif (name : Name) (table : Nat)
  | ruleAdd (rule : Rule Name)
  | writeConfig (name : Name) (config : WgConfig)
  | rmConfig (name : Name)
  | wgQuickDown (name : Name)
  | wgQuickUp (name : Name)
  | forwardEnsure (rule : List Text)
  | forwardDelete (rule : List Text)
  | postroutingEnsure (rule : List Text)
  | postroutingDelete (rule : List Text)

def Command.run : Command → Host → Host
  | .linkDel name, host => host.linkDel name
  | .linkAddMacvlan name parent, host => host.linkAddMacvlan name parent
  | .addrAdd name address, host => host.addrAdd name address
  | .linkSetUp name, host => host.linkSetUp name
  | .linkSetMtu name mtu, host => host.linkSetMtu name mtu
  | .register start line, host => host.register start line
  | .routeReplace route, host => host.routeReplace route
  | .routeFlush table, host => host.routeFlush table
  | .ruleDelFrom ip table, host => { host with policy := host.policy.delete (isFrom ip table) }
  | .ruleDelIif name table, host => { host with policy := host.policy.delete (isIif name table) }
  | .ruleAdd rule, host => { host with policy := addNew host.policy rule }
  | .writeConfig name config, host => { host with configs := Function.update host.configs name (some config) }
  | .rmConfig name, host => { host with configs := Function.update host.configs name none }
  | .wgQuickDown name, host => host.wgQuickDown name
  | .wgQuickUp name, host => host.wgQuickUp name
  | .forwardEnsure rule, host => { host with forward := ensure host.forward rule }
  | .forwardDelete rule, host => { host with forward := host.forward.erase rule }
  | .postroutingEnsure rule, host => { host with postrouting := ensure host.postrouting rule }
  | .postroutingDelete rule, host => { host with postrouting := host.postrouting.erase rule }

abbrev execute (host : Host) (commands : List Command) : Host := Lib.Commands.execute Command.run host commands

/-! ### The scripts -/

/-- With the parent link and the LAN gateway that the environment or the group sets. -/
structure PeerGroup where
  parent : Name
  lanGw : Nat
  lanSubnet : Network

/-- A gateway with the configuration of its backhaul peer, if there is a complete one. -/
structure Gateway where
  name : Name
  status : GatewayStatus
  lanIp : Option Nat
  macvlanSlot : Option Nat
  config : Option WgConfig

def wgInterfaceName (gatewayName : Name) : Name := ("wg-".toList ++ gatewayName.filter Char.isAlphanum).take 15

def decimal (n : Nat) : Text := (toString n).toList

def macName (slot : Nat) : Name := "mac_".toList ++ decimal slot

def lookup (table : Nat) : Action := .lookup table none

def fromRule (slot lanIp : Nat) : Rule Name := ⟨32000 + slot, .fromHost lanIp, lookup slot⟩

def iifRule (slot : Nat) (wgIf : Name) : Rule Name := ⟨32500 + slot, .onIif wgIf, lookup slot⟩

def forwardOut (wgIf mac : Name) : List Text := ["-i".toList, wgIf, "-o".toList, mac, "-j".toList, "ACCEPT".toList]

def forwardBack (wgIf mac : Name) : List Text :=
  ["-i".toList, mac, "-o".toList, wgIf, "-m".toList, "state".toList, "--state".toList, "RELATED,ESTABLISHED".toList,
    "-j".toList, "ACCEPT".toList]

def masquerade (mac : Name) : List Text := ["-o".toList, mac, "-j".toList, "MASQUERADE".toList]

def lanAddress (group : PeerGroup) (lanIp : Nat) : Network := ⟨lanIp, group.lanSubnet.bits⟩

def lanDefault (group : PeerGroup) (slot : Nat) : Route := ⟨slot, ⟨0, 0⟩, 0, macName slot, some group.lanGw⟩

def lanRoute (group : PeerGroup) (slot : Nat) : Route := ⟨slot, base group.lanSubnet, 0, macName slot, none⟩

def macCommands (group : PeerGroup) (slot lanIp : Nat) : List Command :=
  let mac := macName slot
  [.linkDel mac, .linkAddMacvlan mac group.parent, .addrAdd mac (lanAddress group lanIp), .linkSetUp mac,
    .register (decimal slot ++ [' ']) (decimal slot ++ " deeporc-".toList ++ decimal slot),
    .routeReplace (lanDefault group slot), .routeReplace (lanRoute group slot)]

def ruleCommands (slot lanIp : Nat) (wgIf : Name) : List Command :=
  [.ruleDelFrom lanIp slot, .ruleAdd (fromRule slot lanIp), .ruleDelIif wgIf slot]

def wgCommands (slot : Nat) (wgIf : Name) (config : WgConfig) : List Command :=
  let mac := macName slot
  [.writeConfig wgIf config, .wgQuickDown wgIf, .wgQuickUp wgIf, .linkSetMtu wgIf backhaulWgMtu,
    .ruleAdd (iifRule slot wgIf), .forwardEnsure (forwardOut wgIf mac), .forwardEnsure (forwardBack wgIf mac),
    .postroutingEnsure (masquerade mac)]

/-- WireGuard is skipped while the gateway is not ready or has no configuration. -/
def Gateway.wgConfig (gateway : Gateway) : Option WgConfig := if gateway.status = .ready then gateway.config else none

def setupBlock (group : PeerGroup) (gateway : Gateway) : List Command :=
  match gateway.lanIp, gateway.macvlanSlot with
  | some lanIp, some slot =>
      let wgIf := wgInterfaceName gateway.name
      macCommands group slot lanIp ++ ruleCommands slot lanIp wgIf ++
        (match gateway.wgConfig with
          | some config => wgCommands slot wgIf config
          | none => [])
  | _, _ => []

def teardownBlock (gateway : Gateway) : List Command :=
  match gateway.macvlanSlot with
  | none => []
  | some slot =>
      let mac := macName slot
      let wgIf := wgInterfaceName gateway.name
      [.wgQuickDown wgIf, .rmConfig wgIf, .postroutingDelete (masquerade mac), .forwardDelete (forwardOut wgIf mac),
        .forwardDelete (forwardBack wgIf mac)] ++
        -- without an address the selector is no network, and the command fails
        (match gateway.lanIp with
          | some lanIp => [.ruleDelFrom lanIp slot]
          | none => []) ++
        [.ruleDelIif wgIf slot, .routeFlush slot, .linkDel mac]

/-- `sysctl` takes a dot in the name of a link for a slash. -/
def Host.canSet (host : Host) (parent : Name) : Bool := (host.links parent).isSome && !parent.contains '.'

/-- Under `set -e` the script ends where the parent cannot be set. -/
def setup (group : PeerGroup) (gateways : List Gateway) (host : Host) : Host :=
  if host.canSet group.parent then
    execute host (.register "200 deeporc".toList "200 deeporc".toList :: gateways.flatMap (setupBlock group))
  else host

def teardown (gateways : List Gateway) (host : Host) : Host := execute host (gateways.flatMap teardownBlock)

end DeepOrc.HostSetup

import DeepOrc.Lib.PolicyEdits
import DeepOrc.Lib.Processes
import DeepOrc.Routing.Script

/-!
# What touches the routes of a gateway, command by command

The daemon applies the routing script every minute, either gateway agent sets up exit routing when it starts and when it
is asked to, and the start script of wg0 makes the link anew. They run at the same time, so each is a process here.
-/

namespace DeepOrc.Routing

open Lib (Process)
open Lib.Ipv4 (Network)
open Lib.PolicyRouting
open Selector (toNetwork fromHost onIif)

namespace Steps

/-! ### `ip` -/

/-- `ip rule del` -/
def ruleDel (wanted : Rule Dev → Bool) : Process Router Bool :=
  .command (fun s => s.policy.rules.any wanted) fun s => { s with policy := s.policy.delete wanted }

/-- `ip rule add`; a rule that is there is not added again. -/
def ruleAdd (rule : Rule Dev) : Process Router Bool :=
  .command (fun s => !s.policy.rules.contains rule) fun s => { s with policy := s.policy.add rule }

def linkOf (s : Router) (dev : Dev) : Option Link :=
  if dev = hostIf then s.eth0 else if dev = uplinkIf then s.wg0 else if dev = tsIf then s.tailscale0 else none

/-- A route without a gateway is taken by a link that is up. -/
def hopWorks (s : Router) : Hop Dev → Bool
  | .via dev _ => isUp (linkOf s dev)
  | _ => true

def routeReplaceIf (works : Router → Bool) (table : Nat) (route : Route Dev) : Process Router Bool :=
  .command works fun s => s.setTable table ((s.tables table).replace route)

def routeReplace (table : Nat) (route : Route Dev) : Process Router Bool :=
  routeReplaceIf (fun s => hopWorks s route.hop) table route

/-- `ip route replace` of a route through a gateway on eth0. -/
def routeVia (takes : Option Link → Nat → Bool) (table gw : Nat) (route : Route Dev) : Process Router Bool :=
  routeReplaceIf (fun s => takes s.eth0 gw) table route

def routeDel (table : Nat) (wanted : Route Dev → Bool) : Process Router Bool :=
  .command (fun s => (s.tables table).routes.any wanted) fun s => s.setTable table ((s.tables table).delete wanted)

def routeFlush (table : Nat) : Process Router Bool := .command (fun _ => true) fun s => s.setTable table .empty

/-- The kernel's routes for an address of a link that is up. -/
def attach (dev : Dev) (s : Router) (network : Network) : Router :=
  let s := s.setTable localTable ((s.tables localTable).offer (hostRoute network.address .here))
  if fits : network.bits ≤ 32 then
    s.setTable mainTable ((s.tables mainTable).offer ⟨network, 0, .via dev none, fits⟩)
  else s

/-! ### `deeporc-routing.sh` -/

section Script

variable (env : Env) (calls : Calls)

def ruleScrub (rounds : Nat) (wanted : Rule Dev → Bool) : Process Router Bool := .repeated rounds (ruleDel wanted)

def cleanupStale (rounds : Nat) : List (Process Router Bool) :=
  (stalePrefs.map fun pref => ruleScrub rounds fun rule => rule.pref = pref) ++
    [ruleScrub rounds fun rule => rule.selector.iif = some tsIf && looksUp staleTable rule.action,
      (Process.read tsIp).bind fun ts => ts.elim (.done true) fun ip =>
        ruleScrub rounds fun rule => rule.selector.source = some ⟨ip, 32⟩ && looksUp mainTable rule.action,
      (routeFlush staleTable).anyway]

/-- `ip link set eth0 up` -/
def hostUp : Process Router Bool :=
  .command (fun s => s.eth0.isSome) fun s =>
    { (if isUp s.eth0 then s else ((s.eth0.map Link.networks).getD []).foldl connect s) with
      eth0 := s.eth0.map fun link => ⟨true, link.networks⟩ }

/-- `ip addr add`; a link that is down has no route to the network of its address. -/
def addrAdd : Process Router Bool :=
  .command (fun s => s.eth0.any fun link => !link.networks.contains (vmNetwork env)) fun s =>
    { (if isUp s.eth0 then connect s (vmNetwork env) else s) with
      eth0 := s.eth0.map fun link => ⟨link.up, link.networks ++ [vmNetwork env]⟩ }

def applyHostLink : List (Process Router Bool) :=
  [hostUp.anyway,
    (Process.read fun s => s.eth0.any (showsVmIp env)).bind fun shown => if shown then .done true else (addrAdd env).anyway]

def applyWgPeer : Process Router Bool :=
  (Process.read fun s => s.wg0.isSome).bind fun there => .done (!there || calls.wgSet)

/-- The first `ip route show` of `_wan_gw`, and the rest of it. -/
def hostGw (tables : Nat → RoutingTable Dev) : Option (Option Nat) :=
  (((tables mainTable).filter fun route => route.destination.bits = 0 && hopDev route.hop = some hostIf).best 0).map
    fun route => hopGateway route.hop

def tableGw (tables : Nat → RoutingTable Dev) : Option (Option Nat) :=
  ((((tables wanTable).filter fun route => route.destination.bits = 0 && (hopGateway route.hop).isSome).best 0).map
    fun route => hopGateway route.hop).or (if env.vmIp / 65536 = 2570 then some (some 168427521) else none)

def wanGw : Process Router (Option (Option Nat)) :=
  (Process.read fun s => hostGw s.tables).bind fun printed =>
    printed.elim (Process.read fun s => tableGw env s.tables) fun gw => .done (some gw)

/-- What `_wan_gw` prints need not be an address. -/
def throughGw (gw : Option Nat) (route : Nat → Route Dev) : Process Router Bool :=
  gw.elim (.done false) fun gw => routeVia calls.takesGateway wanTable gw (route gw)

def tailnetReplace (table : Nat) : List (Process Router Bool) :=
  [(routeReplace table tailnetRoute).anyway, (routeReplace table (hostRoute magicDns (.via tsIf none))).anyway]

def applyWanTable (strict : Bool) : Process Router Bool :=
  (wanGw env).bind fun printed => printed.elim (.done true) fun gw =>
    .inOrder strict (throughGw calls gw (fun gw => defaultRoute (.via hostIf (some gw))) ::
      (tailnetReplace wanTable ++
        (pinned env calls).map fun ip => (throughGw calls gw fun gw => hostRoute ip (.via hostIf (some gw))).anyway))

def stripWgPollution : Process Router Bool :=
  (Process.read fun s => (s.tables mainTable).routes.filter (polluting env)).bind fun lines =>
    .inOrder false (lines.map fun line =>
      routeDel mainTable fun route => route.destination = line.destination && hopDev route.hop = some uplinkIf)

def applyMainTable (strict : Bool) : Process Router Bool :=
  (Process.read fun s => s.wg0.isSome).bind fun there =>
    if there then
      .inOrder strict (stripWgPollution env :: routeReplace mainTable (defaultRoute (.via uplinkIf none)) ::
        (routeReplace mainTable (subnetRoute env (.via uplinkIf none))).anyway :: tailnetReplace mainTable)
    else .done true

/-- `policyRules`, with what `_ts_ip` printed. -/
def rulesFor (ts : Option Nat) : List (Rule Dev) :=
  [⟨35, toNetwork env.wgSubnet, lookup mainTable⟩, ⟨40, fromHost env.wgGw, lookup mainTable⟩] ++
    (match ts with
      | some ip => [⟨45, fromHost ip, lookup wanTable⟩]
      | none => []) ++
    [⟨48, toNetwork tailnet, lookup mainTable⟩, ⟨50, fromHost env.vmIp, lookup wanTable⟩,
      ⟨49, onIif tsIf, lookup mainTable⟩, ⟨57, toNetwork ⟨magicDns, 32⟩, lookup mainTable⟩,
      ⟨59, onIif uplinkIf, lookup mainTable⟩]

/-- `_rule_add` -/
def ruleReplace (rounds : Nat) (rule : Rule Dev) : Process Router Bool :=
  (ruleScrub rounds fun other => other.pref = rule.pref).bind fun _ => ruleAdd rule

def applyPolicyRules (rounds : Nat) (strict : Bool) : Process Router Bool :=
  (Process.read tsIp).bind fun ts => .inOrder strict ((rulesFor env ts).map (ruleReplace rounds))

/-- `apply`, under `set -e` unless it is the loop of the script itself that calls it. -/
def apply (rounds : Nat) (strict : Bool) : Process Router Bool :=
  .inOrder strict (cleanupStale rounds ++ applyHostLink env ++
    [applyWgPeer calls, applyWanTable env calls strict, applyMainTable env strict, applyPolicyRules env rounds strict])

/-- `stop_rules` -/
def stopRules (rounds : Nat) : Process Router Bool :=
  .inOrder true (cleanupStale rounds ++
    [35, 40, 45, 48, 50, 49, 57, 59].map fun pref => ruleScrub rounds fun rule => rule.pref = pref)

end Script

/-! ### The gateway agents -/

def sameTable : Action → Action → Bool
  | .lookup table _, .lookup other _ => table = other
  | .refuse, .refuse => true
  | _, _ => false

/-- The rules a deletion with the words of this rule is for. -/
def named (rule other : Rule Dev) : Bool :=
  other.pref = rule.pref && sameTable rule.action other.action &&
    rule.selector.destination.all (fun network => other.selector.destination = some network) &&
      rule.selector.source.all (fun network => other.selector.source = some network) &&
        rule.selector.iif.all fun dev => other.selector.iif = some dev

/-- What an agent reads from the links: of eth0, of wg0, and of tailscale0 if it has an address. -/
structure Detected where
  vmIp : Nat
  wgIp : Nat
  wgSubnet : Network
  tsIp : Option Nat

section Go

/-- `ipRule` -/
def ipRule (rule : Rule Dev) : Process Router Bool := .inOrder false [ruleDel (named rule), ruleAdd rule]

def ruleDelPref (pref : Nat) : Process Router Bool := ruleDel fun rule => rule.pref = pref

def ensureBackhaulPolicyRouting (found : Detected) : Process Router Bool :=
  .inOrder false (
    [ipRule ⟨35, toNetwork found.wgSubnet, lookup mainTable⟩, ipRule ⟨40, fromHost found.wgIp, lookup mainTable⟩,
      ipRule ⟨50, fromHost found.vmIp, lookup mainTable⟩] ++
    found.tsIp.toList.map (fun ip => ipRule ⟨45, fromHost ip, lookup mainTable⟩) ++
    [ruleDelPref 54, ruleDelPref 55, ruleDelPref 60, ipRule ⟨58, onIif tsIf, lookup staleTable⟩,
      routeReplace staleTable (defaultRoute (.via uplinkIf none))])

/-- `restoreExitNodeRouting`, with nothing more to do where no exit node is configured. -/
def restoreExitNodeRouting (configured : Option Detected) : Process Router Bool :=
  .inOrder false ([ruleDelPref 54, ruleDelPref 55, ruleDelPref 60] ++
    configured.toList.map ensureBackhaulPolicyRouting)

end Go

section Python

/-- `_ensure_ip_rule`; a failing `add` raises. -/
def ensureIpRule (rule : Rule Dev) : Process Router Bool := .inOrder true [(ruleDel (named rule)).anyway, ruleAdd rule]

/-- The table of stale peers is number 100, too. -/
def cleanupStalePeerRouting (wgSubnet : Network) : List (Process Router Bool) :=
  [(ruleDelPref 100).anyway,
    (ruleDel fun rule => rule.pref = 100 && rule.selector.iif = some uplinkIf &&
      rule.selector.source = some wgSubnet && looksUp wanTable rule.action).anyway,
    (routeFlush wanTable).anyway]

/-- `_host_default_gw` -/
def hostDefaultGw (s : Router) : Option Nat :=
  (((s.tables mainTable).filter fun route => route.destination.bits = 0 && hopDev route.hop = some hostIf &&
    (hopGateway route.hop).isSome).best 0).bind fun route => hopGateway route.hop

def publicDnsPrefs : List (Nat × Nat) := publicDns.zip [52, 53, 54, 55]

def ensurePublicDnsBypass (takes : Option Link → Nat → Bool) : Process Router Bool :=
  (Process.read hostDefaultGw).bind fun gw => .inOrder true (publicDnsPrefs.flatMap fun resolver =>
    [(routeDel mainTable fun route => route.destination = ⟨resolver.1, 32⟩ && hopDev route.hop = some uplinkIf).anyway] ++
      gw.toList.map (fun gw => (routeVia takes mainTable gw (hostRoute resolver.1 (.via hostIf (some gw)))).anyway) ++
      [ensureIpRule ⟨resolver.2, toNetwork ⟨resolver.1, 32⟩, lookup mainTable⟩])

/-- `_ensure_backhaul_policy_routing`, where the routing script is not there. -/
def ensureBackhaulFallback (takes : Option Link → Nat → Bool) (found : Detected) : Process Router Bool :=
  .inOrder true (
    [ensureIpRule ⟨35, toNetwork found.wgSubnet, lookup mainTable⟩,
      ensureIpRule ⟨40, fromHost found.wgIp, lookup mainTable⟩,
      ensureIpRule ⟨50, fromHost found.vmIp, lookup mainTable⟩] ++
    found.tsIp.toList.map (fun ip => ensureIpRule ⟨45, fromHost ip, lookup mainTable⟩) ++
    [(ruleDelPref 60).anyway, ensurePublicDnsBypass takes, ensureIpRule ⟨48, toNetwork tailnet, lookup mainTable⟩,
      (routeReplace mainTable (hostRoute magicDns (.via tsIf none))).anyway,
      ensureIpRule ⟨57, toNetwork ⟨magicDns, 32⟩, lookup mainTable⟩,
      ensureIpRule ⟨58, onIif tsIf, lookup staleTable⟩, ensureIpRule ⟨59, onIif uplinkIf, lookup mainTable⟩,
      routeReplace staleTable (defaultRoute (.via uplinkIf none)), (routeReplace staleTable tailnetRoute).anyway])

/-- `advertise_exit_node`, up to the routing. -/
def advertiseExitNode (wgSubnet : Network) (forwarding : Process Router Bool) : Process Router Bool :=
  .inOrder true (cleanupStalePeerRouting wgSubnet ++ [forwarding])

/-- `restore_exit_node_routing` -/
def restoreExitNode (forwarding : Option (Process Router Bool)) : Process Router Bool :=
  .inOrder true ((ruleDelPref 60).anyway :: forwarding.toList)

end Python

/-! ### `wg-up.sh` -/

/-- The kernel drops the routes of a link that is deleted, and the addresses. -/
def linkDel : Process Router Bool :=
  .command (fun s => s.wg0.isSome) fun s =>
    { s with
      wg0 := none
      tables := fun table => (s.tables table).filter fun route =>
        hopDev route.hop ≠ some uplinkIf &&
          !(table = localTable && s.wg0.any fun link =>
            link.networks.any fun network => hostRoute network.address .here = route) }

def linkAdd : Process Router Bool :=
  .command (fun s => s.wg0.isNone) fun s => { s with wg0 := some ⟨false, []⟩ }

def wgAddrAdd (address : Network) : Process Router Bool :=
  .command (fun s => s.wg0.any fun link => !link.networks.contains address) fun s =>
    { (if isUp s.wg0 then attach uplinkIf s address else s) with
      wg0 := s.wg0.map fun link => ⟨link.up, link.networks ++ [address]⟩ }

def wgLinkUp : Process Router Bool :=
  .command (fun s => s.wg0.isSome) fun s =>
    { (if isUp s.wg0 then s else ((s.wg0.map Link.networks).getD []).foldl (attach uplinkIf) s) with
      wg0 := s.wg0.map fun link => ⟨true, link.networks⟩ }

/-- `wgSet` is whether WireGuard takes the key and the port. -/
def wgUp (address : Network) (wgSet : Bool) : Process Router Bool :=
  .inOrder true [linkDel.anyway, linkAdd, .done wgSet, wgAddrAdd address, wgLinkUp]

end Steps

end DeepOrc.Routing

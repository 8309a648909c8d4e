import DeepOrc.Lib.PolicyRouting
import Mathlib.Data.List.Infix

/-!
# The routing script of a gateway

`deeporc-routing.sh apply` as far as links, rules and routes go. The script runs under `set -e`: a command that fails
without `|| true` ends it, and what was done stays.
-/

namespace DeepOrc.Routing

open Lib.Ipv4 (Network dotted)
open Lib.PolicyRouting
open Selector (everything toNetwork fromHost onIif)

abbrev Dev := String

def hostIf : Dev := "eth0"

def uplinkIf : Dev := "wg0"

def tsIf : Dev := "tailscale0"

def mainTable : Nat := 254

def localTable : Nat := 255

def wanTable : Nat := 100

/-- The table of an earlier version of the script. -/
def staleTable : Nat := 200

/-- 100.64.0.0/10 -/
def tailnet : Network := ⟨1681915904, 10⟩

/-- 100.100.100.100 -/
def magicDns : Nat := 1684300900

/-- 8.8.8.8 8.8.4.4 1.1.1.1 1.0.0.1 -/
def publicDns : List Nat := [134744072, 134743044, 16843009, 16777217]

def dohHosts : List String := ["cloudflare-dns.com", "dns.google"]

/-- What `exit.env` and `tailscale.env` set; without a Headscale the URL is empty. -/
structure Env where
  wgSubnet : Network
  wgGw : Nat
  vmIp : Nat
  headscaleUrl : String
  fits : wgSubnet.bits ≤ 32

/-- A link with its IPv4 addresses, each with its network. -/
structure Link where
  up : Bool
  networks : List Network
deriving DecidableEq

/-- What comes from outside: the addresses `_host_ipv4` prints for a name, whether `wg set` works, and which gateways
`ip route` takes with eth0 as it is. -/
structure Calls where
  hostIpv4 : String → List Nat
  wgSet : Bool
  takesGateway : Option Link → Nat → Bool

structure Router where
  eth0 : Option Link
  wg0 : Option Link
  tailscale0 : Option Link
  policy : Policy Dev
  tables : Nat → RoutingTable Dev

def Router.setTable (s : Router) (table : Nat) (routes : RoutingTable Dev) : Router :=
  { s with tables := Function.update s.tables table routes }

/-- Where a forwarded packet goes; without a route it is unroutable. -/
def Router.routed (s : Router) (packet : Packet Dev) : Option (Hop Dev) :=
  walk (fun table ip => (s.tables table).best ip) packet s.policy.rules

/-! ### Rules and routes of the script -/

def lookup (table : Nat) : Action := .lookup table none

def hopDev : Hop Dev → Option Dev
  | .via dev _ => some dev
  | _ => none

def hopGateway : Hop Dev → Option Nat
  | .via _ gateway => gateway
  | _ => none

def defaultRoute (hop : Hop Dev) : Route Dev := ⟨⟨0, 0⟩, 0, hop, by decide⟩

def hostRoute (ip : Nat) (hop : Hop Dev) : Route Dev := ⟨⟨ip, 32⟩, 0, hop, Nat.le_refl _⟩

def subnetRoute (env : Env) (hop : Hop Dev) : Route Dev := ⟨env.wgSubnet, 0, hop, env.fits⟩

def tailnetRoute : Route Dev := ⟨tailnet, 0, .via tsIf none, by decide⟩

/-! ### `_cleanup_stale` -/

def tsIp (s : Router) : Option Nat := s.tailscale0.bind fun link => link.networks.head?.map Network.address

def stalePrefs : List Nat := [52, 53, 54, 55, 58, 60, 100]

def ruleScrubPref (policy : Policy Dev) (pref : Nat) : Policy Dev := policy.deleteAll fun rule => rule.pref = pref

def looksUp (table : Nat) : Action → Bool
  | .lookup other _ => other = table
  | .refuse => false

def cleanupStale (s : Router) : Router :=
  let policy := stalePrefs.foldl ruleScrubPref s.policy
  let policy := policy.deleteAll fun rule => rule.selector.iif = some tsIf && looksUp staleTable rule.action
  let policy :=
    match tsIp s with
    | none => policy
    | some ip => policy.deleteAll fun rule => rule.selector.source = some ⟨ip, 32⟩ && looksUp mainTable rule.action
  { s with policy }.setTable staleTable .empty

/-! ### `_apply_host_link` -/

/-- `ip addr show` prints an address of its own with the broadcast address; `grep` finds VM_IP as a part of any. -/
def showsVmIp (env : Env) (link : Link) : Bool :=
  link.networks.any fun network =>
    decide ((dotted env.vmIp).toList <:+: network.text.toList) ||
      decide ((dotted env.vmIp).toList <:+: (dotted network.broadcast).toList)

def vmNetwork (env : Env) : Network := ⟨env.vmIp, 16⟩

def Link.raised (env : Env) (link : Link) : Link :=
  ⟨true, if showsVmIp env link then link.networks else link.networks ++ [vmNetwork env]⟩

/-- The routes the kernel adds for an address of a link that is up. -/
def connect (s : Router) (network : Network) : Router :=
  let s := s.setTable localTable ((s.tables localTable).offer (hostRoute network.address .here))
  if fits : network.bits ≤ 32 then
    s.setTable mainTable ((s.tables mainTable).offer ⟨network, 0, .via hostIf none, fits⟩)
  else s

def applyHostLink (env : Env) (s : Router) : Router :=
  match s.eth0 with
  | none => s
  | some link =>
      let s := if link.up then s else link.networks.foldl connect s
      let s := if showsVmIp env link then s else connect s (vmNetwork env)
      { s with eth0 := some (link.raised env) }

/-! ### `_apply_wg_peer` -/

def applyWgPeer (calls : Calls) (s : Router) : Except Router Router :=
  if s.wg0.isSome && !calls.wgSet then .error s else .ok s

/-! ### `_apply_wan_table` -/

/-- What `_wan_gw` prints: nothing, an address, or the word after `default` of a route without a gateway. -/
def wanGw (env : Env) (tables : Nat → RoutingTable Dev) : Option (Option Nat) :=
  match ((tables mainTable).filter fun route => route.destination.bits = 0 && hopDev route.hop = some hostIf).best 0 with
  | some route => some (hopGateway route.hop)
  | none =>
      match ((tables wanTable).filter fun route => route.destination.bits = 0 && (hopGateway route.hop).isSome).best 0 with
      | some route => some (hopGateway route.hop)
      | none => if env.vmIp / 65536 = 2570 then some (some 168427521) else none

/-- `${HEADSCALE_URL#*://}` -/
def afterScheme (url : List Char) : List Char :=
  match url.tails.find? fun rest => "://".toList.isPrefixOf rest with
  | some rest => rest.drop 3
  | none => url

def headscaleHost (env : Env) : String :=
  String.ofList (((afterScheme env.headscaleUrl.toList).takeWhile (· ≠ '/')).takeWhile (· ≠ ':'))

def headscaleIps (env : Env) (calls : Calls) : List Nat :=
  if env.headscaleUrl = "" then [] else calls.hostIpv4 (headscaleHost env)

/-- The addresses that keep the way through eth0. -/
def pinned (env : Env) (calls : Calls) : List Nat :=
  headscaleIps env calls ++ publicDns ++ dohHosts.flatMap calls.hostIpv4

def isUp (link : Option Link) : Bool := link.any Link.up

/-- The routes to the tailnet, where tailscale0 is up. -/
def tailnetRoutes (s : Router) : List (Route Dev) :=
  if isUp s.tailscale0 then [tailnetRoute, hostRoute magicDns (.via tsIf none)] else []

def wanRoutes (env : Env) (calls : Calls) (s : Router) (gw : Nat) : List (Route Dev) :=
  defaultRoute (.via hostIf (some gw)) ::
    (tailnetRoutes s ++ (pinned env calls).map fun ip => hostRoute ip (.via hostIf (some gw)))

def applyWanTable (env : Env) (calls : Calls) (s : Router) : Except Router Router :=
  match wanGw env s.tables with
  | none => .ok s
  | some gw =>
      match gw.filter (calls.takesGateway s.eth0) with
      | none => .error s
      | some gw =>
          .ok (s.setTable wanTable ((wanRoutes env calls s gw).foldl RoutingTable.replace (s.tables wanTable)))

/-! ### `_apply_main_table` -/

def polluting (env : Env) (route : Route Dev) : Bool :=
  hopDev route.hop = some uplinkIf && route.destination.bits ≠ 0 && route.destination ≠ env.wgSubnet

/-- One `ip route del` for each line of the listing. -/
def stripWgPollution (env : Env) (table : RoutingTable Dev) : RoutingTable Dev :=
  (table.routes.filter (polluting env)).foldl (fun table line =>
    table.delete fun route => route.destination = line.destination && hopDev route.hop = some uplinkIf) table

/-- Without wg0 the table stays as it is; a wg0 that is down takes no route. -/
def applyMainTable (env : Env) (s : Router) : Except Router Router :=
  match s.wg0 with
  | none => .ok s
  | some link =>
      let stripped := stripWgPollution env (s.tables mainTable)
      if link.up then
        .ok (s.setTable mainTable
          ((defaultRoute (.via uplinkIf none) :: subnetRoute env (.via uplinkIf none) :: tailnetRoutes s).foldl
            RoutingTable.replace stripped))
      else .error (s.setTable mainTable stripped)

/-! ### `_apply_policy_rules` -/

def policyRules (env : Env) (s : Router) : List (Rule Dev) :=
  [⟨35, toNetwork env.wgSubnet, lookup mainTable⟩, ⟨40, fromHost env.wgGw, lookup mainTable⟩] ++
    (match tsIp s with
      | some ip => [⟨45, fromHost ip, lookup wanTable⟩]
      | none => []) ++
    [⟨48, toNetwork tailnet, lookup mainTable⟩, ⟨50, fromHost env.vmIp, lookup wanTable⟩,
      ⟨49, onIif tsIf, lookup mainTable⟩, ⟨57, toNetwork ⟨magicDns, 32⟩, lookup mainTable⟩,
      ⟨59, onIif uplinkIf, lookup mainTable⟩]

/-- `_rule_add` for each. -/
def applyPolicyRules (env : Env) (s : Router) : Router :=
  { s with policy := (policyRules env s).foldl Policy.put s.policy }

/-! ### `apply` -/

/-- An error is the state the script stopped in. -/
def applySteps (env : Env) (calls : Calls) (s : Router) : Except Router Router := do
  let s := applyHostLink env (cleanupStale s)
  let s ← applyWgPeer calls s
  let s ← applyWanTable env calls s
  let s ← applyMainTable env s
  return applyPolicyRules env s

def leftBehind : Except Router Router → Router
  | .ok s => s
  | .error s => s

/-- The state after the script, whether it came to its end or not. -/
def apply (env : Env) (calls : Calls) (s : Router) : Router := leftBehind (applySteps env calls s)

end DeepOrc.Routing

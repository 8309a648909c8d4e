import DeepOrc.HostSetup.Script
import DeepOrc.Lan.Groups
import DeepOrc.Lib.Base64
import DeepOrc.Lib.ShellStatus
import DeepOrc.Lib.UrlEncoding

/-!
# The texts of the setup script and the teardown script

The rows of the group and of its gateways are put into shell lines as they are.
-/

namespace DeepOrc.HostSetup

open Lan (Subnet)
open Lib.ShellStatus (AndOr)
open Lib.Text (given)
open Models (GatewayStatus PyError)

/-! ### Rows -/

/-- `network_address/prefixlen` of a subnet with its host bits cleared, and then without a scope. -/
def lanNetworkCidr : Subnet → String
  | .v4 network => (⟨network.first, network.bits⟩ : Lib.Ipv4.Network).text
  | .v6 network scope =>
      (Subnet.v6 ⟨network.first, network.bits⟩ (if network.address = network.first then scope else none)).text

def lanPrefixLen : Subnet → Nat
  | .v4 network => network.bits
  | .v6 network _ => network.bits

/-- `group.lan_gateway or default_lan_gateway(group.lan_subnet)` -/
def lanGw (group : Lan.PeerGroup) : Except PyError String :=
  if group.lanGateway = "" then Lan.defaultLanGateway group.lanSubnet else .ok group.lanGateway

def statusValue : GatewayStatus → String
  | .pending => "pending"
  | .provisioning => "provisioning"
  | .ready => "ready"
  | .error => "error"
  | .deleting => "deleting"

/-- The columns of a gateway's row that the scripts hold. -/
structure ScriptGateway where
  name : String
  status : GatewayStatus
  lanIp : Option String
  macvlanSlot : Option Int
deriving DecidableEq, Repr

/-- A gateway with the configuration of its backhaul peer. -/
abbrev Entry := ScriptGateway × Option String

def contains (part text : String) : Bool := decide (part.toList <:+: text.toList)

def validWgConf : Option String → Bool
  | none => false
  | some conf => Lan.strip conf ≠ "" && contains "[Interface]" conf && contains "[Peer]" conf && contains "PrivateKey" conf

/-! ### Lines -/

/-- `"\n".join(lines) + "\n"` -/
def joinLines (lines : List String) : String := "\n".intercalate lines ++ "\n"

def interfaceName (gatewayName : String) : String := String.ofList (wgInterfaceName gatewayName.toList)

def macText (slot : Int) : String := s!"mac_{slot}"

/-- `wg_if.replace('-', '_').upper()` of an ASCII name. -/
def variableName (wgIf : String) : String :=
  String.ofList (wgIf.toList.map fun c => if c = '-' then '_' else c.toUpper)

/-- The configuration is embedded as base64. -/
def writeWgConfLines (confPath wgIf wgConf : String) : List AndOr :=
  let var := "DEEPORC_B64_" ++ variableName wgIf
  let encoded := String.ofList (Lib.Base64.encode (Lib.UrlEncoding.utf8 (Lan.strip wgConf)))
  [.pipeline ["mkdir -p \"$\x7bWG_CONF_DIR\x7d\""],
    .pipeline [s!"{var}=\"{encoded}\""],
    .pipeline [s!"printf \"%s\" \"$\x7b{var}\x7d\"", s!"base64 -d > \"{confPath}\""],
    .pipeline [s!"chmod 600 \"{confPath}\""]]

def wireguardLines (gatewayName : String) (slot : Int) (wgConf : String) : List AndOr :=
  let wgIf := interfaceName gatewayName
  let mac := macText slot
  let outward := s!"FORWARD -i {wgIf} -o {mac} -j ACCEPT"
  let back := s!"FORWARD -i {mac} -o {wgIf} -m state --state RELATED,ESTABLISHED -j ACCEPT"
  let source := s!"POSTROUTING -o {mac} -j MASQUERADE"
  writeWgConfLines s!"$\x7bWG_CONF_DIR\x7d/{wgIf}.conf" wgIf wgConf ++
    [.orElse s!"wg-quick down {wgIf} 2>/dev/null" "true",
      .pipeline [s!"wg-quick up {wgIf}"],
      .pipeline [s!"ip link set {wgIf} mtu {backhaulWgMtu}"],
      .pipeline [s!"ip rule add pref {32500 + slot} iif {wgIf} lookup {slot}"],
      .orElse s!"iptables -C {outward} 2>/dev/null" s!"iptables -A {outward}",
      .orElse s!"iptables -C {back} 2>/dev/null" s!"iptables -A {back}",
      .orElse s!"iptables -t nat -C {source} 2>/dev/null" s!"iptables -t nat -A {source}"]

def macvlanLines (group : Lan.PeerGroup) (gatewayName lanIp : String) (slot : Int) : List AndOr :=
  let wgIf := interfaceName gatewayName
  let mac := macText slot
  let prefixLen := lanPrefixLen group.lanSubnet
  let lanNetwork := lanNetworkCidr group.lanSubnet
  [.pipeline [s!"echo '==> {gatewayName} ({lanIp} / {mac})'"],
    .orElse s!"ip link del {mac} 2>/dev/null" "true",
    .pipeline [s!"ip link add {mac} link \"$\x7bPARENT_IFACE\x7d\" type macvlan mode bridge"],
    .pipeline [s!"ip addr add {lanIp}/{prefixLen} dev {mac}"],
    .pipeline [s!"ip link set {mac} up"],
    .orElse s!"grep -q '^{slot} ' /etc/iproute2/rt_tables 2>/dev/null"
      s!"echo '{slot} deeporc-{slot}' >> /etc/iproute2/rt_tables",
    .pipeline [s!"ip route replace default via \"$\x7bLAN_GW\x7d\" dev {mac} table {slot}"],
    .pipeline [s!"ip route replace {lanNetwork} dev {mac} scope link table {slot}"],
    .orElse s!"ip rule del from {lanIp}/32 lookup {slot} 2>/dev/null" "true",
    .pipeline [s!"ip rule add pref {32000 + slot} from {lanIp}/32 lookup {slot}"],
    .orElse s!"ip rule del iif {wgIf} lookup {slot} 2>/dev/null" "true"]

/-- What the block of a gateway does about WireGuard. -/
def backhaulLines (gateway : ScriptGateway) (slot : Int) (wgConf : Option String) : List AndOr :=
  if gateway.status ≠ .ready then
    [.pipeline [s!"echo '  skip WireGuard: {gateway.name} status={statusValue gateway.status} (wait for ready in UI)' >&2"]]
  else if validWgConf wgConf then wireguardLines gateway.name slot (wgConf.getD "")
  else [.pipeline [s!"echo '  skip WireGuard: {gateway.name} missing or incomplete backhaul peer config' >&2"]]

/-- The commands of a gateway, which has none without an address and a slot. -/
def exitHostBlock (group : Lan.PeerGroup) (entry : Entry) : Option (List AndOr) :=
  match given entry.1.lanIp, entry.1.macvlanSlot with
  | some lanIp, some slot =>
      some (macvlanLines group entry.1.name lanIp slot ++ backhaulLines entry.1 slot entry.2)
  | _, _ => none

/-- An entry without an address or a slot has no commands. -/
def blockLists (group : Lan.PeerGroup) (entry : Entry) : List AndOr := (exitHostBlock group entry).getD []

def blockLine (gateway : ScriptGateway) (block : List AndOr) : String :=
  let commands := "; ".intercalate (block.map AndOr.text)
  s!"({commands}) || echo 'FAILED: {gateway.name}' >&2"

def entryLines (group : Lan.PeerGroup) (entry : Entry) : List String :=
  match exitHostBlock group entry with
  | some block => [blockLine entry.1 block, ""]
  | none => []

def setupHeader (group : Lan.PeerGroup) (entries : List Entry) (lanGw : String) : List String :=
  let parent := (given group.parentIface).getD "ens18"
  let ready := (entries.filter fun entry => entry.1.status = .ready && validWgConf entry.2).length
  ["#!/usr/bin/env bash",
    s!"# deepOrc exit host — peer group: {group.name}",
    s!"# Gateways in group: {entries.length} ({ready} with WireGuard config)",
    "# Run as root on the EXIT VM (no sudo). Prefer downloading this file — do not copy from the browser modal " ++
      "for large groups.",
    "set -euo pipefail",
    "",
    s!"PARENT_IFACE=\"$\x7bPARENT_IFACE:-{parent}\x7d\"",
    s!"LAN_GW=\"$\x7bLAN_GW:-{lanGw}\x7d\"",
    "WG_CONF_DIR=\"$\x7bWG_CONF_DIR:-/etc/wireguard\x7d\"",
    "",
    "sysctl -w net.ipv4.ip_forward=1",
    "sysctl -w net.ipv4.conf.all.rp_filter=0",
    "sysctl -w net.ipv4.conf.default.rp_filter=0",
    "sysctl -w net.ipv4.conf.$\x7bPARENT_IFACE\x7d.rp_filter=0",
    "sysctl -w net.ipv4.conf.all.arp_ignore=1",
    "sysctl -w net.ipv4.conf.all.arp_announce=2",
    "",
    "mkdir -p /etc/iproute2",
    "grep -q \"^200 deeporc\" /etc/iproute2/rt_tables 2>/dev/null || " ++
      "echo \"200 deeporc\" >> /etc/iproute2/rt_tables",
    ""]

def setupBody (group : Lan.PeerGroup) (entries : List Entry) : List String :=
  if entries.isEmpty then
    ["echo 'No gateways in this group yet — create gateways in the UI first.' >&2", "exit 1"]
  else entries.flatMap (entryLines group) ++ ["echo 'Done.'"]

/-! ### The two scripts -/

def renderExitHostScript (group : Lan.PeerGroup) (entries : List Entry) : Except PyError String :=
  (lanGw group).map fun lanGw => joinLines (setupHeader group entries lanGw ++ setupBody group entries)

def teardownLines (gateway : ScriptGateway) : List String :=
  match gateway.macvlanSlot with
  | none => []
  | some slot =>
      let mac := macText slot
      let wgIf := interfaceName gateway.name
      let lanIp := gateway.lanIp.getD ""
      [s!"wg-quick down {wgIf} 2>/dev/null || true",
        s!"rm -f /etc/wireguard/{wgIf}.conf 2>/dev/null || true",
        s!"iptables -t nat -D POSTROUTING -o {mac} -j MASQUERADE 2>/dev/null || true",
        s!"iptables -D FORWARD -i {wgIf} -o {mac} -j ACCEPT 2>/dev/null || true",
        s!"iptables -D FORWARD -i {mac} -o {wgIf} -m state --state RELATED,ESTABLISHED -j ACCEPT 2>/dev/null || true",
        s!"ip rule del from {lanIp}/32 lookup {slot} 2>/dev/null || true",
        s!"ip rule del iif {wgIf} lookup {slot} 2>/dev/null || true",
        s!"ip route flush table {slot} 2>/dev/null || true",
        s!"ip link del {mac} 2>/dev/null || true"]

def renderExitHostTeardownScript (group : Lan.PeerGroup) (gateways : List ScriptGateway) : String :=
  joinLines (["#!/usr/bin/env bash", s!"# Tear down deepOrc exit host — peer group: {group.name}", "set -euo pipefail", ""] ++
    (gateways.flatMap teardownLines ++ ["echo 'Teardown done.'"]))

/-! ### What a script contains -/

theorem infix_joinLines {lines : List String} {line : String} (member : line ∈ lines) :
    line.toList <:+: (joinLines lines).toList := by
  have within : line.toList <:+: ("\n" : String).toList.intercalate (lines.map String.toList) := by
    induction lines with
    | nil => cases member
    | cons first rest ih =>
        cases rest with
        | nil =>
            obtain rfl := List.mem_singleton.mp member
            exact ⟨[], [], by simp⟩
        | cons second rest =>
            rw [List.map_cons, List.map_cons, List.intercalate_cons_cons]
            obtain rfl | later := List.mem_cons.mp member
            · exact ⟨[], _, by rw [List.nil_append, List.append_assoc]⟩
            · exact (ih later).trans (List.suffix_append _ _).isInfix
  unfold joinLines
  rw [String.toList_append, String.toList_intercalate]
  exact within.trans (List.prefix_append _ _).isInfix

theorem contains_append_left {part text : String} (within : contains part text = true) (rest : String) :
    contains part (text ++ rest) = true := by
  rw [contains, decide_eq_true_eq] at within ⊢
  rw [String.toList_append]
  exact within.trans (List.prefix_append _ _).isInfix

theorem contains_append_right {part text : String} (within : contains part text = true) (front : String) :
    contains part (front ++ text) = true := by
  rw [contains, decide_eq_true_eq] at within ⊢
  rw [String.toList_append]
  exact within.trans (List.suffix_append _ _).isInfix

theorem strip_ne_empty {text : String} {c : Char} (member : c ∈ text.toList) (solid : Naming.isSpace c = false) :
    Lan.strip text ≠ "" := by
  intro empty
  have letters := congrArg String.toList empty
  rw [Lan.strip, String.toList_ofList] at letters
  have kept : c ∈ Naming.strip text.toList := Lib.Fields.mem_trim member solid
  rw [letters] at kept
  cases kept

theorem blockLists_eq (group : Lan.PeerGroup) {entry : Entry} {lanIp : String} {slot : Int}
    (address : given entry.1.lanIp = some lanIp) (place : entry.1.macvlanSlot = some slot) :
    blockLists group entry = macvlanLines group entry.1.name lanIp slot ++ backhaulLines entry.1 slot entry.2 := by
  rw [blockLists, exitHostBlock, address, place]
  rfl

/-! ### Where WireGuard is started -/

theorem startsWith_append {start text : String} {c : Char} (front : start.toList.head? = some c) :
    (start ++ text).toList.head? = some c := by
  rw [String.toList_append, List.head?_append, front]
  rfl

def firstCommand : AndOr → String
  | .pipeline commands => commands.headD ""
  | .orElse first _ => first

/-- No command that sets the macvlan interface up is `wg-quick`. -/
theorem macvlanLines_start {group : Lan.PeerGroup} {gatewayName lanIp : String} {line : AndOr} {slot : Int}
    (member : line ∈ macvlanLines group gatewayName lanIp slot) : (firstCommand line).toList.head? ≠ some 'w' := by
  have opens : ∀ c, c ≠ 'w' → (firstCommand line).toList.head? = some c → (firstCommand line).toList.head? ≠ some 'w' := by
    intro c other front
    rw [front]
    exact fun same => other (Option.some.inj same)
  simp only [macvlanLines, List.mem_cons, List.not_mem_nil, or_false] at member
  rcases member with rfl | rfl | rfl | rfl | rfl | rfl | rfl | rfl | rfl | rfl | rfl
  · apply opens 'e' (by decide)
    repeat apply startsWith_append
    decide
  case inr.inr.inr.inr.inr.inl =>
    apply opens 'g' (by decide)
    repeat apply startsWith_append
    decide
  all_goals
    apply opens 'i' (by decide)
    repeat apply startsWith_append
    decide

theorem backhaulLines_none_start {gateway : ScriptGateway} {slot : Int} {line : AndOr}
    (member : line ∈ backhaulLines gateway slot none) : (firstCommand line).toList.head? = some 'e' := by
  unfold backhaulLines at member
  split_ifs at member with waiting valid
  · obtain rfl := List.mem_singleton.mp member
    repeat apply startsWith_append
    decide
  · cases valid
  · obtain rfl := List.mem_singleton.mp member
    repeat apply startsWith_append
    decide

theorem wgQuickUp_mem (gatewayName : String) (slot : Int) (wgConf : String) :
    .pipeline [s!"wg-quick up {interfaceName gatewayName}"] ∈ wireguardLines gatewayName slot wgConf := by
  unfold wireguardLines
  simp

/-- Where the block of a gateway sets WireGuard up, there is a configuration. -/
theorem exitHostBlock_wireguard {group : Lan.PeerGroup} {entry : Entry} {block : List AndOr} {gatewayName conf : String}
    {slot : Int} (own : exitHostBlock group entry = some block)
    (within : wireguardLines gatewayName slot conf <:+: block) : entry.2 ≠ none := by
  intro missing
  have started := within.subset (wgQuickUp_mem gatewayName slot conf)
  have front : (firstCommand (.pipeline [s!"wg-quick up {interfaceName gatewayName}"])).toList.head? = some 'w' := by
    repeat apply startsWith_append
    decide
  unfold exitHostBlock at own
  split at own
  · cases own
    obtain macvlan | backhaul := List.mem_append.mp started
    · exact macvlanLines_start macvlan front
    · rw [missing] at backhaul
      rw [backhaulLines_none_start backhaul] at front
      exact absurd (Option.some.inj front) (by decide)
  · cases own

end DeepOrc.HostSetup

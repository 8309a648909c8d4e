import Mathlib.Data.Nat.Notation
import Mathlib.Tactic.Common

/-! # Headscale nodes as the client reads them -/

namespace DeepOrc.Headscale

/-- The entries of a node's JSON object that the client looks at; a missing key is `none`. -/
structure Node where
  id : Option Nat
  givenName : Option String
  givenNameCamel : Option String
  name : Option String
  hostname : Option String
  ipAddressesCamel : Option (List String)
  ipAddresses : Option (List String)
deriving DecidableEq, Repr

def firstFilled : List (Option String) → String
  | [] => ""
  | some value :: rest => if value = "" then firstFilled rest else value
  | none :: rest => firstFilled rest

def headscaleNodeName (node : Node) : String :=
  firstFilled [node.givenName, node.givenNameCamel, node.name, node.hostname]

/-- `str(addr).split("/")[0]` -/
def withoutMask (address : String) : String := String.ofList (address.toList.takeWhile (· != '/'))

def firstIpv4 : List String → Option String
  | [] => none
  | address :: rest =>
      let ip := withoutMask address
      if ip.toList.contains ':' then firstIpv4 rest else some ip

def nodeIpv4 (node : Node) : Option String :=
  ((node.ipAddressesCamel.getD []) |> firstIpv4).or (firstIpv4 (node.ipAddresses.getD []))

def getNodeTailscaleIpByHostname (nodes : List Node) (hostname : String) : Option String :=
  (nodes.find? fun node => headscaleNodeName node = hostname).bind nodeIpv4

/-- The two tests of one node, in the order the loop makes them. -/
def matchesGateway (tailscaleIp : Option String) (hostnames : List String) (node : Node) : Bool :=
  (tailscaleIp.any fun ip => ip != "" && nodeIpv4 node = some ip) ||
    (hostnames.any fun hostname => hostname != "" && headscaleNodeName node = hostname)

def findGatewayHeadscaleNode (nodes : List Node) (tailscaleIp : Option String) (hostnames : List String) :
    Option Node :=
  nodes.find? (matchesGateway tailscaleIp hostnames)

theorem findGatewayHeadscaleNode_some {nodes : List Node} {tailscaleIp : Option String} {hostnames : List String}
    {node : Node} (found : findGatewayHeadscaleNode nodes tailscaleIp hostnames = some node) :
    node ∈ nodes ∧
      ((∃ ip, tailscaleIp = some ip ∧ nodeIpv4 node = some ip) ∨ headscaleNodeName node ∈ hostnames) := by
  refine ⟨List.mem_of_find?_eq_some found, ?_⟩
  have matched := List.find?_some found
  simp only [matchesGateway, Bool.or_eq_true, List.any_eq_true, Option.any_eq_true, Bool.and_eq_true,
    decide_eq_true_eq] at matched
  rcases matched with ⟨ip, known, -, address⟩ | ⟨hostname, member, -, same⟩
  · exact .inl ⟨ip, known, address⟩
  · exact .inr (same ▸ member)

theorem getNodeTailscaleIpByHostname_some {nodes : List Node} {hostname ip : String}
    (found : getNodeTailscaleIpByHostname nodes hostname = some ip) :
    ∃ node ∈ nodes, headscaleNodeName node = hostname ∧ nodeIpv4 node = some ip := by
  obtain ⟨node, search, address⟩ := Option.bind_eq_some_iff.mp found
  exact ⟨node, List.mem_of_find?_eq_some search, by simpa using List.find?_some search, address⟩

end DeepOrc.Headscale

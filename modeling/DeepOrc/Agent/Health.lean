import DeepOrc.Agent.SuspendChain
import DeepOrc.Lib.Json
import DeepOrc.Models

/-!
# What the two agents report as health

Both run `wg` and `tailscale status --json`. The static agent looks for the interface and for two pieces of text;
the Python agent looks at the handshakes and at the parsed document.
-/

namespace DeepOrc.Agent

open Lib (Json)
open Lib.Json (Text Has)
open Models

/-- A peer in `wg show wg0 dump`. The handshake is in seconds since the epoch, 0 for none, and a time that
`datetime` can represent. -/
structure WgPeer where
  publicKey : String
  endpoint : Option String
  allowedIps : String
  latestHandshake : Nat
  rxBytes : Nat
  txBytes : Nat
  representable : latestHandshake < 253402300800

/-- `dict.get` on an object: of two members with one name the last counts. -/
def get (members : List (Text × Json)) (name : Text) : Json :=
  ((members.reverse.find? fun member => member.1 = name).map Prod.snd).getD .null

/-- A document of `tailscale status --json`. `Self` is a node or null, and a node's addresses are strings. -/
structure StatusDocument where
  members : List (Text × Json)
  selfNode : get members "Self".toList = .null ∨ ∃ node, get members "Self".toList = .object node ∧
    (get node "TailscaleIPs".toList = .null ∨
      ∃ ips : List Text, get node "TailscaleIPs".toList = .array (ips.map .string))

structure SystemState where
  /-- In microseconds. -/
  now : Nat
  /-- No peers without the interface. -/
  wg0 : Option (List WgPeer)
  /-- None when the command fails. -/
  tailscale : Option StatusDocument

structure HealthStatus where
  wgOnline : Bool
  tailscaleOnline : Bool
deriving DecidableEq

/-! ### The static agent -/

def wgOnline (system : SystemState) : Bool := system.wg0.isSome

def StatusDocument.text (document : StatusDocument) : Text := Json.layout 0 (.object document.members)

def tailscaleOnline (system : SystemState) : Bool :=
  match system.tailscale with
  | none => false
  | some document =>
      contains document.text "\"BackendState\": \"Running\"".toList || contains document.text "\"Online\": true".toList

def staticHealth (system : SystemState) : HealthStatus := ⟨wgOnline system, tailscaleOnline system⟩

/-! ### The Python agent -/

structure PeerInfo where
  publicKey : String
  allowedIps : String
  endpoint : Option String
  lastHandshake : Option Nat
  rxBytes : Nat
  txBytes : Nat

def listPeers (system : SystemState) : List PeerInfo :=
  (system.wg0.getD []).map fun peer =>
    ⟨peer.publicKey, peer.allowedIps, peer.endpoint,
      if 0 < peer.latestHandshake then some peer.latestHandshake else none, peer.rxBytes, peer.txBytes⟩

def peerHandshakeMaxAgeSeconds : Nat := 180

def microseconds (seconds : Nat) : Nat := seconds * 1000000

def wgUplinkOnline (system : SystemState) : Bool :=
  (listPeers system).any fun peer =>
    match peer.lastHandshake with
    | none => false
    | some handshake =>
        (system.now : Int) - microseconds handshake < microseconds peerHandshakeMaxAgeSeconds

def isString (text : Text) : Json → Bool
  | .string other => other = text
  | _ => false

/-- `(data.get("Self") or {}).get("TailscaleIPs") or []` -/
def selfIps (data : List (Text × Json)) : Except PyError (List Json) :=
  match get data "Self".toList with
  | .null => .ok []
  | .object node =>
      match get node "TailscaleIPs".toList with
      | .null => .ok []
      | .array ips => .ok ips
      | _ => .error (.other "TypeError")
  | _ => .error (.other "AttributeError")

def dotted : Json → Bool
  | .string text => text.contains '.'
  | _ => false

/-- `json.loads` gives back the document that was laid out. -/
def tailscaleConnected (system : SystemState) : Except PyError Bool :=
  match system.tailscale with
  | none => .ok false
  | some document =>
      if !isString "Running".toList (get document.members "BackendState".toList) then .ok false
      else (selfIps document.members).map fun ips => ips.any dotted

def collectHealth (system : SystemState) : Except PyError HealthStatus :=
  (tailscaleConnected system).map fun online => ⟨wgUplinkOnline system, online⟩

/-! ### Handshakes -/

def Recent (now : Nat) (peer : WgPeer) : Prop :=
  0 < peer.latestHandshake ∧ now < microseconds (peer.latestHandshake + peerHandshakeMaxAgeSeconds)

theorem wgUplinkOnline_iff (system : SystemState) :
    wgUplinkOnline system = true ↔ ∃ peers, system.wg0 = some peers ∧ ∃ peer ∈ peers, Recent system.now peer := by
  have recent : ∀ peer : WgPeer, (match (if 0 < peer.latestHandshake then some peer.latestHandshake else none) with
      | none => false
      | some handshake =>
          decide ((system.now : Int) - microseconds handshake < microseconds peerHandshakeMaxAgeSeconds)) = true ↔
        Recent system.now peer := by
    intro peer
    unfold Recent microseconds
    split_ifs with shaken
    · simp only [decide_eq_true_eq, shaken, true_and]
      omega
    · simp [shaken]
  rw [wgUplinkOnline, listPeers, List.any_map]
  cases interface : system.wg0 with
  | none => simp
  | some peers =>
      simp only [Option.getD_some, List.any_eq_true, Function.comp_apply, recent, Option.some.injEq, exists_eq_left']

/-! ### The tailnet -/

/-- A member with this value, of the document or of anything in it. -/
def StatusDocument.has (document : StatusDocument) (name : Text) (value : Json) : Prop :=
  Has name value (.object document.members)

/-- The backend runs and the node itself has an address with a dot in it. -/
def StatusDocument.Connected (document : StatusDocument) : Prop :=
  get document.members "BackendState".toList = .string "Running".toList ∧
    ∃ node, ∃ ips : List Text, get document.members "Self".toList = .object node ∧
      get node "TailscaleIPs".toList = .array (ips.map .string) ∧ ∃ ip ∈ ips, '.' ∈ ip

theorem contains_member_iff (document : StatusDocument) {c : Char} {name value : Text} {wanted : Json}
    (letter : c.isAlpha = true) (plain : Json.Plain (c :: name)) (recognised : Json.Recognises value wanted) :
    contains document.text (Json.memberText (c :: name) value) = true ↔ document.has (c :: name) wanted := by
  have found := Json.infix_layout_iff letter plain recognised 0 [] Json.boundary_nil (.object document.members)
  rw [List.append_nil] at found
  rw [contains_iff, StatusDocument.text, found, StatusDocument.has]
  simp [Json.memberText]

theorem tailscaleOnline_iff (system : SystemState) : tailscaleOnline system = true ↔
    ∃ document, system.tailscale = some document ∧
      (document.has "BackendState".toList (.string "Running".toList) ∨
        document.has "Online".toList (.bool true)) := by
  cases status : system.tailscale with
  | none => simp [tailscaleOnline, status]
  | some document =>
      have plain : Json.Plain "BackendState".toList ∧ Json.Plain "Running".toList ∧ Json.Plain "Online".toList := by
        decide +kernel
      have running : contains document.text "\"BackendState\": \"Running\"".toList = true ↔
          document.has "BackendState".toList (.string "Running".toList) :=
        contains_member_iff document (by decide) plain.1 (Json.recognises_string plain.2.1)
      have online : contains document.text "\"Online\": true".toList = true ↔
          document.has "Online".toList (.bool true) :=
        contains_member_iff document (by decide) plain.2.2 Json.recognises_true
      simp only [tailscaleOnline, status, Bool.or_eq_true, Option.some.injEq, exists_eq_left']
      exact or_congr running online

theorem isString_iff {text : Text} {value : Json} : isString text value = true ↔ value = .string text := by
  cases value <;> simp [isString]

/-- A status document never makes the Python agent fail. -/
theorem tailscaleConnected_ok (system : SystemState) : ∃ online, tailscaleConnected system = .ok online ∧
    (online = true ↔ ∃ document, system.tailscale = some document ∧ document.Connected) := by
  cases status : system.tailscale with
  | none => exact ⟨false, by rw [tailscaleConnected, status], by simp⟩
  | some document =>
      simp only [tailscaleConnected, status, Option.some.injEq, exists_eq_left', StatusDocument.Connected]
      by_cases running : get document.members "BackendState".toList = .string "Running".toList
      · simp only [running, true_and]
        rcases document.selfNode with absent | ⟨node, present, absent | ⟨ips, listed⟩⟩
        · refine ⟨false, by simp only [selfIps, absent]; rfl, ?_⟩
          simp only [absent, Bool.false_eq_true, reduceCtorEq, false_and, exists_false]
        · refine ⟨false, by simp only [selfIps, present, absent]; rfl, ?_⟩
          constructor
          · intro impossible
            cases impossible
          · intro connected
            obtain ⟨node', ips, present', listed, -⟩ := connected
            rw [present] at present'
            cases present'
            rw [absent] at listed
            cases listed
        · refine ⟨(ips.map Json.string).any dotted, by simp only [selfIps, present, listed]; rfl, ?_⟩
          rw [List.any_map, List.any_eq_true]
          constructor
          · intro reported
            obtain ⟨ip, member, dot⟩ := reported
            exact ⟨node, ips, present, listed, ip, member, by simpa [dotted] using dot⟩
          · intro connected
            obtain ⟨node', ips', present', listed', ip, member, dot⟩ := connected
            rw [present] at present'
            cases present'
            rw [listed] at listed'
            have same := List.map_injective_iff.mpr (fun _ _ equal => Json.string.inj equal) (Json.array.inj listed')
            subst same
            exact ⟨ip, member, by simpa [dotted] using dot⟩
      · have other : isString "Running".toList (get document.members "BackendState".toList) = false := by
          rw [Bool.eq_false_iff]
          exact fun same => running (isString_iff.mp same)
        exact ⟨false, by rw [other]; rfl, by simp only [running, false_and, Bool.false_eq_true]⟩

/-! ### Where the reports agree -/

structure ReportsAgree (system : SystemState) : Prop where
  uplink : ∀ peers, system.wg0 = some peers → ∃ peer ∈ peers, Recent system.now peer
  tailnet : ∀ document, system.tailscale = some document →
    document.has "BackendState".toList (.string "Running".toList) ∨ document.has "Online".toList (.bool true) →
      document.Connected

theorem mem_of_get {members : List (Text × Json)} {name : Text} {value : Json} (found : get members name = value)
    (present : value ≠ .null) : (name, value) ∈ members := by
  unfold get at found
  cases search : members.reverse.find? fun member => member.1 = name with
  | none =>
      rw [search] at found
      exact absurd found.symm present
  | some member =>
      have same := List.find?_some search
      have listed := List.mem_reverse.mp (List.mem_of_find?_eq_some search)
      rw [search] at found
      cases found
      rw [← of_decide_eq_true same]
      exact listed

theorem StatusDocument.Connected.running {document : StatusDocument} (connected : document.Connected) :
    document.has "BackendState".toList (.string "Running".toList) :=
  ⟨_, .here (mem_of_get connected.1 nofun), List.suffix_refl _⟩

/-- The agents report the same exactly when an interface that is there has a fresh handshake, and a document in
which `Running` or `Online` is found anywhere is that of a node with an IPv4 address. -/
theorem collectHealth_eq_staticHealth_iff (system : SystemState) :
    collectHealth system = .ok (staticHealth system) ↔ ReportsAgree system := by
  obtain ⟨online, reported, connected⟩ := tailscaleConnected_ok system
  have fields : collectHealth system = .ok (staticHealth system) ↔
      (wgUplinkOnline system = true ↔ wgOnline system = true) ∧ (online = true ↔ tailscaleOnline system = true) := by
    rw [collectHealth, reported, staticHealth]
    change Except.ok (HealthStatus.mk _ _) = _ ↔ _
    rw [Except.ok.injEq, HealthStatus.mk.injEq]
    exact and_congr Bool.eq_iff_iff Bool.eq_iff_iff
  rw [fields, connected, tailscaleOnline_iff, wgUplinkOnline_iff, wgOnline, Option.isSome_iff_exists]
  constructor
  · rintro ⟨uplink, tailnet⟩
    constructor
    · intro peers present
      obtain ⟨peers', present', recent⟩ := uplink.mpr ⟨peers, present⟩
      rw [present] at present'
      cases present'
      exact recent
    · intro document present shown
      obtain ⟨document', present', connected⟩ := tailnet.mpr ⟨document, present, shown⟩
      rw [present] at present'
      cases present'
      exact connected
  · intro agree
    constructor
    · constructor
      · rintro ⟨peers, present, -⟩
        exact ⟨peers, present⟩
      · rintro ⟨peers, present⟩
        exact ⟨peers, present, agree.uplink peers present⟩
    · constructor
      · rintro ⟨document, present, connected⟩
        exact ⟨document, present, .inl connected.running⟩
      · rintro ⟨document, present, shown⟩
        exact ⟨document, present, agree.tailnet document present shown⟩

def connectedNode : StatusDocument where
  members := [("BackendState".toList, .string "Running".toList),
    ("Self".toList, .object [("TailscaleIPs".toList, .array [.string "100.64.0.1".toList])])]
  selfNode := .inr ⟨_, rfl, .inr ⟨["100.64.0.1".toList], rfl⟩⟩

/-- A gateway is like this when it waits for its first peer. -/
theorem reports_differ_without_peers :
    ∃ system : SystemState, system.wg0.map List.length = some 0 ∧ staticHealth system = ⟨true, true⟩ ∧
      collectHealth system = .ok ⟨false, true⟩ := by
  refine ⟨⟨1700000000000000, some [], some connectedNode⟩, rfl, ?_, rfl⟩
  have online : tailscaleOnline ⟨1700000000000000, some [], some connectedNode⟩ = true :=
    (tailscaleOnline_iff _).mpr ⟨connectedNode, rfl, .inl ⟨_, .here List.mem_cons_self, List.suffix_refl _⟩⟩
  rw [staticHealth, online]
  rfl

/-- Another node is online while this one is logged out. -/
def loggedOut : StatusDocument where
  members := [("BackendState".toList, .string "NeedsLogin".toList), ("Self".toList, .null),
    ("Peer".toList, .object [("nodekey:b".toList, .object [("Online".toList, .bool true)])])]
  selfNode := .inl rfl

example : tailscaleOnline ⟨0, none, some loggedOut⟩ = true := by decide +kernel

example : tailscaleConnected ⟨0, none, some loggedOut⟩ = .ok false := rfl

end DeepOrc.Agent

import DeepOrc.Agent.RemoteCalls

/-!
# The peers that the control plane sees

`list_peers` gives back the peers of the interface: from what `wg` prints through the agent's answer to what the
orchestrator looks up in it.
-/

namespace DeepOrc.Agent.Remote

open Lib (Json)
open Lib.Fields (decimal trim)
open Lib.Json (Text)
open Lib.UrlEncoding (Bytes utf8)
open Server

def jsonText : Json → Option Text
  | .string text => some text
  | _ => none

def jsonTextOrNull : Json → Option (Option Text)
  | .null => some none
  | .string text => some (some text)
  | _ => none

/-- A number without a fraction or exponent is an `int`. -/
def jsonInt : Json → Option Int
  | .number literal => Lib.Fields.readInt Naming.isSpace Naming.digitValue literal.text
  | _ => none

/-- The members of a peer that its readers look up. -/
def listedPeer : Json → Option (WgDump.PeerInfo Text)
  | .object members => do
      let publicKey ← jsonText (Agent.get members "public_key".toList)
      let allowedIps ← jsonText (Agent.get members "allowed_ips".toList)
      let endpoint ← jsonTextOrNull (Agent.get members "endpoint".toList)
      let lastHandshake ← jsonTextOrNull (Agent.get members "last_handshake".toList)
      let rxBytes ← jsonInt (Agent.get members "rx_bytes".toList)
      let txBytes ← jsonInt (Agent.get members "tx_bytes".toList)
      return ⟨publicKey, allowedIps, endpoint, lastHandshake, rxBytes, txBytes⟩
  | _ => none

def listedPeers : Json → Option (List (WgDump.PeerInfo Text))
  | .array peers => peers.mapM listedPeer
  | _ => none

theorem jsonTextOrNull_textOrNull (text : Option Text) : jsonTextOrNull (textOrNull text) = some text := by
  cases text with
  | none => rfl
  | some text => rfl

theorem jsonInt_intLiteral (n : Nat) : jsonInt (.number (intLiteral n)) = some (n : Int) :=
  Lib.Fields.readInt_decimal (fun _ => Naming.isSpace_of_isDigit) (fun _ => Naming.digitValue_of_isDigit) n

theorem listedPeer_peerJson {info : WgDump.PeerInfo Text} (received : 0 ≤ info.rxBytes) (sent : 0 ≤ info.txBytes) :
    listedPeer (peerJson info) = some info := by
  obtain ⟨publicKey, allowedIps, endpoint, lastHandshake, rxBytes, txBytes⟩ := info
  obtain ⟨rx, rfl⟩ := Int.eq_ofNat_of_zero_le received
  obtain ⟨tx, rfl⟩ := Int.eq_ofNat_of_zero_le sent
  have read : listedPeer (peerJson ⟨publicKey, allowedIps, endpoint, lastHandshake, (rx : Int), (tx : Int)⟩) =
      (jsonTextOrNull (textOrNull endpoint)).bind fun endpoint =>
        (jsonTextOrNull (textOrNull lastHandshake)).bind fun lastHandshake =>
          (jsonInt (.number (intLiteral rx))).bind fun rxBytes =>
            (jsonInt (.number (intLiteral tx))).bind fun txBytes =>
              some ⟨publicKey, allowedIps, endpoint, lastHandshake, rxBytes, txBytes⟩ := rfl
  rw [read, jsonTextOrNull_textOrNull, jsonTextOrNull_textOrNull, jsonInt_intLiteral, jsonInt_intLiteral]
  rfl

theorem listedPeers_array {infos : List (WgDump.PeerInfo Text)}
    (counted : ∀ info ∈ infos, 0 ≤ info.rxBytes ∧ 0 ≤ info.txBytes) :
    listedPeers (.array (infos.map peerJson)) = some infos := by
  show (infos.map peerJson).mapM listedPeer = some infos
  induction infos with
  | nil => rfl
  | cons info infos ih =>
      obtain ⟨here, later⟩ := List.forall_mem_cons.mp counted
      rw [List.map_cons, List.mapM_cons, listedPeer_peerJson here.1 here.2, ih later]
      rfl

section Listing

variable {σ : Type} {gateway : Instance σ}

theorem peersJson_dump (interface : WgDump.Interface) (peers : List WgDump.Peer) :
    peersJson (WgDump.dump interface peers) (peers.map fun p => p.info.mapHandshake WgDump.Go.rfc3339) =
      .array ((peers.map fun p => p.info.mapHandshake WgDump.Go.rfc3339).map peerJson) := by
  apply if_neg
  intro empty
  obtain ⟨none, many⟩ := empty
  rw [List.map_eq_nil_iff] at none
  rw [WgDump.splitOn_dump, none] at many
  exact absurd many (by simp [WgDump.rows])

theorem listPeers_dump {interface : WgDump.Interface} {peers : List WgDump.Peer} {state : σ}
    (dumped : (gateway.host.run [utf8 "wg", utf8 "show", bytes gateway.cfg.wgInterface, utf8 "dump"] state).1 =
      .ok (WgDump.dump interface peers)) :
    (Server.listPeers gateway.host gateway.cfg state).1 =
      .ok (.array ((peers.map fun p => p.info.mapHandshake WgDump.Go.rfc3339).map peerJson)) := by
  unfold Server.listPeers
  split
  · rename_i failure after ran
    rw [ran] at dumped
    cases dumped
  · rename_i out after ran
    rw [ran] at dumped
    cases dumped
    show (WgDump.Go.listPeers (.ok (WgDump.dump interface peers))).map (peersJson (WgDump.dump interface peers)) = _
    rw [WgDump.Go.listPeers_dump, ← peersJson_dump interface peers]
    rfl

/-- Where `wg` prints its peers, the control plane reads those peers from the answer, with the instants of their
handshakes, and takes the link to be up when one of them is recent. -/
theorem listPeers_reads_kernel {port : Nat} (listens : gateway.cfg.listenPort = decimal port)
    (visible : IsToken gateway.cfg.token) {interface : WgDump.Interface} {peers : List WgDump.Peer} {state : σ}
    (dumped : (gateway.host.run [utf8 "wg", utf8 "show", bytes gateway.cfg.wgInterface, utf8 "dump"] state).1 =
      .ok (WgDump.dump interface peers)) :
    ∃ answer stats, (requestViaIncus gateway port gateway.cfg.token .listPeers state).1 = .ok answer ∧
      listedPeers answer = some stats ∧
      stats.map (WgDump.PeerInfo.mapHandshake WgDump.handshakeInstant) =
        peers.map (fun p => p.info.mapHandshake fun (unix : Nat) => some (unix : Int)) ∧
      ∀ now, WgDump.wgUplinkConnected now (WgDump.peerStats stats) =
        .ok ((WgDump.peerStats (peers.map WgDump.Peer.info)).any (WgDump.recent now)) := by
  have performed := congrArg Prod.fst (@requestViaIncus_performs _ gateway _ listens _ visible .listPeers
    (show (bytes (payload none)).length ≤ bodyLimit by decide) state)
  rw [if_pos rfl] at performed
  have outcome : (requestViaIncus gateway port gateway.cfg.token .listPeers state).1.toOption =
      some (.array ((peers.map fun p => p.info.mapHandshake WgDump.Go.rfc3339).map peerJson)) :=
    performed.trans (congrArg Except.toOption (listPeers_dump dumped))
  have counted : ∀ info ∈ peers.map fun p => p.info.mapHandshake WgDump.Go.rfc3339, 0 ≤ info.rxBytes ∧ 0 ≤ info.txBytes := by
    intro info member
    obtain ⟨p, -, rfl⟩ := List.mem_map.mp member
    exact ⟨Int.natCast_nonneg p.rxBytes, Int.natCast_nonneg p.txBytes⟩
  have reads := WgDump.answer_reads
    (fun unix small => ⟨WgDump.rfc3339_ne_nil unix, WgDump.handshakeInstant_rfc3339 small⟩) peers
  refine ⟨_, _, ?_, listedPeers_array counted, reads.1, reads.2⟩
  cases made : (requestViaIncus gateway port gateway.cfg.token .listPeers state).1 with
  | error failure =>
      rw [made] at outcome
      cases outcome
  | ok answer =>
      rw [made] at outcome
      exact congrArg Except.ok (Option.some.inj outcome)

end Listing

/-! ### An interface with one peer -/

def onePeer : WgDump.Peer where
  publicKey := WgDump.number 1
  presharedKey := WgDump.noneWord
  endpoint := none
  allowedIps := WgDump.number 2
  latestHandshake := 1700000000
  rxBytes := 0
  txBytes := 120
  keepalive := WgDump.number 25
  endpoint_ne := nofun
  handshake_lt := by decide
  rx_lt := by decide
  tx_lt := by decide

def oneInterface : WgDump.Interface := ⟨WgDump.number 7, WgDump.number 8, WgDump.number 51820, WgDump.noneWord⟩

theorem onePeer_read : ∃ answer stats,
    (requestViaIncus (notingInstance (WgDump.dump oneInterface [onePeer])) 8081 "right".toList .listPeers []).1 = .ok answer ∧
      listedPeers answer = some stats ∧
      stats.map (WgDump.PeerInfo.mapHandshake WgDump.handshakeInstant) =
        [onePeer].map (fun p => p.info.mapHandshake fun (unix : Nat) => some (unix : Int)) ∧
      ∀ now, WgDump.wgUplinkConnected now (WgDump.peerStats stats) =
        .ok ((WgDump.peerStats ([onePeer].map WgDump.Peer.info)).any (WgDump.recent now)) :=
  @listPeers_reads_kernel _ (notingInstance (WgDump.dump oneInterface [onePeer])) _ (by decide)
    ⟨by decide, List.all_iff_forall_prop.mp (by decide)⟩ _ _ _ rfl

end DeepOrc.Agent.Remote

import DeepOrc.HostSetup.Rendering
import DeepOrc.Incus.AddressReuse
import DeepOrc.Lib.Machine
import DeepOrc.Services.GroupRuns
import DeepOrc.Wg.Routes

/-!
# The setup script of a group's exit host

The script embeds the configuration of a gateway's backhaul peer, which it looks up under the name that the
orchestrator itself gives to such a peer.
-/

namespace DeepOrc.Services

open HostSetup (Entry ScriptGateway exitHostBlock renderExitHostScript wireguardLines blockLine)
open Lan (GroupDb PeerGroup)
open Lib (Reaches Stays Table)
open Models Repositories

/-! ### The configuration of a peer -/

/-- The columns that only a configuration reads, by the ids of the peers, gateways and workers, and a setting. -/
structure ConfigColumns where
  privateKey : Nat → String
  wgServerPubkey : Nat → String
  publicIp : Nat → String
  wgDns : String

structure ClientConfigParams where
  privateKey : String
  address : String
  dns : String
  serverPublicKey : String
  endpoint : String
  allowedIps : String
  persistentKeepalive : Nat

def renderClientConfig (params : ClientConfigParams) : String :=
  s!"[Interface]\nPrivateKey = {params.privateKey}\nAddress = {params.address}/32\nDNS = {params.dns}\n" ++
    s!"MTU = {HostSetup.backhaulWgMtu}\n\n" ++
    s!"[Peer]\nPublicKey = {params.serverPublicKey}\nEndpoint = {params.endpoint}\n" ++
    s!"AllowedIPs = {params.allowedIps}\nPersistentKeepalive = {params.persistentKeepalive}\n"

def getEndpoint (columns : ConfigColumns) (db : Db) (gateway : Gateway) : Except PyError String :=
  match db.workers.get gateway.workerId with
  | none => .error (.value s!"Worker {gateway.workerId} not found")
  | some _ => .ok s!"{columns.publicIp gateway.workerId}:{gateway.udpPort}"

def clientConfig (columns : ConfigColumns) (peerId : Nat) (peer : Peer) (gateway : Gateway) (endpoint : String) :
    String :=
  renderClientConfig {
    privateKey := columns.privateKey peerId
    address := Lib.Ipv4.dotted peer.allowedIp
    dns := columns.wgDns
    serverPublicKey := columns.wgServerPubkey peer.gatewayId
    endpoint := endpoint
    allowedIps := (Wg.ipv4AllowedIpsBackhaulUplink gateway.wgSubnet).text
    persistentKeepalive := 25 }

def exportConfig (columns : ConfigColumns) (db : Db) (peerId : Nat) : Except PyError String :=
  match db.peers.get peerId with
  | none => .error (.value s!"Peer {peerId} not found")
  | some peer =>
      match db.gateways.get peer.gatewayId with
      | none => .error (.value "Gateway not found")
      | some gateway => (getEndpoint columns db gateway).map (clientConfig columns peerId peer gateway)

/-! ### The script of a group -/

def wgConfForGateway (columns : ConfigColumns) (db : Db) (gatewayId : Nat) (gateway : Gateway) :
    Except PyError (Option String) :=
  let peerName := defaultBackhaulPeerName gateway.name
  match (listByGateway db gatewayId).find? fun entry => entry.2.name = peerName with
  | some (peerId, _) => (exportConfig columns db peerId).map some
  | none => .ok none

/-- The order of the keys `(g.macvlan_slot or 0, g.id)`. -/
def slotOrder (s : GroupDb) (one other : Nat × Gateway) : Bool :=
  let slot (id : Nat) : Int := ((s.lan id).macvlanSlot).getD 0
  slot one.1 < slot other.1 || (slot one.1 = slot other.1 && one.1 ≤ other.1)

def sortedGateways (s : GroupDb) (groupId : Nat) : List (Nat × Gateway) :=
  (s.db.gateways.toList.filter fun entry => (s.lan entry.1).inGroup groupId).mergeSort (slotOrder s)

def scriptGateway (s : GroupDb) (gatewayId : Nat) (gateway : Gateway) : ScriptGateway where
  name := gateway.name
  status := gateway.status
  lanIp := (s.lan gatewayId).lanIp.map fun lanIp => String.ofList lanIp.text
  macvlanSlot := (s.lan gatewayId).macvlanSlot

def scriptEntry (columns : ConfigColumns) (s : GroupDb) (gateway : Nat × Gateway) : Except PyError Entry :=
  (wgConfForGateway columns s.db gateway.1 gateway.2).map fun conf => (scriptGateway s gateway.1 gateway.2, conf)

def buildSetupScript (columns : ConfigColumns) (s : GroupDb) (groupId : Nat) : Except PyError (PeerGroup × String) :=
  match s.groups.get groupId with
  | none => .error (.value s!"Peer group {groupId} not found")
  | some group => do
      let entries ← (sortedGateways s groupId).mapM (scriptEntry columns s)
      let script ← renderExitHostScript group entries
      return (group, script)

/-! ### Operations -/

inductive ScriptEvent where
  | createGateways (groupId : Nat) (batch : Batch)
  | provision (gatewayId jobId : Nat) (calls : ProvisionCalls)
  | createPeer (gatewayId : Nat) (name : String) (calls : CreatePeerCalls)

/-- A peer creation that fails is rolled back. -/
def scriptStep (s : GroupDb) : ScriptEvent → Option GroupDb
  | .createGateways groupId batch => some (createGateways batch.1 s groupId batch.2).1
  | .provision gatewayId jobId calls => some { s with db := (provisionGateway calls s.db gatewayId jobId).1 }
  | .createPeer gatewayId name calls =>
      match createPeer calls s.db gatewayId name with
      | .ok db => some { s with db }
      | .error _ => none

/-- The groups are accepted ones, and there are no gateways yet. -/
structure FreshGroups (s : GroupDb) : Prop where
  accepted : ∀ groupId group, s.groups.get groupId = some group →
    ∃ taken db request, Lan.createGroup taken db request = .ok group
  gateways : ∀ id, s.db.gateways.get id = none
  peers : ∀ id, s.db.peers.get id = none

/-- Peers get some name. -/
def NamesPeers (_ : GroupDb) : ScriptEvent → Prop
  | .createPeer _ name _ => name ≠ ""
  | _ => True

/-- Peers get the name under which the script looks for them. -/
def Conventional (s : GroupDb) : ScriptEvent → Prop
  | .createPeer gatewayId name _ =>
      ∀ gateway, s.db.gateways.get gatewayId = some gateway → name = defaultBackhaulPeerName gateway.name
  | _ => True

/-- A peer of the gateway has its configuration in the gateway's block, which is in the script. -/
def HasBackhaul (columns : ConfigColumns) (group : PeerGroup) (s : GroupDb) (gateway : Nat × Gateway) (script : String) :
    Prop :=
  ∃ peer ∈ listByGateway s.db gateway.1, ∃ conf, exportConfig columns s.db peer.1 = .ok conf ∧
    ∃ slot entry block, (s.lan gateway.1).macvlanSlot = some slot ∧ scriptEntry columns s gateway = .ok entry ∧
      exitHostBlock group entry = some block ∧ wireguardLines gateway.2.name slot conf <:+: block ∧
      (blockLine entry.1 block).toList <:+: script.toList

def NoBackhaulSkipped (columns : ConfigColumns) (s : GroupDb) : Prop :=
  ∀ groupId group, s.groups.get groupId = some group →
    ∃ script, buildSetupScript columns s groupId = .ok (group, script) ∧
      ∀ gateway ∈ sortedGateways s groupId, gateway.2.status = .ready → listByGateway s.db gateway.1 ≠ [] →
        HasBackhaul columns group s gateway script

/-! ### Rows along a run -/

/-- What a script needs of the rows, whatever the peers are called. -/
structure Scriptable (s : GroupDb) : Prop where
  router : ∀ groupId group, s.groups.get groupId = some group → group.lanGateway ≠ ""
  worker : ∀ id gateway, s.db.gateways.get id = some gateway → ∃ worker, s.db.workers.get gateway.workerId = some worker
  placed : ∀ id gateway, s.db.gateways.get id = some gateway →
    ∃ groupId group lanIp slot, s.groups.get groupId = some group ∧ s.lan id = ⟨some groupId, some lanIp, some slot⟩
  owned : ∀ id peer, s.db.peers.get id = some peer → ∃ gateway, s.db.gateways.get peer.gatewayId = some gateway

def PeersNamed (db : Db) : Prop :=
  ∀ id peer gateway, db.peers.get id = some peer → db.gateways.get peer.gatewayId = some gateway →
    peer.name = defaultBackhaulPeerName gateway.name

def conventionalName (gateway : Gateway) : String := defaultBackhaulPeerName gateway.name

/-- The workers, and what stays with each gateway's row. -/
structure RowsKept (db after : Db) : Prop where
  workers : after.workers = db.workers
  resources : Incus.resourcesOf after = Incus.resourcesOf db

/-- At most one peer is new, and its gateway is there. -/
def AddsPeer (db after : Db) (gatewayId : Nat) (name : Gateway → String) : Prop :=
  after.peers = db.peers ∨ ∃ gateway publicKey address, db.gateways.get gatewayId = some gateway ∧
    after.peers = db.peers.insert ⟨gatewayId, name gateway, publicKey, address, false⟩

theorem resources_some {db after : Db} (same : Incus.resourcesOf after = Incus.resourcesOf db) {id : Nat}
    {gateway : Gateway} (present : after.gateways.get id = some gateway) :
    ∃ before, db.gateways.get id = some before ∧ gateway.workerId = before.workerId ∧ gateway.name = before.name := by
  have here := congrFun same id
  unfold Incus.resourcesOf at here
  rw [present] at here
  obtain ⟨before, found, equal⟩ := Option.map_eq_some_iff.mp here.symm
  unfold Incus.resources at equal
  injection equal with workers names
  exact ⟨before, found, workers.symm, names.symm⟩

theorem Scriptable.step {s : GroupDb} (scriptable : Scriptable s) {after : Db} {gatewayId : Nat} {name : Gateway → String}
    (kept : RowsKept s.db after) (added : AddsPeer s.db after gatewayId name) : Scriptable { s with db := after } := by
  refine ⟨scriptable.router, ?_, ?_, ?_⟩
  · intro id gateway present
    obtain ⟨before, found, same, -⟩ := resources_some kept.resources present
    obtain ⟨worker, stored⟩ := scriptable.worker id before found
    exact ⟨worker, by rw [kept.workers, same]; exact stored⟩
  · intro id gateway present
    obtain ⟨before, found, -⟩ := resources_some kept.resources present
    exact scriptable.placed id before found
  · intro id peer present
    have stands : ∀ owner before, s.db.gateways.get owner = some before →
        ∃ gateway, after.gateways.get owner = some gateway := by
      intro owner before found
      obtain ⟨gateway, stored, -⟩ := resources_some kept.resources.symm found
      exact ⟨gateway, stored⟩
    obtain same | ⟨gateway, publicKey, address, found, inserted⟩ := added
    · rw [show after.peers = s.db.peers from same] at present
      obtain ⟨before, found⟩ := scriptable.owned id peer present
      exact stands peer.gatewayId before found
    · rw [show after.peers = _ from inserted, Table.get_insert] at present
      split at present
      · cases present
        exact stands gatewayId gateway found
      · obtain ⟨before, found⟩ := scriptable.owned id peer present
        exact stands peer.gatewayId before found

theorem PeersNamed.step {db after : Db} (named : PeersNamed db) {gatewayId : Nat} {name : Gateway → String}
    (kept : RowsKept db after) (added : AddsPeer db after gatewayId name)
    (conventional : ∀ gateway, db.gateways.get gatewayId = some gateway → name gateway = conventionalName gateway) :
    PeersNamed after := by
  intro id peer gateway present stored
  obtain ⟨before, found, -, same⟩ := resources_some kept.resources stored
  rw [same]
  obtain unchanged | ⟨owner, publicKey, address, known, inserted⟩ := added
  · rw [unchanged] at present
    exact named id peer before present found
  · rw [inserted, Table.get_insert] at present
    split at present
    · cases present
      have equal : owner = before := Option.some.inj (known.symm.trans found)
      rw [← equal]
      exact conventional owner known
    · exact named id peer before present found

/-! ### What the operations do to the rows -/

theorem RowsKept.trans {db middle after : Db} (first : RowsKept db middle) (second : RowsKept middle after) :
    RowsKept db after :=
  ⟨second.workers.trans first.workers, second.resources.trans first.resources⟩

/-- A creation, failed or not, touches no gateway and adds no other peer. -/
theorem createPeer_adds (calls : CreatePeerCalls) (db : Db) (gatewayId : Nat) (name : String) :
    match createPeer calls db gatewayId name with
    | .ok after | .error (_, after) => after.workers = db.workers ∧ AddsPeer db after gatewayId fun _ => name := by
  unfold createPeer
  cases ready : readyGateway db gatewayId with
  | error error => exact ⟨rfl, .inl rfl⟩
  | ok gateway =>
      dsimp only
      split_ifs
      · exact ⟨rfl, .inl rfl⟩
      · exact ⟨rfl, .inl rfl⟩
      · cases allocation : Wg.allocatePeerIp db gatewayId gateway calls.allocation with
        | error error => exact ⟨rfl, .inl rfl⟩
        | ok pair =>
            obtain ⟨allocated, address⟩ := pair
            have tables := Wg.allocatePeerIp_tables allocation
            have workers : allocated.workers = db.workers := by rw [tables]
            have peers : allocated.peers = db.peers := by rw [tables]
            dsimp only
            cases insertion : insertPeer allocated ⟨gatewayId, name, calls.publicKey, address, false⟩ with
            | error error => exact ⟨workers, .inl peers⟩
            | ok inserted =>
                obtain ⟨rfl, -⟩ := insertPeer_ok insertion
                have added : AddsPeer db { allocated with
                    peers := allocated.peers.insert ⟨gatewayId, name, calls.publicKey, address, false⟩ } gatewayId
                    fun _ => name :=
                  .inr ⟨gateway, calls.publicKey, address, get_of_readyGateway ready, by rw [← peers]⟩
                dsimp only
                cases calls.addPeer with
                | error error => exact ⟨workers, added⟩
                | ok done =>
                    cases calls.uplinkPeer with
                    | error error => exact ⟨workers, added⟩
                    | ok done => exact ⟨workers, added⟩

theorem setUpPeer_adds (calls : CreatePeerCalls) (db : Db) (gatewayId : Nat) :
    (setUpPeer calls db gatewayId).workers = db.workers ∧
      AddsPeer db (setUpPeer calls db gatewayId) gatewayId conventionalName := by
  unfold setUpPeer ensureBackhaulPeer
  cases present : db.gateways.get gatewayId with
  | none => exact ⟨rfl, .inl rfl⟩
  | some gateway =>
      dsimp only
      split_ifs
      · exact ⟨rfl, .inl rfl⟩
      · have effect := createPeer_adds calls db gatewayId (defaultBackhaulPeerName gateway.name)
        have renamed : ∀ after, AddsPeer db after gatewayId (fun _ => defaultBackhaulPeerName gateway.name) →
            AddsPeer db after gatewayId conventionalName := by
          intro after added
          obtain same | ⟨owner, publicKey, address, known, inserted⟩ := added
          · exact .inl same
          · refine .inr ⟨owner, publicKey, address, known, ?_⟩
            rw [present] at known
            cases known
            exact inserted
        cases created : createPeer calls db gatewayId (defaultBackhaulPeerName gateway.name) with
        | ok after =>
            rw [created] at effect
            exact ⟨effect.1, renamed after effect.2⟩
        | error pair =>
            obtain ⟨error, after⟩ := pair
            rw [created] at effect
            cases error with
            | value text => exact ⟨effect.1, renamed after effect.2⟩
            | headscale text => exact ⟨rfl, .inl rfl⟩
            | integrity text => exact ⟨rfl, .inl rfl⟩
            | other text => exact ⟨rfl, .inl rfl⟩

theorem createPeer_kept {calls : CreatePeerCalls} {db after : Db} {gatewayId : Nat} {name : String}
    (created : createPeer calls db gatewayId name = .ok after) :
    RowsKept db after ∧ AddsPeer db after gatewayId fun _ => name := by
  have effect := createPeer_adds calls db gatewayId name
  have tables := createPeer_tables calls db gatewayId name
  rw [created] at effect tables
  exact ⟨⟨effect.1, Incus.resourcesOf_of_gateways tables.1⟩, effect.2⟩

theorem AddsPeer.of_kept {db middle after : Db} {gatewayId : Nat} (kept : RowsKept db middle)
    (peers : middle.peers = db.peers) (added : AddsPeer middle after gatewayId conventionalName) :
    AddsPeer db after gatewayId conventionalName := by
  obtain same | ⟨gateway, publicKey, address, known, inserted⟩ := added
  · exact .inl (same.trans peers)
  · obtain ⟨before, found, -, equal⟩ := resources_some kept.resources known
    refine .inr ⟨before, publicKey, address, found, ?_⟩
    rw [inserted, peers, conventionalName, conventionalName, equal]

theorem registerGateway_adds (calls : ProvisionCalls) (db : Db) (gatewayId jobId : Nat) (gateway : Gateway) :
    (registerGateway calls db gatewayId jobId gateway).1.workers = db.workers ∧
      AddsPeer db (registerGateway calls db gatewayId jobId gateway).1 gatewayId conventionalName := by
  unfold registerGateway
  split
  · exact ⟨rfl, .inl rfl⟩
  · split
    · exact ⟨rfl, .inl rfl⟩
    · rename_i finalized done
      obtain ⟨address, -, rfl⟩ := finalizeExitNode_ok done
      have workers : (updateStage (markReady (setExitNode db gatewayId address) gatewayId) jobId
          "peer_setup").workers = db.workers := by cases address <;> rfl
      have peers : (updateStage (markReady (setExitNode db gatewayId address) gatewayId) jobId
          "peer_setup").peers = db.peers := by cases address <;> rfl
      have resources := (Incus.resourcesOf_updateGatewayStatus (setExitNode db gatewayId address) gatewayId .ready
        none).trans (Incus.resourcesOf_setExitNode db gatewayId address)
      obtain ⟨same, added⟩ := setUpPeer_adds calls.peer
        (updateStage (markReady (setExitNode db gatewayId address) gatewayId) jobId "peer_setup") gatewayId
      exact ⟨same.trans workers, added.of_kept ⟨workers, resources⟩ peers⟩

/-- The peer of a provisioning has the name the script looks for. -/
theorem provisionGateway_adds (calls : ProvisionCalls) (db : Db) (gatewayId jobId : Nat) :
    (provisionGateway calls db gatewayId jobId).1.workers = db.workers ∧
      AddsPeer db (provisionGateway calls db gatewayId jobId).1 gatewayId conventionalName := by
  unfold provisionGateway
  split
  · exact ⟨rfl, .inl rfl⟩
  · exact ⟨rfl, .inl rfl⟩
  · dsimp only
    split
    · exact ⟨rfl, .inl rfl⟩
    · split
      · have begun := Incus.resourcesOf_updateGatewayStatus db gatewayId .provisioning none
        have kept : RowsKept db (updateStage (updateStage (updateStage (beginProvisioning db gatewayId jobId) jobId
            "cloud_init") jobId "agent_wait") jobId "register") := ⟨rfl, begun⟩
        obtain ⟨workers, added⟩ := registerGateway_adds calls _ gatewayId jobId _
        exact ⟨workers, added.of_kept kept rfl⟩
      · exact ⟨rfl, .inl rfl⟩

/-! ### Creations -/

/-- What each creation of a gateway of the group keeps, from the state before it. -/
def KeptByCreations (holds : GroupDb → Prop) (groupId : Nat) : Prop :=
  ∀ s group calls request db gatewayId jobId lanIp slot, s.groups.get groupId = some group → holds s →
    createGateway calls request s.db = .ok (db, gatewayId, jobId) → holds (storeLan s db gatewayId groupId lanIp slot)

theorem createAt_keeps {holds : GroupDb → Prop} {groupId : Nat} (created : KeptByCreations holds groupId)
    {group : PeerGroup} {calls : CreationCalls} {s t : GroupDb} {lanIp : Lan.Address} {result : Nat × Nat}
    (stored : s.groups.get groupId = some group) (held : holds s)
    (done : createAt groupId group calls s lanIp = .ok (t, result)) : holds t := by
  unfold createAt at done
  split at done
  · cases done
  · rename_i slot read
    split at done
    · cases done
    · rename_i db gatewayId jobId creation
      split_ifs at done
      cases done
      exact created s group calls _ db gatewayId jobId lanIp slot stored held creation

theorem createEach_invariant {holds : GroupDb → Prop} {groupId : Nat} (created : KeptByCreations holds groupId)
    {group : PeerGroup} {count : Nat} {calls : Nat → CreationCalls} {s : GroupDb}
    (stored : s.groups.get groupId = some group) (held : holds s) : holds (createEach groupId group count calls s).1 := by
  induction count generalizing calls s with
  | zero => simpa only [createEach] using held
  | succ count ih =>
      simp only [createEach]
      cases Lan.allocateLanIp s groupId group with
      | error error => exact held
      | ok lanIp =>
          dsimp only
          cases creation : createAt groupId group (calls 0) s lanIp with
          | error error => exact held
          | ok result =>
              obtain ⟨t, ids⟩ := result
              have kept : t.groups.get groupId = some group := by rw [createAt_groups creation, stored]
              exact ih kept (createAt_keeps created stored held creation)

theorem createGateways_invariant {holds : GroupDb → Prop} {groupId : Nat} (created : KeptByCreations holds groupId)
    (batch : Batch) {s : GroupDb} (held : holds s) : holds (createGateways batch.1 s groupId batch.2).1 := by
  unfold createGateways
  cases checked : checkBatch s groupId batch.2 with
  | error error => exact held
  | ok group =>
      obtain ⟨-, -, stored, -⟩ := checkBatch_ok_iff.mp checked
      exact createEach_invariant created stored held

theorem Scriptable.created {s : GroupDb} (scriptable : Scriptable s) {groupId : Nat} {group : PeerGroup}
    (known : s.groups.get groupId = some group) {calls : CreationCalls} {request : CreateGatewayRequest} {db : Db}
    {gatewayId jobId : Nat} (creation : createGateway calls request s.db = .ok (db, gatewayId, jobId)) (lanIp : Lan.Address)
    (slot : Int) : Scriptable (storeLan s db gatewayId groupId lanIp slot) := by
  obtain ⟨made⟩ := createGateway_ok creation
  have older : ∀ id gateway, s.db.gateways.get id = some gateway → id ≠ gatewayId := by
    intro id gateway present same
    rw [same, made.gateway_id, Table.get_next] at present
    cases present
  have stored : ∀ id, db.gateways.get id = if id = gatewayId then
      some (newGateway calls gatewayId made.workerId made.name made.vmIp made.udpPort) else s.db.gateways.get id := by
    intro id
    rw [made.gateways, Table.get_insert, ← made.gateway_id]
  refine ⟨scriptable.router, ?_, ?_, ?_⟩
  · intro id gateway present
    rw [show (storeLan s db gatewayId groupId lanIp slot).db = db from rfl] at present ⊢
    rw [made.workers]
    rw [stored] at present
    split at present
    · cases present
      exact ⟨made.worker, made.resolved⟩
    · exact scriptable.worker id gateway present
  · intro id gateway present
    by_cases new : id = gatewayId
    · subst new
      exact ⟨groupId, group, lanIp, slot, known, Function.update_self ..⟩
    · have before : s.db.gateways.get id = some gateway := by
        have here := stored id
        rw [if_neg new] at here
        exact here.symm.trans present
      obtain ⟨owner, row, ip, place, found, columns⟩ := scriptable.placed id gateway before
      exact ⟨owner, row, ip, place, found, (Function.update_of_ne new ..).trans columns⟩
  · intro id peer present
    rw [show (storeLan s db gatewayId groupId lanIp slot).db = db from rfl] at present ⊢
    rw [made.peers] at present
    obtain ⟨gateway, before⟩ := scriptable.owned id peer present
    exact ⟨gateway, by rw [stored, if_neg (older _ gateway before)]; exact before⟩

theorem PeersNamed.created {s : GroupDb} (named : PeersNamed s.db)
    (owned : ∀ id peer, s.db.peers.get id = some peer → ∃ gateway, s.db.gateways.get peer.gatewayId = some gateway)
    {calls : CreationCalls} {request : CreateGatewayRequest} {db : Db} {gatewayId jobId : Nat}
    (creation : createGateway calls request s.db = .ok (db, gatewayId, jobId)) : PeersNamed db := by
  obtain ⟨made⟩ := createGateway_ok creation
  intro id peer gateway present stored
  rw [made.peers] at present
  obtain ⟨owner, before⟩ := owned id peer present
  rw [made.gateways, Table.get_insert] at stored
  split at stored
  · rename_i new
    rw [new, Table.get_next] at before
    cases before
  · exact named id peer gateway present stored

/-! ### Runs -/

theorem FreshGroups.scriptable {s : GroupDb} (fresh : FreshGroups s) : Scriptable s := by
  refine ⟨?_, ?_, ?_, ?_⟩
  · intro groupId group stored
    obtain ⟨_, _, _, created⟩ := fresh.accepted groupId group stored
    exact Lan.accepted_lanGateway created
  · intro id gateway present
    rw [fresh.gateways] at present
    cases present
  · intro id gateway present
    rw [fresh.gateways] at present
    cases present
  · intro id peer present
    rw [fresh.peers] at present
    cases present

theorem scriptable_step {s t : GroupDb} {event : ScriptEvent} (scriptable : Scriptable s)
    (stepped : scriptStep s event = some t) : Scriptable t := by
  cases event with
  | createGateways groupId batch =>
      cases stepped
      refine createGateways_invariant ?_ batch scriptable
      intro s group calls request db gatewayId jobId lanIp slot known before creation
      exact before.created known creation lanIp slot
  | provision gatewayId jobId calls =>
      cases stepped
      obtain ⟨workers, added⟩ := provisionGateway_adds calls s.db gatewayId jobId
      exact scriptable.step ⟨workers, Incus.resourcesOf_provisionGateway calls s.db gatewayId jobId⟩ added
  | createPeer gatewayId name calls =>
      simp only [scriptStep] at stepped
      split at stepped
      · rename_i after created
        cases stepped
        obtain ⟨kept, added⟩ := createPeer_kept created
        exact scriptable.step kept added
      · cases stepped

theorem named_step {s t : GroupDb} {event : ScriptEvent} (scriptable : Scriptable s) (named : PeersNamed s.db)
    (conventional : Conventional s event) (stepped : scriptStep s event = some t) : PeersNamed t.db := by
  cases event with
  | createGateways groupId batch =>
      cases stepped
      have both : Scriptable (createGateways batch.1 s groupId batch.2).1 ∧
          PeersNamed (createGateways batch.1 s groupId batch.2).1.db := by
        refine @createGateways_invariant (fun s => Scriptable s ∧ PeersNamed s.db) groupId ?_ batch s ⟨scriptable, named⟩
        intro s group calls request db gatewayId jobId lanIp slot known before creation
        exact ⟨before.1.created known creation lanIp slot, before.2.created before.1.owned creation⟩
      exact both.2
  | provision gatewayId jobId calls =>
      cases stepped
      obtain ⟨workers, added⟩ := provisionGateway_adds calls s.db gatewayId jobId
      exact named.step ⟨workers, Incus.resourcesOf_provisionGateway calls s.db gatewayId jobId⟩ added fun _ _ => rfl
  | createPeer gatewayId name calls =>
      simp only [scriptStep] at stepped
      split at stepped
      · rename_i after created
        cases stepped
        obtain ⟨kept, added⟩ := createPeer_kept created
        exact named.step kept added conventional
      · cases stepped

/-! ### The script of a state -/

theorem mapM_ok {ε α β : Type} {f : α → Except ε β} {items : List α}
    (each : ∀ item ∈ items, ∃ value, f item = .ok value) :
    ∃ values, items.mapM f = .ok values ∧ ∀ item ∈ items, ∃ value ∈ values, f item = .ok value := by
  induction items with
  | nil => exact ⟨[], rfl, fun item member => absurd member List.not_mem_nil⟩
  | cons first rest ih =>
      obtain ⟨value, found⟩ := each first List.mem_cons_self
      obtain ⟨values, mapped, listed⟩ := ih fun item member => each item (List.mem_cons_of_mem _ member)
      refine ⟨value :: values, ?_, ?_⟩
      · rw [List.mapM_cons, found, mapped]
        rfl
      · intro item member
        obtain rfl | later := List.mem_cons.mp member
        · exact ⟨value, List.mem_cons_self, found⟩
        · obtain ⟨other, stored, same⟩ := listed item later
          exact ⟨other, List.mem_cons_of_mem _ stored, same⟩

theorem mem_sortedGateways {s : GroupDb} {groupId : Nat} {entry : Nat × Gateway} :
    entry ∈ sortedGateways s groupId ↔
      s.db.gateways.get entry.1 = some entry.2 ∧ (s.lan entry.1).peerGroupId = some groupId := by
  unfold sortedGateways
  rw [List.mem_mergeSort, List.mem_filter, Table.mem_toList, Lan.LanColumns.inGroup, decide_eq_true_eq]

theorem validWgConf_clientConfig (columns : ConfigColumns) (peerId : Nat) (peer : Peer) (gateway : Gateway)
    (endpoint : String) : HostSetup.validWgConf (some (clientConfig columns peerId peer gateway endpoint)) = true := by
  have opening : ∀ part, HostSetup.contains part (toString "[Interface]\nPrivateKey = ") = true →
      HostSetup.contains part (clientConfig columns peerId peer gateway endpoint) = true := by
    intro part within
    unfold clientConfig renderClientConfig
    repeat apply HostSetup.contains_append_left
    exact within
  have second : HostSetup.contains "[Peer]" (clientConfig columns peerId peer gateway endpoint) = true := by
    unfold clientConfig renderClientConfig
    apply HostSetup.contains_append_left
    apply HostSetup.contains_append_right
    repeat apply HostSetup.contains_append_left
    decide
  have first := opening "[Interface]" (by decide)
  have bracket : '[' ∈ (clientConfig columns peerId peer gateway endpoint).toList := by
    rw [HostSetup.contains, decide_eq_true_eq] at first
    exact first.subset (by decide)
  have filled := HostSetup.strip_ne_empty bracket (by decide)
  unfold HostSetup.validWgConf
  dsimp only
  rw [first, second, opening "PrivateKey" (by decide)]
  simpa using filled

theorem exportConfig_ok (columns : ConfigColumns) {db : Db} {peerId : Nat} {peer : Peer} {gateway : Gateway}
    {worker : Worker} (listed : db.peers.get peerId = some peer) (owner : db.gateways.get peer.gatewayId = some gateway)
    (hosted : db.workers.get gateway.workerId = some worker) :
    ∃ conf, exportConfig columns db peerId = .ok conf ∧ HostSetup.validWgConf (some conf) = true := by
  unfold exportConfig
  rw [listed]
  dsimp only
  rw [owner]
  dsimp only
  unfold getEndpoint
  rw [hosted]
  exact ⟨_, rfl, validWgConf_clientConfig columns peerId peer gateway _⟩

theorem wgConfForGateway_ok (columns : ConfigColumns) {s : GroupDb} (scriptable : Scriptable s) (gatewayId : Nat) (gateway : Gateway) :
    ∃ conf, wgConfForGateway columns s.db gatewayId gateway = .ok conf := by
  unfold wgConfForGateway
  dsimp only
  split
  · rename_i peerId peer search
    have listed := mem_listByGateway.mp (List.mem_of_find?_eq_some search)
    obtain ⟨owner, present⟩ := scriptable.owned peerId peer listed.1
    obtain ⟨worker, hosted⟩ := scriptable.worker peer.gatewayId owner present
    obtain ⟨conf, exported, -⟩ := exportConfig_ok columns listed.1 present hosted
    rw [exported]
    exact ⟨some conf, rfl⟩
  · exact ⟨none, rfl⟩

/-- Where the peers have the names the script looks for, it finds the configuration of a gateway's peer. -/
theorem wgConfForGateway_named (columns : ConfigColumns) {s : GroupDb} (scriptable : Scriptable s) (named : PeersNamed s.db) {gatewayId : Nat} {gateway : Gateway}
    (present : s.db.gateways.get gatewayId = some gateway) (peered : listByGateway s.db gatewayId ≠ []) :
    ∃ peer ∈ listByGateway s.db gatewayId, ∃ conf, exportConfig columns s.db peer.1 = .ok conf ∧
      HostSetup.validWgConf (some conf) = true ∧ wgConfForGateway columns s.db gatewayId gateway = .ok (some conf) := by
  obtain ⟨first, rest, peers⟩ := List.exists_cons_of_ne_nil peered
  have front : first ∈ listByGateway s.db gatewayId := by
    rw [peers]
    exact List.mem_cons_self
  have listed := mem_listByGateway.mp front
  have own := listed.2
  have name := named first.1 first.2 gateway listed.1 (by rw [own]; exact present)
  unfold wgConfForGateway
  dsimp only
  split
  · rename_i peerId peer search
    have member := List.mem_of_find?_eq_some search
    have stored := mem_listByGateway.mp member
    have owner : s.db.gateways.get peer.gatewayId = some gateway := by
      rw [stored.2]
      exact present
    obtain ⟨worker, hosted⟩ := scriptable.worker gatewayId gateway present
    obtain ⟨conf, exported, valid⟩ := exportConfig_ok columns stored.1 owner hosted
    refine ⟨(peerId, peer), member, conf, exported, valid, ?_⟩
    rw [exported]
    rfl
  · rename_i search
    have unnamed := List.find?_eq_none.mp search first front
    exact absurd (decide_eq_true name) unnamed

theorem buildSetupScript_ok (columns : ConfigColumns) {s : GroupDb} (scriptable : Scriptable s) {groupId : Nat} {group : PeerGroup}
    (known : s.groups.get groupId = some group) :
    ∃ script, buildSetupScript columns s groupId = .ok (group, script) ∧
      ∀ gateway ∈ sortedGateways s groupId, ∃ entry, scriptEntry columns s gateway = .ok entry ∧
        ∀ block, exitHostBlock group entry = some block → (blockLine entry.1 block).toList <:+: script.toList := by
  have each : ∀ gateway ∈ sortedGateways s groupId, ∃ entry, scriptEntry columns s gateway = .ok entry := by
    intro gateway _
    obtain ⟨conf, found⟩ := wgConfForGateway_ok columns scriptable gateway.1 gateway.2
    unfold scriptEntry
    rw [found]
    exact ⟨_, rfl⟩
  obtain ⟨entries, mapped, listed⟩ := mapM_ok each
  have router : HostSetup.lanGw group = .ok group.lanGateway := if_neg (scriptable.router groupId group known)
  have rendered : renderExitHostScript group entries = .ok (HostSetup.joinLines
      (HostSetup.setupHeader group entries group.lanGateway ++ HostSetup.setupBody group entries)) := by
    unfold renderExitHostScript
    rw [router]
    rfl
  generalize text : HostSetup.joinLines
    (HostSetup.setupHeader group entries group.lanGateway ++ HostSetup.setupBody group entries) = script at rendered
  refine ⟨script, ?_, ?_⟩
  · unfold buildSetupScript
    rw [known]
    simp only [bind, Except.bind, mapped, rendered]
    rfl
  · intro gateway member
    obtain ⟨entry, stored, found⟩ := listed gateway member
    refine ⟨entry, found, ?_⟩
    intro block own
    rw [← text]
    apply HostSetup.infix_joinLines
    apply List.mem_append_right
    have occupied : entries.isEmpty = false := by
      cases entries with
      | nil => cases stored
      | cons first rest => rfl
    unfold HostSetup.setupBody
    rw [occupied, if_neg Bool.false_ne_true]
    apply List.mem_append_left
    refine List.mem_flatMap.mpr ⟨entry, stored, ?_⟩
    unfold HostSetup.entryLines
    rw [own]
    exact List.mem_cons_self

/-- The block of a ready gateway with a valid configuration sets the configuration up. -/
theorem exitHostBlock_ready (group : PeerGroup) {gateway : ScriptGateway} {conf lanIp : String} {slot : Int}
    (ready : gateway.status = .ready) (valid : HostSetup.validWgConf (some conf) = true)
    (address : gateway.lanIp = some lanIp) (filled : lanIp ≠ "") (place : gateway.macvlanSlot = some slot) :
    ∃ block, exitHostBlock group (gateway, some conf) = some block ∧ wireguardLines gateway.name slot conf <:+: block := by
  have given : Lib.Text.given gateway.lanIp = some lanIp := by
    rw [address]
    exact Lib.Text.given_some filled
  unfold exitHostBlock
  simp only [given, place]
  refine ⟨_, rfl, ?_⟩
  unfold HostSetup.backhaulLines
  rw [if_neg (not_not.mpr ready), if_pos valid]
  exact (List.suffix_append _ _).isInfix

theorem noBackhaulSkipped {columns : ConfigColumns} {s : GroupDb} (scriptable : Scriptable s) (named : PeersNamed s.db) :
    NoBackhaulSkipped columns s := by
  intro groupId group known
  obtain ⟨script, built, blocks⟩ := buildSetupScript_ok columns scriptable known
  refine ⟨script, built, ?_⟩
  intro gateway member ready peered
  have stored := mem_sortedGateways.mp member
  obtain ⟨owner, row, lanIp, slot, -, columnsOf⟩ := scriptable.placed gateway.1 gateway.2 stored.1
  obtain ⟨peer, listed, conf, exported, valid, found⟩ :=
    wgConfForGateway_named columns scriptable named stored.1 peered
  obtain ⟨entry, entered, lines⟩ := blocks gateway member
  have same : entry = (scriptGateway s gateway.1 gateway.2, some conf) := by
    unfold scriptEntry at entered
    rw [found] at entered
    exact (Except.ok.inj entered).symm
  have place : (s.lan gateway.1).macvlanSlot = some slot := by rw [columnsOf]
  have address : (scriptGateway s gateway.1 gateway.2).lanIp =
      some (String.ofList lanIp.text) := by
    unfold scriptGateway
    rw [columnsOf]
    rfl
  obtain ⟨block, own, within⟩ := exitHostBlock_ready group ready valid address lanIp.ofList_text_ne_empty place
  rw [← same] at own
  exact ⟨peer, listed, conf, exported, slot, entry, block, place, entered, own, within, lines block own⟩

/-- A configuration that the script embeds is that of a peer with the name the script looks for. -/
theorem HasBackhaul.named {columns : ConfigColumns} {group : PeerGroup} {s : GroupDb} {gateway : Nat × Gateway}
    {script : String} (backhaul : HasBackhaul columns group s gateway script) :
    ∃ peer ∈ listByGateway s.db gateway.1, peer.2.name = defaultBackhaulPeerName gateway.2.name := by
  obtain ⟨-, -, conf, -, slot, entry, block, -, entered, own, within, -⟩ := backhaul
  have configured : entry.2 ≠ none := HostSetup.exitHostBlock_wireguard own within
  unfold scriptEntry at entered
  cases search : (listByGateway s.db gateway.1).find? fun entry =>
      entry.2.name = defaultBackhaulPeerName gateway.2.name with
  | none =>
      have missing : wgConfForGateway columns s.db gateway.1 gateway.2 = .ok none := by
        unfold wgConfForGateway
        dsimp only
        rw [search]
      rw [missing] at entered
      have same := Except.ok.inj entered
      rw [← same] at configured
      exact absurd rfl configured
  | some peer =>
      have name := List.find?_some search
      exact ⟨peer, List.mem_of_find?_eq_some search, of_decide_eq_true name⟩

/-- The peer of a gateway is the only one, so the script skips it unless it has the name. -/
theorem conventional_of_noBackhaulSkipped {columns : ConfigColumns} {s t : GroupDb} {event : ScriptEvent}
    (scriptable : Scriptable s) (stepped : scriptStep s event = some t) (held : NoBackhaulSkipped columns t) :
    Conventional s event := by
  cases event with
  | createGateways groupId batch => exact trivial
  | provision gatewayId jobId calls => exact trivial
  | createPeer gatewayId name calls =>
      intro gateway present
      simp only [scriptStep] at stepped
      split at stepped
      · rename_i after created
        cases stepped
        obtain ⟨made⟩ := createPeer_ok created
        have unchanged : after.gateways = s.db.gateways := by rw [made.same]
        have peers : after.peers = s.db.peers.insert ⟨gatewayId, name, calls.publicKey, made.address, false⟩ :=
          congrArg Db.peers made.same
        have ready : gateway.status = .ready := by
          have own := made.ready
          rw [readyGateway, present] at own
          dsimp only at own
          split_ifs at own with status
          exact not_not.mp status
        obtain ⟨groupId, group, lanIp, slot, known, placed⟩ := scriptable.placed gatewayId gateway present
        have member : (gatewayId, gateway) ∈ sortedGateways { s with db := after } groupId := by
          refine mem_sortedGateways.mpr ⟨?_, ?_⟩
          · show after.gateways.get gatewayId = some gateway
            rw [unchanged]
            exact present
          · show (s.lan gatewayId).peerGroupId = some groupId
            rw [placed]
        have listed : (s.db.peers.next, ⟨gatewayId, name, calls.publicKey, made.address, false⟩) ∈
            listByGateway after gatewayId := by
          refine mem_listByGateway.mpr ⟨?_, rfl⟩
          rw [peers, Table.get_insert, if_pos rfl]
        obtain ⟨script, -, embedded⟩ := held groupId group known
        have backhaul := embedded (gatewayId, gateway) member ready (List.ne_nil_of_mem listed)
        obtain ⟨⟨peerId, peer⟩, stored, named⟩ := backhaul.named
        obtain ⟨found, own⟩ := mem_listByGateway.mp stored
        rw [peers, Table.get_insert] at found
        split at found
        · cases found
          exact named
        · exact absurd own (made.first peerId peer found)
      · cases stepped

theorem no_backhaul_skipped_iff (columns : ConfigColumns) {start : GroupDb} (fresh : FreshGroups start) (s : GroupDb) :
    Stays scriptStep NamesPeers (NoBackhaulSkipped columns) start s ↔
      Reaches scriptStep (fun s event => NamesPeers s event ∧ Conventional s event) start s := by
  have named : PeersNamed start.db := by
    intro id peer gateway present
    rw [fresh.peers] at present
    cases present
  apply Stays.iff_reaches_of_safe
  · intro s event t reached stepped held
    have scriptable : Scriptable s := by
      apply reached.invariant fresh.scriptable
      intro s event t before _ stepped
      exact scriptable_step before stepped
    exact conventional_of_noBackhaulSkipped scriptable stepped held
  · intro s reached
    have both : Scriptable s ∧ PeersNamed s.db := by
      apply @Reaches.invariant _ _ _ _ _ _ (fun s => Scriptable s ∧ PeersNamed s.db) reached ⟨fresh.scriptable, named⟩
      intro s event t before allowed stepped
      exact ⟨scriptable_step before.1 stepped, named_step before.1 before.2 allowed.2 stepped⟩
    exact noBackhaulSkipped both.1 both.2

/-! ### A gateway that is skipped -/

def conventionalCheck (s : GroupDb) : ScriptEvent → Bool
  | .createPeer gatewayId name _ =>
      name ≠ "" && (s.db.gateways.get gatewayId).all fun gateway => name = defaultBackhaulPeerName gateway.name
  | _ => true

theorem conventional_of_check (s : GroupDb) (event : ScriptEvent) (checked : conventionalCheck s event = true) :
    NamesPeers s event ∧ Conventional s event := by
  cases event with
  | createGateways groupId batch => exact ⟨trivial, trivial⟩
  | provision gatewayId jobId calls => exact ⟨trivial, trivial⟩
  | createPeer gatewayId name calls =>
      obtain ⟨filled, named⟩ := Bool.and_eq_true_iff.mp checked
      have nonempty : name ≠ "" := of_decide_eq_true filled
      refine ⟨nonempty, ?_⟩
      intro gateway present
      rw [present] at named
      exact of_decide_eq_true named

theorem freshGroups_startingAt : FreshGroups (startingAt 3232238948) := by
  refine ⟨?_, fun id => rfl, fun id => rfl⟩
  intro groupId group known
  rw [startingAt, Table.get_insert] at known
  split at known
  · cases known
    exact ⟨[], onePortGroup.db, requestAt 3232238948, rfl⟩
  · cases known

/-- The gateway gets ready, and the agent refuses its peer. -/
def peerRefused : ProvisionCalls where
  render := .ok ()
  launch := .ok ()
  deadline := 300
  polls := [(0, .ok ⟨some true, some true, some true⟩)]
  lastHealth := .ok ⟨some true, some true, some true⟩
  register := .ok ()
  finalize := ⟨.ok (), .ok [], .ok (), .ok (), .ok [], .ok []⟩
  peer := ⟨"key", 0, .error (.other "500 Internal Server Error"), .ok ()⟩

def readyWithoutPeer : List ScriptEvent := [.createGateways 1 (granted, 1), .provision 1 1 peerRefused]

theorem no_backhaul_skipped_iff_link :
    ∃ s, (listByGateway s.db 1).length = 1 ∧
      Stays scriptStep NamesPeers
        (NoBackhaulSkipped ⟨fun _ => "", fun _ => "", fun _ => "", "1.1.1.1"⟩) (startingAt 3232238948) s := by
  have ran : (Lib.run scriptStep conventionalCheck (startingAt 3232238948)
      (readyWithoutPeer ++ [.createPeer 1 "gw-000-link" ⟨"key", 0, .ok (), .ok ()⟩])).any
      (fun s => (listByGateway s.db 1).length = 1) = true := by
    decide +kernel
  obtain ⟨s, arrived, single⟩ := Lib.exists_of_any ran
  have reached := Lib.reaches_of_run conventional_of_check arrived
  exact ⟨s, of_decide_eq_true single, (no_backhaul_skipped_iff _ freshGroups_startingAt s).mpr reached⟩

/-- The peer that is created by hand under a name of its own. -/
theorem backhaul_skipped :
    ¬ ∀ (columns : ConfigColumns) (start s : GroupDb), FreshGroups start →
      Reaches scriptStep NamesPeers start s → NoBackhaulSkipped columns s := by
  intro never
  have ran : (Lib.run scriptStep conventionalCheck (startingAt 3232238948) readyWithoutPeer).any
      (fun s => (scriptStep s (.createPeer 1 "vpn" ⟨"key", 0, .ok (), .ok ()⟩)).isSome &&
        (s.db.gateways.get 1).any fun gateway => "vpn" ≠ defaultBackhaulPeerName gateway.name) = true := by
    decide +kernel
  obtain ⟨s, arrived, facts⟩ := Lib.exists_of_any ran
  obtain ⟨created, other⟩ := Bool.and_eq_true_iff.mp facts
  obtain ⟨t, stepped⟩ := Option.isSome_iff_exists.mp created
  obtain ⟨gateway, present, unnamed⟩ := Lib.exists_of_any other
  have reached : Reaches scriptStep NamesPeers (startingAt 3232238948) s :=
    (Lib.reaches_of_run conventional_of_check arrived).mono fun _ _ both => both.1
  have scriptable : Scriptable s := by
    apply reached.invariant freshGroups_startingAt.scriptable
    intro s event t before _ stepped
    exact scriptable_step before stepped
  have named : NamesPeers s (.createPeer 1 "vpn" ⟨"key", 0, .ok (), .ok ()⟩) := show "vpn" ≠ "" by decide
  have held := never ⟨fun _ => "", fun _ => "", fun _ => "", "1.1.1.1"⟩ (startingAt 3232238948) t
    freshGroups_startingAt (reached.tail named stepped)
  exact of_decide_eq_true unnamed (conventional_of_noBackhaulSkipped scriptable stepped held gateway present)

end DeepOrc.Services

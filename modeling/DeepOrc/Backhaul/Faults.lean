import DeepOrc.Agent.PeerRoutes
import DeepOrc.Backhaul.Keys

/-!
# Peer operations when a call to the VM fails

An operation talks to the VM between its first row and its one commit. When a call fails it raises and the session is
rolled back, but nothing is taken back on the VM.
-/

namespace DeepOrc.Backhaul

open Models Services
open Lib (Table)

/-- The one external call that fails. A request may fail after the agent has carried it out, the read may time out or
end with an exit code, a push may fail once the file is written. -/
inductive Fault where
  | request (index : Nat) (applied : Bool)
  | read (timedOut : Bool)
  | push (written : Bool)
deriving DecidableEq

structure Outcome where
  vm : Vm
  db : Db
  raised : Option PyError

/-- A request to the agent, counted from 0 within its operation. -/
def agentRequest (fault : Fault) (index : Nat) (change : List String → List String) (wg0 : List String) :
    List String × Except PyError Unit :=
  match fault with
  | .request failing applied =>
      if failing = index then (if applied then change wg0 else wg0, .error (.other "incus agent request failed"))
      else (change wg0, .ok ())
  | _ => (change wg0, .ok ())

/-- The agent reads the key of a removal out of the path. -/
def Removable (publicKey : String) : Prop :=
  Agent.dispatchParts "DELETE" [] ((Lib.UrlEncoding.utf8 publicKey).splitOn 47) =
    .remove (Lib.UrlEncoding.utf8 publicKey)

instance (publicKey : String) : Decidable (Removable publicKey) :=
  inferInstanceAs (Decidable (_ = Agent.PeerDispatch.remove (Lib.UrlEncoding.utf8 publicKey)))

def removal (fault : Fault) (publicKey : String) (wg0 : List String) : List String × Except PyError Unit :=
  if Removable publicKey then agentRequest fault 0 (removePeer · publicKey) wg0
  else (wg0, .error (.other "incus agent request failed"))

/-- `_set_gateway_uplink_peer`: an exit code of the read is passed over. -/
def uplinkCalls (fault : Fault) (db : Db) (gateway : Gateway) (publicKey : String) (exitEnv : Lib.EnvFile.Text) :
    Lib.EnvFile.Text × Except PyError Unit :=
  let rewritten := setGatewayUplinkPeer db gateway publicKey exitEnv
  match db.workers.get gateway.workerId, fault with
  | none, _ => (exitEnv, .ok ())
  | some _, .read timedOut => (exitEnv, if timedOut then .error (.other "TimeoutExpired") else .ok ())
  | some _, .push written => (if written then rewritten else exitEnv, .error (.other "CalledProcessError"))
  | some _, .request _ _ => (rewritten, .ok ())

/-- The worker that `get_endpoint` needs for the client's configuration. -/
def getEndpoint (db : Db) (gateway : Gateway) : Except PyError Worker :=
  match db.workers.get gateway.workerId with
  | none => .error (.value s!"Worker {gateway.workerId} not found")
  | some worker => .ok worker

def createCalls (fault : Fault) (db created : Db) (vm : Vm) (gateway : Gateway) (publicKey : String) : Outcome :=
  let (wg0, added) := agentRequest fault 0 (addPeer · publicKey) vm.wg0
  match added with
  | .error error => ⟨{ vm with wg0 }, db, some error⟩
  | .ok _ =>
      let (exitEnv, pushed) := uplinkCalls fault db gateway publicKey vm.exitEnv
      match pushed, getEndpoint db gateway with
      | .error error, _ | .ok _, .error error => ⟨{ vm with wg0, exitEnv }, db, some error⟩
      | .ok _, .ok _ => ⟨{ vm with wg0, exitEnv }, created, none⟩

def deleteCalls (fault : Fault) (db after : Db) (vm : Vm) (peer : Peer) : Outcome :=
  let (wg0, removed) := removal fault peer.publicKey vm.wg0
  match removed with
  | .error error => ⟨{ vm with wg0 }, db, some error⟩
  | .ok _ => ⟨{ vm with wg0 }, after, none⟩

def regenerateCalls (fault : Fault) (db : Db) (vm : Vm) (gateway : Gateway) (peerId : Nat) (peer : Peer)
    (publicKey : String) : Outcome :=
  let (without, removed) := removal fault peer.publicKey vm.wg0
  match removed with
  | .error error => ⟨{ vm with wg0 := without }, db, some error⟩
  | .ok _ =>
      let (wg0, added) := agentRequest fault 1 (addPeer · publicKey) without
      match added, regeneratePeerKeys db peerId publicKey, getEndpoint db gateway with
      | .error error, _, _ | .ok _, .error error, _ | .ok _, .ok _, .error error => ⟨{ vm with wg0 }, db, some error⟩
      | .ok _, .ok (after, _), .ok _ => ⟨{ vm with wg0 }, after, none⟩

inductive PeerOperation where
  | create (name publicKey : String) (allocation : Nat)
  | delete (peerId : Nat)
  | regenerate (peerId : Nat) (publicKey : String)

/-- On the gateway of the id, whose VM this is. -/
def perform (gatewayId : Nat) (fault : Fault) (db : Db) (vm : Vm) : PeerOperation → Outcome
  | .create name publicKey allocation =>
      match createPeer ⟨publicKey, allocation, .ok (), .ok ()⟩ db gatewayId name, readyGateway db gatewayId with
      | .ok created, .ok gateway => createCalls fault db created vm gateway publicKey
      | .error (error, _), _ | .ok _, .error error => ⟨vm, db, some error⟩
  | .delete peerId =>
      match deletePeer db peerId with
      | .error error => ⟨vm, db, some error⟩
      | .ok (after, peer) => deleteCalls fault db after vm peer
  | .regenerate peerId publicKey =>
      match peerOnReadyGateway db peerId, readyGateway db gatewayId with
      | .ok peer, .ok gateway => regenerateCalls fault db vm gateway peerId peer publicKey
      | .error error, _ | .ok _, .error error => ⟨vm, db, some error⟩

def Taken (db : Db) (publicKey : String) : Prop := ∃ id peer, db.peers.get id = some peer ∧ peer.publicKey = publicKey

def HasWorker (gatewayId : Nat) (db : Db) : Prop :=
  ∃ gateway, db.gateways.get gatewayId = some gateway ∧ (db.workers.get gateway.workerId).isSome

/-- The operation raises before it calls the VM. -/
def Refused (gatewayId : Nat) (db : Db) : PeerOperation → Prop
  | .create _ publicKey allocation =>
      (∃ error, readyGateway db gatewayId = .error error) ∨ (∃ entry, entry ∈ listByGateway db gatewayId) ∨
        (∃ gateway error, db.gateways.get gatewayId = some gateway ∧
          Wg.allocatePeerIp db gatewayId gateway allocation = .error error) ∨ Taken db publicKey
  | .delete peerId | .regenerate peerId _ => db.peers.get peerId = none ∨ ∃ error, readyGateway db gatewayId = .error error

/-- The failing call is none the operation makes, one whose failure it passes over, or a first request that the agent
did not carry out. A regeneration that draws the key the peer already has may also fail later. -/
def KeepsKeys (gatewayId : Nat) (fault : Fault) (db : Db) : PeerOperation → Prop
  | .create .. => fault = .request 0 false ∨
      HasWorker gatewayId db ∧ (fault = .read false ∨ ∃ index applied, fault = .request (index + 1) applied)
  | .delete peerId => ∃ peer, db.peers.get peerId = some peer ∧ (¬ Removable peer.publicKey ∨ fault ≠ .request 0 true)
  | .regenerate peerId publicKey => ∃ peer, db.peers.get peerId = some peer ∧
      (¬ Removable peer.publicKey ∨ fault = .request 0 false ∨
        publicKey = peer.publicKey ∧ fault ≠ .request 0 true ∧ fault ≠ .request 1 false ∨
        HasWorker gatewayId db ∧ ¬ Taken db publicKey ∧ ∀ applied, fault ≠ .request 0 applied ∧ fault ≠ .request 1 applied)

/-! ### Keys in the database and on the interface -/

def KeysAgree (gatewayId : Nat) (db : Db) (wg0 : List String) : Prop :=
  ∀ publicKey, publicKey ∈ wg0 ↔ HoldsKey gatewayId db publicKey

/-- The peer of the operation, if it exists, is one of this gateway. -/
def PeerOperation.OnGateway (gatewayId : Nat) (db : Db) : PeerOperation → Prop
  | .create .. => True
  | .delete peerId | .regenerate peerId _ => ∀ peer, db.peers.get peerId = some peer → peer.gatewayId = gatewayId

/-- What a raise with the session rolled back leaves. -/
def Restored (gatewayId : Nat) (outcome : Outcome) : Prop :=
  ∀ error, outcome.raised = some error → KeysAgree gatewayId outcome.db outcome.vm.wg0

theorem restored_of_returned {gatewayId : Nat} {vm : Vm} {db : Db} : Restored gatewayId ⟨vm, db, none⟩ := by
  intro error raised
  cases raised

theorem restored_iff_of_raised {gatewayId : Nat} {vm : Vm} {db : Db} {error : PyError} :
    Restored gatewayId ⟨vm, db, some error⟩ ↔ KeysAgree gatewayId db vm.wg0 :=
  ⟨fun restored => restored error rfl, fun agree _ _ => agree⟩

theorem not_agree_of_untaken {gatewayId : Nat} {db : Db} {wg0 : List String} {publicKey : String}
    (untaken : ¬ Taken db publicKey) (configured : publicKey ∈ wg0) : ¬ KeysAgree gatewayId db wg0 := by
  intro agree
  obtain ⟨id, peer, present, -, same⟩ := (agree publicKey).mp configured
  exact untaken ⟨id, peer, present, same⟩

theorem not_agree_of_missing {gatewayId peerId : Nat} {db : Db} {wg0 : List String} {peer : Peer}
    (present : db.peers.get peerId = some peer) (own : peer.gatewayId = gatewayId) (missing : peer.publicKey ∉ wg0) :
    ¬ KeysAgree gatewayId db wg0 := by
  intro agree
  exact missing ((agree peer.publicKey).mpr ⟨peerId, peer, present, own, rfl⟩)

/-- Taking a key off the interface and putting it back changes nothing. -/
theorem agree_of_same_key {gatewayId : Nat} {db : Db} {wg0 : List String} {publicKey : String}
    (agree : KeysAgree gatewayId db wg0) (configured : publicKey ∈ wg0) :
    KeysAgree gatewayId db (addPeer (removePeer wg0 publicKey) publicKey) := by
  intro other
  rw [← agree other, mem_addPeer, mem_removePeer]
  constructor
  · intro member
    rcases member with ⟨older, -⟩ | same
    · exact older
    · exact same ▸ configured
  · intro member
    by_cases same : other = publicKey
    · exact .inr same
    · exact .inl ⟨member, same⟩

/-! ### The calls one by one -/

theorem agentRequest_passes {fault : Fault} {index : Nat} (passes : ∀ applied, fault ≠ .request index applied)
    (change : List String → List String) (wg0 : List String) :
    agentRequest fault index change wg0 = (change wg0, .ok ()) := by
  cases fault with
  | request failing applied =>
      have other : failing ≠ index := by
        intro same
        exact passes applied (by rw [same])
      simp only [agentRequest, if_neg other]
  | read timedOut => rfl
  | push written => rfl

theorem agentRequest_fails (index : Nat) (applied : Bool) (change : List String → List String) (wg0 : List String) :
    ∃ error, agentRequest (.request index applied) index change wg0 = (if applied then change wg0 else wg0, .error error) :=
  ⟨_, if_pos rfl⟩

/-- A removal is not carried out, is carried out without the caller's knowing, or succeeds. -/
theorem removal_cases (fault : Fault) (publicKey : String) (wg0 : List String) :
    (¬ Removable publicKey ∨ fault = .request 0 false) ∧ (∃ error, removal fault publicKey wg0 = (wg0, .error error)) ∨
      Removable publicKey ∧ fault = .request 0 true ∧
        (∃ error, removal fault publicKey wg0 = (removePeer wg0 publicKey, .error error)) ∨
      Removable publicKey ∧ (∀ applied, fault ≠ .request 0 applied) ∧
        removal fault publicKey wg0 = (removePeer wg0 publicKey, .ok ()) := by
  unfold removal
  by_cases routed : Removable publicKey
  · simp only [if_pos routed]
    by_cases first : ∃ applied, fault = .request 0 applied
    · obtain ⟨applied, rfl⟩ := first
      have failed := agentRequest_fails 0 applied (removePeer · publicKey) wg0
      cases applied with
      | false => exact .inl ⟨.inr rfl, failed⟩
      | true => exact .inr (.inl ⟨routed, rfl, failed⟩)
    · have passes : ∀ applied, fault ≠ .request 0 applied := fun applied same => first ⟨applied, same⟩
      exact .inr (.inr ⟨routed, passes, agentRequest_passes passes _ _⟩)
  · rw [if_neg routed]
    exact .inl ⟨.inl routed, _, rfl⟩

theorem getEndpoint_error_iff {gatewayId : Nat} {db : Db} {gateway : Gateway}
    (found : db.gateways.get gatewayId = some gateway) :
    (∃ error, getEndpoint db gateway = .error error) ↔ ¬ HasWorker gatewayId db := by
  unfold getEndpoint HasWorker
  rw [found]
  cases assigned : db.workers.get gateway.workerId <;> simp [assigned]

theorem createPeer_ok_iff (gatewayId allocation : Nat) (db : Db) (name publicKey : String) :
    (∃ created, createPeer ⟨publicKey, allocation, .ok (), .ok ()⟩ db gatewayId name = .ok created) ↔
      ¬ Refused gatewayId db (.create name publicKey allocation) := by
  constructor
  · intro accepted refused
    obtain ⟨created, result⟩ := accepted
    obtain ⟨gateway, allocated, address, ready, first, allocation, insertion⟩ := createPeer_steps result
    rcases refused with ⟨error, unready⟩ | ⟨⟨id, row⟩, member⟩ | ⟨other, error, found, exhausted⟩ | ⟨id, row, present, same⟩
    · rw [ready] at unready
      cases unready
    · obtain ⟨present, own⟩ := mem_listByGateway.mp member
      exact first id row present own
    · have located := get_of_readyGateway ready
      rw [found] at located
      cases located
      rw [exhausted] at allocation
      cases allocation
    · have tables := Wg.allocatePeerIp_tables allocation
      have kept : allocated.peers = db.peers := by rw [tables]
      obtain ⟨-, unique⟩ := insertPeer_ok insertion
      exact unique id row (by rw [kept, present]) same
  · intro accepted
    simp only [Refused, not_or] at accepted
    obtain ⟨ready, alone, room, untaken⟩ := accepted
    unfold createPeer
    cases located : readyGateway db gatewayId with
    | error error => exact absurd ⟨error, located⟩ ready
    | ok gateway =>
        have none : listByGateway db gatewayId = [] := List.eq_nil_iff_forall_not_mem.mpr fun entry member =>
          alone ⟨entry, member⟩
        cases allotted : Wg.allocatePeerIp db gatewayId gateway allocation with
        | error error => exact absurd ⟨gateway, error, get_of_readyGateway located, allotted⟩ room
        | ok pair =>
            obtain ⟨allocated, address⟩ := pair
            have tables := Wg.allocatePeerIp_tables allotted
            have kept : allocated.peers = db.peers := by rw [tables]
            have unique : ¬ (allocated.peers.toList.any fun entry => entry.2.publicKey = publicKey) = true := by
              intro clash
              obtain ⟨⟨id, row⟩, member, same⟩ := List.any_eq_true.mp clash
              rw [kept] at member
              exact untaken ⟨id, row, Table.mem_toList.mp member, of_decide_eq_true same⟩
            have inserted : insertPeer allocated ⟨gatewayId, name, publicKey, address, false⟩ = .ok _ := if_neg unique
            simp [none, maxPeersPerGateway, allotted, inserted]

/-- Once the key is on the interface, a creation either returns or leaves it there. -/
theorem createCalls_added {gatewayId : Nat} {fault : Fault} {db : Db} {gateway : Gateway}
    (found : db.gateways.get gatewayId = some gateway) (added : ∀ applied, fault ≠ .request 0 applied) (created : Db)
    (vm : Vm) (publicKey : String) :
    ∃ exitEnv,
      (HasWorker gatewayId db ∧ (fault = .read false ∨ ∃ index applied, fault = .request (index + 1) applied)) ∧
        createCalls fault db created vm gateway publicKey =
          ⟨{ vm with wg0 := addPeer vm.wg0 publicKey, exitEnv }, created, none⟩ ∨
      ¬ (HasWorker gatewayId db ∧ (fault = .read false ∨ ∃ index applied, fault = .request (index + 1) applied)) ∧
        ∃ error, createCalls fault db created vm gateway publicKey =
          ⟨{ vm with wg0 := addPeer vm.wg0 publicKey, exitEnv }, db, some error⟩ := by
  have passed := agentRequest_passes added (addPeer · publicKey) vm.wg0
  unfold createCalls HasWorker
  rw [passed, found]
  unfold uplinkCalls getEndpoint
  cases assigned : db.workers.get gateway.workerId with
  | none => simp [assigned]
  | some worker =>
      cases fault with
      | read timedOut => cases timedOut <;> simp [assigned]
      | push written => simp [assigned]
      | request index applied =>
          cases index with
          | zero => exact absurd rfl (added applied)
          | succ index => simp [assigned]

theorem restored_create_iff {gatewayId : Nat} {fault : Fault} {db : Db} {vm : Vm} {gateway : Gateway}
    {publicKey : String} (found : db.gateways.get gatewayId = some gateway) (agree : KeysAgree gatewayId db vm.wg0)
    (untaken : ¬ Taken db publicKey) (created : Db) :
    Restored gatewayId (createCalls fault db created vm gateway publicKey) ↔ fault = .request 0 false ∨
      HasWorker gatewayId db ∧ (fault = .read false ∨ ∃ index applied, fault = .request (index + 1) applied) := by
  have lost : ¬ KeysAgree gatewayId db (addPeer vm.wg0 publicKey) :=
    not_agree_of_untaken untaken (mem_addPeer.mpr (.inr rfl))
  by_cases first : ∃ applied, fault = .request 0 applied
  · obtain ⟨applied, rfl⟩ := first
    obtain ⟨error, failed⟩ := agentRequest_fails 0 applied (addPeer · publicKey) vm.wg0
    unfold createCalls
    rw [failed, restored_iff_of_raised]
    cases applied with
    | false => simpa using agree
    | true => simpa using lost
  · have added : ∀ applied, fault ≠ .request 0 applied := fun applied same => first ⟨applied, same⟩
    obtain ⟨exitEnv, ⟨passed, returned⟩ | ⟨stopped, error, raised⟩⟩ := createCalls_added found added created vm publicKey
    · rw [returned]
      exact iff_of_true restored_of_returned (.inr passed)
    · rw [raised, restored_iff_of_raised]
      exact iff_of_false lost fun kept => kept.elim (added false) stopped

theorem restored_delete_iff {gatewayId peerId : Nat} {fault : Fault} {db : Db} {vm : Vm} {peer : Peer}
    (agree : KeysAgree gatewayId db vm.wg0) (present : db.peers.get peerId = some peer) (own : peer.gatewayId = gatewayId)
    (after : Db) :
    Restored gatewayId (deleteCalls fault db after vm peer) ↔ ¬ Removable peer.publicKey ∨ fault ≠ .request 0 true := by
  unfold deleteCalls
  rcases removal_cases fault peer.publicKey vm.wg0 with
    ⟨unsent, error, failed⟩ | ⟨routed, rfl, error, failed⟩ | ⟨routed, passes, removed⟩
  · rw [failed, restored_iff_of_raised]
    refine iff_of_true agree (unsent.imp_right ?_)
    intro unapplied
    simp [unapplied]
  · rw [failed, restored_iff_of_raised]
    refine iff_of_false (not_agree_of_missing present own fun member => (mem_removePeer.mp member).2 rfl) ?_
    simp [routed]
  · rw [removed]
    exact iff_of_true restored_of_returned (.inr (passes true))

/-- What a regeneration leaves whose calls were all carried out. -/
theorem swapped_agree_iff {gatewayId peerId : Nat} {db : Db} {wg0 : List String} {peer : Peer}
    (agree : KeysAgree gatewayId db wg0) (present : db.peers.get peerId = some peer) (own : peer.gatewayId = gatewayId)
    (publicKey : String) :
    KeysAgree gatewayId db (addPeer (removePeer wg0 peer.publicKey) publicKey) ↔ publicKey = peer.publicKey := by
  constructor
  · intro swapped
    have kept := (swapped peer.publicKey).mpr ⟨peerId, peer, present, own, rfl⟩
    rw [mem_addPeer, mem_removePeer] at kept
    rcases kept with ⟨-, other⟩ | same
    · exact absurd rfl other
    · exact same.symm
  · intro same
    rw [same]
    exact agree_of_same_key agree ((agree peer.publicKey).mpr ⟨peerId, peer, present, own, rfl⟩)

theorem regeneratePeerKeys_ok_iff {db : Db} {peerId : Nat} {peer : Peer}
    (located : peerOnReadyGateway db peerId = .ok peer) (publicKey : String) :
    (∃ result, regeneratePeerKeys db peerId publicKey = .ok result) ↔
      ∀ id row, db.peers.get id = some row → row.publicKey = publicKey → id = peerId := by
  unfold regeneratePeerKeys
  rw [located]
  dsimp only
  split
  · rename_i taken
    obtain ⟨⟨id, row⟩, member, clash⟩ := List.any_eq_true.mp taken
    simp only [Bool.and_eq_true, decide_eq_true_eq] at clash
    apply iff_of_false (by simp)
    intro alone
    exact clash.1 (alone id row (Table.mem_toList.mp member) clash.2)
  · rename_i free
    refine iff_of_true ⟨_, rfl⟩ ?_
    intro id row present same
    by_contra other
    exact free (List.any_eq_true.mpr ⟨(id, row), Table.mem_toList.mpr present, by simp [other, same]⟩)

/-- Past both requests, the write of the new key and `get_endpoint` decide. -/
theorem regenerateCalls_requested {gatewayId peerId : Nat} {fault : Fault} {db : Db} {vm : Vm} {gateway : Gateway}
    {peer : Peer} (found : db.gateways.get gatewayId = some gateway)
    (located : peerOnReadyGateway db peerId = .ok peer)
    (removed : removal fault peer.publicKey vm.wg0 = (removePeer vm.wg0 peer.publicKey, .ok ()))
    (passes : ∀ applied, fault ≠ .request 1 applied) (publicKey : String) :
    (∃ changed after, regenerateCalls fault db vm gateway peerId peer publicKey = ⟨changed, after, none⟩) ∧
        HasWorker gatewayId db ∧ (∀ id row, db.peers.get id = some row → row.publicKey = publicKey → id = peerId) ∨
      (∃ error, regenerateCalls fault db vm gateway peerId peer publicKey =
          ⟨{ vm with wg0 := addPeer (removePeer vm.wg0 peer.publicKey) publicKey }, db, some error⟩) ∧
        ¬ (HasWorker gatewayId db ∧ ∀ id row, db.peers.get id = some row → row.publicKey = publicKey → id = peerId) := by
  have added := agentRequest_passes passes (addPeer · publicKey) (removePeer vm.wg0 peer.publicKey)
  have written := regeneratePeerKeys_ok_iff located publicKey
  have served := getEndpoint_error_iff found
  unfold regenerateCalls
  rw [removed]
  dsimp only
  rw [added]
  cases renewed : regeneratePeerKeys db peerId publicKey with
  | error error =>
      rw [renewed] at written
      refine .inr ⟨⟨error, rfl⟩, fun both => ?_⟩
      obtain ⟨result, impossible⟩ := written.mpr both.2
      cases impossible
  | ok result =>
      have alone := written.mp ⟨result, renewed⟩
      cases endpoint : getEndpoint db gateway with
      | error error => exact .inr ⟨⟨error, rfl⟩, fun both => served.mp ⟨error, endpoint⟩ both.1⟩
      | ok worker =>
          refine .inl ⟨⟨_, _, rfl⟩, ?_, alone⟩
          by_contra absent
          obtain ⟨error, impossible⟩ := served.mpr absent
          rw [endpoint] at impossible
          cases impossible

theorem restored_regenerate_iff {gatewayId peerId : Nat} {fault : Fault} {db : Db} {vm : Vm} {gateway : Gateway}
    {peer : Peer} {publicKey : String} (agree : KeysAgree gatewayId db vm.wg0)
    (found : db.gateways.get gatewayId = some gateway) (located : peerOnReadyGateway db peerId = .ok peer)
    (own : peer.gatewayId = gatewayId) :
    Restored gatewayId (regenerateCalls fault db vm gateway peerId peer publicKey) ↔
      ¬ Removable peer.publicKey ∨ fault = .request 0 false ∨
        publicKey = peer.publicKey ∧ fault ≠ .request 0 true ∧ fault ≠ .request 1 false ∨
        HasWorker gatewayId db ∧ ¬ Taken db publicKey ∧ ∀ applied, fault ≠ .request 0 applied ∧ fault ≠ .request 1 applied := by
  have present := peerOnReadyGateway_ok located
  have lost : ¬ KeysAgree gatewayId db (removePeer vm.wg0 peer.publicKey) :=
    not_agree_of_missing present own fun member => (mem_removePeer.mp member).2 rfl
  have swapped := swapped_agree_iff agree present own publicKey
  rcases removal_cases fault peer.publicKey vm.wg0 with
    ⟨unsent, error, failed⟩ | ⟨routed, rfl, error, failed⟩ | ⟨routed, passes, removed⟩
  · unfold regenerateCalls
    rw [failed, restored_iff_of_raised]
    exact iff_of_true agree (unsent.imp_right .inl)
  · unfold regenerateCalls
    rw [failed, restored_iff_of_raised]
    apply iff_of_false lost
    simp [routed]
  · by_cases second : ∃ applied, fault = .request 1 applied
    · obtain ⟨applied, rfl⟩ := second
      obtain ⟨error, failed⟩ := agentRequest_fails 1 applied (addPeer · publicKey) (removePeer vm.wg0 peer.publicKey)
      unfold regenerateCalls
      rw [removed]
      dsimp only
      rw [failed, restored_iff_of_raised]
      cases applied with
      | false => simpa [routed] using lost
      | true => simpa [routed] using swapped
    · have added : ∀ applied, fault ≠ .request 1 applied := fun applied same => second ⟨applied, same⟩
      rcases regenerateCalls_requested found located removed added publicKey with
        ⟨⟨changed, after, returned⟩, worker, alone⟩ | ⟨⟨error, raised⟩, unfinished⟩
      · rw [returned]
        refine iff_of_true restored_of_returned (.inr (.inr ?_))
        by_cases taken : Taken db publicKey
        · obtain ⟨id, row, held, same⟩ := taken
          have mine := alone id row held same
          rw [mine, present] at held
          cases held
          exact .inl ⟨same.symm, passes true, added false⟩
        · exact .inr ⟨worker, taken, fun applied => ⟨passes applied, added applied⟩⟩
      · rw [raised, restored_iff_of_raised, swapped]
        constructor
        · intro same
          exact .inr (.inr (.inl ⟨same, passes true, added false⟩))
        · intro kept
          rcases kept with unsent | unapplied | ⟨same, -⟩ | ⟨worker, untaken, -⟩
          · exact absurd routed unsent
          · exact absurd unapplied (passes false)
          · exact same
          · exact absurd ⟨worker, fun id row held same => absurd ⟨id, row, held, same⟩ untaken⟩ unfinished

theorem peerOnReadyGateway_ok_iff {gatewayId peerId : Nat} {db : Db}
    (own : ∀ peer, db.peers.get peerId = some peer → peer.gatewayId = gatewayId) :
    (∃ peer, peerOnReadyGateway db peerId = .ok peer) ↔
      ¬ (db.peers.get peerId = none ∨ ∃ error, readyGateway db gatewayId = .error error) := by
  unfold peerOnReadyGateway
  cases present : db.peers.get peerId with
  | none => simp
  | some peer =>
      dsimp only
      rw [own peer present]
      cases readyGateway db gatewayId with
      | error error => simp [Except.map]
      | ok gateway => simp [Except.map]

/-- An operation that raises leaves the keys of the database on the interface exactly when nothing was carried out,
or when what was carried out put them back. -/
theorem peer_keys_restored_iff (gatewayId : Nat) (fault : Fault) (db : Db) (vm : Vm) (operation : PeerOperation)
    (agree : KeysAgree gatewayId db vm.wg0) (own : operation.OnGateway gatewayId db) :
    Restored gatewayId (perform gatewayId fault db vm operation) ↔
      Refused gatewayId db operation ∨ KeepsKeys gatewayId fault db operation := by
  cases operation with
  | create name publicKey allocation =>
      have accepted := createPeer_ok_iff gatewayId allocation db name publicKey
      cases result : createPeer ⟨publicKey, allocation, .ok (), .ok ()⟩ db gatewayId name with
      | error refusal =>
          have refused : Refused gatewayId db (.create name publicKey allocation) := by
            by_contra admitted
            obtain ⟨created, impossible⟩ := accepted.mpr admitted
            rw [result] at impossible
            cases impossible
          simp only [perform, result]
          exact iff_of_true (restored_iff_of_raised.mpr agree) (.inl refused)
      | ok created =>
          have admitted := accepted.mp ⟨created, result⟩
          have untaken : ¬ Taken db publicKey := fun taken => admitted (.inr (.inr (.inr taken)))
          obtain ⟨gateway, -, -, ready, -⟩ := createPeer_steps result
          simp only [perform, result, ready]
          rw [restored_create_iff (get_of_readyGateway ready) agree untaken created]
          exact (or_iff_right admitted).symm
  | delete peerId =>
      have accepted := peerOnReadyGateway_ok_iff own
      cases located : peerOnReadyGateway db peerId with
      | error error =>
          have refused : Refused gatewayId db (.delete peerId) := by
            by_contra admitted
            obtain ⟨peer, impossible⟩ := accepted.mpr admitted
            rw [located] at impossible
            cases impossible
          simp only [perform, deletePeer, located, Except.map]
          exact iff_of_true (restored_iff_of_raised.mpr agree) (.inl refused)
      | ok peer =>
          have admitted : ¬ Refused gatewayId db (.delete peerId) := accepted.mp ⟨peer, located⟩
          have present := peerOnReadyGateway_ok located
          simp only [perform, deletePeer, located, Except.map]
          rw [restored_delete_iff agree present (own peer present), or_iff_right admitted]
          simp [KeepsKeys, present]
  | regenerate peerId publicKey =>
      have accepted := peerOnReadyGateway_ok_iff own
      cases located : peerOnReadyGateway db peerId with
      | error error =>
          have refused : Refused gatewayId db (.regenerate peerId publicKey) := by
            by_contra admitted
            obtain ⟨peer, impossible⟩ := accepted.mpr admitted
            rw [located] at impossible
            cases impossible
          simp only [perform, located]
          exact iff_of_true (restored_iff_of_raised.mpr agree) (.inl refused)
      | ok peer =>
          have admitted : ¬ Refused gatewayId db (.regenerate peerId publicKey) := accepted.mp ⟨peer, located⟩
          have present := peerOnReadyGateway_ok located
          cases ready : readyGateway db gatewayId with
          | error error => exact absurd (.inr ⟨error, ready⟩) admitted
          | ok gateway =>
              simp only [perform, located, ready]
              rw [restored_regenerate_iff agree (get_of_readyGateway ready) located (own peer present),
                or_iff_right admitted]
              simp [KeepsKeys, present]

/-! ### A key that is lost -/

theorem createdPeer_agrees : KeysAgree 1 createdPeer.db createdPeer.vm.wg0 := by
  have configured : createdPeer.vm.wg0 = [firstPeer.publicKey] := rfl
  have held : createdPeer.db.peers.toList = [(1, firstPeer)] := rfl
  intro publicKey
  rw [configured, List.mem_singleton]
  constructor
  · intro same
    exact ⟨1, firstPeer, firstPeer_get, rfl, same.symm⟩
  · intro holds
    obtain ⟨id, peer, present, -, same⟩ := holds
    have member := Table.mem_toList.mpr present
    rw [held, List.mem_singleton] at member
    cases member
    exact same.symm

theorem createdPeer_own : (PeerOperation.regenerate 1 (repeatedKey 1).b64Encode).OnGateway 1 createdPeer.db := by
  intro peer present
  rw [firstPeer_get] at present
  cases present
  rfl

/-- The agent removes the old key and then fails to add the new one: the database keeps a key the interface lost. -/
theorem regeneration_loses_key :
    ∃ db vm fault operation, KeysAgree 1 db vm.wg0 ∧ operation.OnGateway 1 db ∧
      ¬ Restored 1 (perform 1 fault db vm operation) := by
  refine ⟨createdPeer.db, createdPeer.vm, .request 1 false, .regenerate 1 (repeatedKey 1).b64Encode, createdPeer_agrees,
    createdPeer_own, ?_⟩
  intro restored
  have emptied : perform 1 (.request 1 false) createdPeer.db createdPeer.vm (.regenerate 1 (repeatedKey 1).b64Encode) =
      ⟨{ createdPeer.vm with wg0 := [] }, createdPeer.db, some (.other "incus agent request failed")⟩ := rfl
  rw [emptied, restored_iff_of_raised] at restored
  exact not_agree_of_missing firstPeer_get rfl List.not_mem_nil restored

theorem unsent_removal_keeps_key :
    Restored 1 (perform 1 (.request 0 false) createdPeer.db createdPeer.vm (.regenerate 1 (repeatedKey 1).b64Encode)) :=
  (peer_keys_restored_iff 1 (.request 0 false) createdPeer.db createdPeer.vm (.regenerate 1 (repeatedKey 1).b64Encode)
    createdPeer_agrees createdPeer_own).mpr (.inr ⟨firstPeer, firstPeer_get, .inr (.inl rfl)⟩)

end DeepOrc.Backhaul

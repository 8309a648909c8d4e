import DeepOrc.Backhaul.Keys

/-!
# The collector applies missing peers again

The metrics collector compares the interface's peers with the rows that are not suspended, and where one is missing it
adds them all again. Runs here have its polls between the operations on the gateway, whichever calls of a poll fail. The
calls of the operations succeed.
-/

namespace DeepOrc.Backhaul

open Models Services Agent
open Lib (Reaches Table)

def activePeers (db : Db) (gatewayId : Nat) : List Peer :=
  ((listByGateway db gatewayId).map Prod.snd).filter fun peer => !peer.suspended

def activeKeys (db : Db) (gatewayId : Nat) : List String := (activePeers db gatewayId).map Peer.publicKey

/-- How the calls of a poll end: whether the agent lists the peers of the interface, how many peers it adds up to a call
that fails, if one does, and whether `exit.env` is read and written back. A call that fails may have added its peer. -/
structure PollCalls where
  listed : Bool
  added : Option Nat
  written : Bool

def PollCalls.succeeding : PollCalls := ⟨true, none, true⟩

/-- `resync_gateway_peers` -/
def resyncGatewayPeers (calls : PollCalls) (gatewayId : Nat) (s : State) : State :=
  match readyGateway s.db gatewayId with
  | .error _ => s
  | .ok gateway =>
      match calls.added with
      | some count =>
          -- `add_peer` raises, and the environment file is not reached.
          { s with vm := { s.vm with wg0 := ((activeKeys s.db gatewayId).take count).foldl addPeer s.vm.wg0 } }
      | none =>
          { s with vm := { s.vm with
              wg0 := (activeKeys s.db gatewayId).foldl addPeer s.vm.wg0
              exitEnv :=
                match (activeKeys s.db gatewayId).getLast?.filter fun _ => calls.written with
                | some uplinkPubkey => setGatewayUplinkPeer s.db gateway uplinkPubkey s.vm.exitEnv
                | none => s.vm.exitEnv } }

/-- What `collect_metrics` does to the peers of a gateway; what a call raises is logged. -/
def pollStep (calls : PollCalls) (gatewayId : Nat) (s : State) : State :=
  match readyGateway s.db gatewayId with
  | .error _ => s
  | .ok _ =>
      if calls.listed && (activeKeys s.db gatewayId).any fun publicKey => publicKey ∉ s.vm.wg0 then
        resyncGatewayPeers calls gatewayId s
      else s

inductive Watched where
  | operation (event : Event)
  | poll (calls : PollCalls)

def stepWatched (gatewayId : Nat) (s : State) : Watched → Option State
  | .operation event => step gatewayId s event
  | .poll calls => some (pollStep calls gatewayId s)

def State.rebooted (s : State) : State := { s with vm := s.vm.reboot }

/-! ### What every run keeps -/

/-- The gateway's worker is there, and its peers have keys that were generated. -/
structure Keyed (gatewayId : Nat) (db : Db) : Prop where
  worker : ∀ gateway, db.gateways.get gatewayId = some gateway → (db.workers.get gateway.workerId).isSome
  generated : ∀ id row, db.peers.get id = some row → row.gatewayId = gatewayId →
    ∃ key : WireGuardKey, row.publicKey = key.b64Encode

theorem keyed_initial {gatewayId : Nat} {s : State} (initial : Initial gatewayId s) : Keyed gatewayId s.db where
  worker := initial.worker
  generated := fun id row present own => absurd own (initial.peers id row present)

theorem keyed_setSuspended {gatewayId : Nat} {db : Db} (keyed : Keyed gatewayId db) (peerId : Nat) (mark : Bool) :
    Keyed gatewayId (setSuspended db peerId mark) where
  worker := keyed.worker
  generated := by
    intro id row present own
    obtain ⟨before, found, rfl⟩ := Table.get_modify_some present
    by_cases changed : id = peerId
    · rw [if_pos changed] at own ⊢
      exact keyed.generated id before found own
    · rw [if_neg changed] at own ⊢
      exact keyed.generated id before found own

theorem keyed_step {gatewayId : Nat} {s t : State} {event : Event} (keyed : Keyed gatewayId s.db)
    (stepped : step gatewayId s event = some t) : Keyed gatewayId t.db := by
  cases step_effect stepped with
  | none same =>
      rw [same]
      exact keyed
  | @created name key allocation calls gateway peer called present vm mark =>
      rw [peer.same]
      refine ⟨keyed.worker, fun id row found own => ?_⟩
      have inserted : (s.db.peers.insert ⟨gatewayId, name, calls.publicKey, peer.address, false⟩).get id = some row :=
        found
      rw [Table.get_insert] at inserted
      split at inserted
      · obtain rfl := Option.some.inj inserted
        exact ⟨key, called⟩
      · exact keyed.generated id row inserted own
  | @regenerated peerId key peer present own db vm mark =>
      rw [db]
      refine ⟨keyed.worker, fun id row found mine => ?_⟩
      obtain ⟨before, older, rfl⟩ := Table.get_modify_some found
      by_cases changed : id = peerId
      · rw [if_pos changed]
        exact ⟨key, rfl⟩
      · rw [if_neg changed] at mine ⊢
        exact keyed.generated id before older mine
  | collided _ _ _ db _ =>
      rw [db]
      exact keyed
  | deleted present own db vm mark =>
      rw [db]
      exact ⟨keyed.worker, fun id row found mine => keyed.generated id row (Table.get_delete_some found).2 mine⟩
  | @suspended peerId peer present own after =>
      rw [after]
      exact keyed_setSuspended keyed peerId true
  | @resumed peerId peer present own after =>
      rw [after]
      exact keyed_setSuspended keyed peerId false
  | rebooted after =>
      rw [after]
      exact keyed

theorem db_resyncGatewayPeers (calls : PollCalls) (gatewayId : Nat) (s : State) :
    (resyncGatewayPeers calls gatewayId s).db = s.db := by
  unfold resyncGatewayPeers
  split
  · rfl
  · split
    · rfl
    · rfl

theorem db_pollStep (calls : PollCalls) (gatewayId : Nat) (s : State) : (pollStep calls gatewayId s).db = s.db := by
  unfold pollStep
  split
  · rfl
  · split
    · exact db_resyncGatewayPeers calls gatewayId s
    · rfl

theorem keyed_reaches {gatewayId : Nat} {start s : State} (initial : Initial gatewayId start)
    (reached : Reaches (stepWatched gatewayId) (fun _ _ => True) start s) : Keyed gatewayId s.db := by
  refine @Reaches.invariant _ _ _ _ _ _ (fun s => Keyed gatewayId s.db) reached (keyed_initial initial) ?_
  intro s event t keyed _ stepped
  cases event with
  | operation event => exact keyed_step keyed stepped
  | poll calls =>
      obtain rfl := Option.some.inj stepped
      rw [db_pollStep]
      exact keyed

/-! ### What a poll does -/

theorem mem_foldl_addPeer {keys wg0 : List String} {publicKey : String} :
    publicKey ∈ keys.foldl addPeer wg0 ↔ publicKey ∈ wg0 ∨ publicKey ∈ keys := by
  induction keys generalizing wg0 with
  | nil => simp
  | cons key keys ih =>
      rw [List.foldl_cons, ih, mem_addPeer, List.mem_cons, or_assoc]

theorem generated_of_active {gatewayId : Nat} {db : Db} (keyed : Keyed gatewayId db) {peer : Peer}
    (listed : peer ∈ activePeers db gatewayId) :
    ∃ key : WireGuardKey, peer.publicKey = key.b64Encode := by
  obtain ⟨entry, among, rfl⟩ := List.mem_map.mp (List.mem_of_mem_filter listed)
  obtain ⟨stored, own⟩ := List.mem_filter.mp among
  exact keyed.generated entry.1 entry.2 (Table.mem_toList.mp stored) (of_decide_eq_true own)

theorem activeKey_ne_nil {gatewayId : Nat} {db : Db} (keyed : Keyed gatewayId db) {peer : Peer}
    (listed : peer ∈ activePeers db gatewayId) : peer.publicKey.toList ≠ [] := by
  obtain ⟨key, generated⟩ := generated_of_active keyed listed
  rw [generated]
  exact key.toList_b64Encode_ne_nil

section Poll

variable {gatewayId : Nat} {s : State} {gateway : Gateway} (ready : readyGateway s.db gatewayId = .ok gateway)

include ready

theorem pollStep_missing {calls : PollCalls} (listed : calls.listed = true)
    (missing : ∃ publicKey ∈ activeKeys s.db gatewayId, publicKey ∉ s.vm.wg0) :
    pollStep calls gatewayId s = resyncGatewayPeers calls gatewayId s := by
  obtain ⟨publicKey, active, absent⟩ := missing
  have found : (activeKeys s.db gatewayId).any (fun publicKey => publicKey ∉ s.vm.wg0) = true :=
    List.any_eq_true.mpr ⟨publicKey, active, decide_eq_true absent⟩
  rw [pollStep, ready, listed, Bool.true_and]
  exact if_pos found

/-- Without a missing peer, or where the peers cannot be listed, the poll does nothing. -/
theorem pollStep_idle {calls : PollCalls}
    (idle : calls.listed = false ∨ ∀ publicKey ∈ activeKeys s.db gatewayId, publicKey ∈ s.vm.wg0) :
    pollStep calls gatewayId s = s := by
  have found : ¬ (calls.listed && (activeKeys s.db gatewayId).any fun publicKey => publicKey ∉ s.vm.wg0) = true := by
    rw [Bool.and_eq_true, List.any_eq_true]
    rintro ⟨listed, publicKey, active, absent⟩
    rcases idle with unlisted | complete
    · rw [unlisted] at listed
      cases listed
    · exact of_decide_eq_true absent (complete publicKey active)
  rw [pollStep, ready]
  exact if_neg found

/-- The peers that a resync adds. -/
theorem wg0_resync (calls : PollCalls) : (resyncGatewayPeers calls gatewayId s).vm.wg0 =
    ((activeKeys s.db gatewayId).take (calls.added.getD (activeKeys s.db gatewayId).length)).foldl addPeer s.vm.wg0 := by
  rw [resyncGatewayPeers, ready]
  cases added : calls.added with
  | some count => rfl
  | none =>
      rw [Option.getD_none, List.take_length]

/-- Whatever fails, no peer is lost, and only peers of the database are added. -/
theorem mem_pollStep_of_failing {calls : PollCalls} {publicKey : String} :
    (publicKey ∈ s.vm.wg0 → publicKey ∈ (pollStep calls gatewayId s).vm.wg0) ∧
      (publicKey ∈ (pollStep calls gatewayId s).vm.wg0 → publicKey ∈ s.vm.wg0 ∨ publicKey ∈ activeKeys s.db gatewayId) := by
  by_cases idle : calls.listed = false ∨ ∀ publicKey ∈ activeKeys s.db gatewayId, publicKey ∈ s.vm.wg0
  · rw [pollStep_idle ready idle]
    exact ⟨id, .inl⟩
  · push Not at idle
    rw [pollStep_missing ready (by simpa using idle.1) idle.2, wg0_resync ready, mem_foldl_addPeer]
    refine ⟨.inl, fun either => either.imp_right fun added => ?_⟩
    exact List.mem_of_mem_take added

theorem mem_pollStep {publicKey : String} : publicKey ∈ (pollStep .succeeding gatewayId s).vm.wg0 ↔
    publicKey ∈ s.vm.wg0 ∨ publicKey ∈ activeKeys s.db gatewayId := by
  by_cases complete : ∀ publicKey ∈ activeKeys s.db gatewayId, publicKey ∈ s.vm.wg0
  · rw [pollStep_idle ready (.inr complete)]
    exact ⟨.inl, fun either => either.elim id (complete publicKey)⟩
  · push Not at complete
    have all : PollCalls.succeeding.added = none := rfl
    rw [pollStep_missing ready rfl complete, wg0_resync ready, all, Option.getD_none, List.take_length, mem_foldl_addPeer]

/-- The key that the resync leaves for the next reboot. -/
theorem uplink_resync (keyed : Keyed gatewayId s.db) {publicKey : String}
    (last : (activeKeys s.db gatewayId).getLast? = some publicKey) :
    Lib.EnvFile.getVariable uplinkPeer (resyncGatewayPeers .succeeding gatewayId s).vm.exitEnv = publicKey.toList := by
  have present := get_of_readyGateway ready
  obtain ⟨worker, assigned⟩ := Option.isSome_iff_exists.mp (keyed.worker gateway present)
  obtain ⟨peer, listed, rfl⟩ := List.mem_map.mp (List.mem_of_getLast? last)
  obtain ⟨key, generated⟩ := generated_of_active keyed listed
  have env : (resyncGatewayPeers .succeeding gatewayId s).vm.exitEnv =
      setGatewayUplinkPeer s.db gateway peer.publicKey s.vm.exitEnv := by
    rw [resyncGatewayPeers, ready]
    simp only [PollCalls.succeeding, last, Option.filter_some, if_true]
  rw [env, generated]
  exact uplink_setGatewayUplinkPeer assigned key s.vm.exitEnv

end Poll

/-! ### Reboots -/

theorem wg0_reboot {vm : Vm} {publicKey : String} (filled : publicKey.toList ≠ [])
    (uplink : Lib.EnvFile.getVariable uplinkPeer vm.exitEnv = publicKey.toList) : vm.reboot.wg0 = [publicKey] := by
  have applied : applyWgPeer vm.exitEnv [] = [publicKey] := by
    unfold applyWgPeer
    simp only [uplink]
    rw [if_pos ⟨filled, trivial⟩, String.ofList_toList]
    rfl
  exact applied

theorem uplink_of_mem_reboot {vm : Vm} {publicKey : String} (member : publicKey ∈ vm.reboot.wg0) :
    Lib.EnvFile.getVariable uplinkPeer vm.exitEnv = publicKey.toList := by
  have applied : publicKey ∈ applyWgPeer vm.exitEnv [] := member
  unfold applyWgPeer at applied
  simp only at applied
  split at applied
  · rw [mem_addPeer] at applied
    rcases applied with none | rfl
    · cases none
    · exact String.toList_ofList.symm
  · cases applied

/-- A key that a reboot brings back is gone after the next one, if a poll succeeds between them. -/
theorem reboot_poll_reboot {gatewayId : Nat} {s : State} {gateway : Gateway}
    (ready : readyGateway s.db gatewayId = .ok gateway) (keyed : Keyed gatewayId s.db)
    (active : activePeers s.db gatewayId ≠ []) :
    ∃ peer ∈ activePeers s.db gatewayId, (pollStep .succeeding gatewayId s.rebooted).vm.reboot.wg0 = [peer.publicKey] := by
  have readyAfter : readyGateway s.rebooted.db gatewayId = .ok gateway := ready
  by_cases complete : ∀ publicKey ∈ activeKeys s.rebooted.db gatewayId, publicKey ∈ s.rebooted.vm.wg0
  · obtain ⟨peer, listed⟩ := List.exists_mem_of_ne_nil _ active
    have key : peer.publicKey ∈ activeKeys s.rebooted.db gatewayId := List.mem_map_of_mem listed
    have uplink := uplink_of_mem_reboot (complete peer.publicKey key)
    rw [pollStep_idle readyAfter (.inr complete)]
    exact ⟨peer, listed, wg0_reboot (activeKey_ne_nil keyed listed) uplink⟩
  · push Not at complete
    have filled : activePeers s.rebooted.db gatewayId ≠ [] := active
    have lastRow := List.getLast?_eq_some_getLast filled
    have lastKey : (activeKeys s.rebooted.db gatewayId).getLast? =
        some ((activePeers s.rebooted.db gatewayId).getLast filled).publicKey := by
      rw [activeKeys, List.getLast?_map, lastRow]
      rfl
    have listed : (activePeers s.rebooted.db gatewayId).getLast filled ∈ activePeers s.db gatewayId :=
      List.getLast_mem filled
    rw [pollStep_missing readyAfter rfl complete]
    exact ⟨_, listed, wg0_reboot (activeKey_ne_nil keyed listed) (uplink_resync readyAfter keyed lastKey)⟩

/-- In any run of operations, reboots and polls, a poll takes no peer from the interface and adds none but the peers that
are not suspended, whichever of its calls fail. One whose calls succeed adds all of these, and two reboots with such a poll
between them leave the interface with one of these alone, whichever keys were revoked before. -/
theorem polls_heal_gateway {gatewayId : Nat} {start s : State} (initial : Initial gatewayId start)
    (reached : Reaches (stepWatched gatewayId) (fun _ _ => True) start s) {gateway : Gateway}
    (ready : readyGateway s.db gatewayId = .ok gateway) :
    (∀ calls publicKey, (publicKey ∈ s.vm.wg0 → publicKey ∈ (pollStep calls gatewayId s).vm.wg0) ∧
        (publicKey ∈ (pollStep calls gatewayId s).vm.wg0 →
          publicKey ∈ s.vm.wg0 ∨ ∃ peer ∈ activePeers s.db gatewayId, peer.publicKey = publicKey)) ∧
      (∀ publicKey, publicKey ∈ (pollStep .succeeding gatewayId s).vm.wg0 ↔
        publicKey ∈ s.vm.wg0 ∨ ∃ peer ∈ activePeers s.db gatewayId, peer.publicKey = publicKey) ∧
      (activePeers s.db gatewayId ≠ [] → ∃ peer ∈ activePeers s.db gatewayId,
        (pollStep .succeeding gatewayId s.rebooted).vm.reboot.wg0 = [peer.publicKey]) := by
  refine ⟨fun calls publicKey => ?_, fun publicKey => ?_, reboot_poll_reboot ready (keyed_reaches initial reached)⟩
  · rw [← List.mem_map]
    exact mem_pollStep_of_failing ready
  · rw [mem_pollStep ready, activeKeys, List.mem_map]

/-- After the first peer's key was regenerated and a poll failed, the second reboot no longer brings the old one back. -/
theorem regenerated_key_gone :
    ∃ s, Reaches (stepWatched 1) (fun _ _ => True) freshGateway s ∧ s.vm.reboot.wg0 = [(repeatedKey 0).b64Encode] ∧
      (pollStep .succeeding 1 s.rebooted).vm.reboot.wg0 = [(repeatedKey 1).b64Encode] := by
  let events : List Watched :=
    [.operation (.create "gw-000-link" (repeatedKey 0) 0), .operation (.regenerate 1 (repeatedKey 1)),
      .poll ⟨false, none, true⟩]
  have ran : (Lib.run (stepWatched 1) (fun _ _ => true) freshGateway events).any (fun s =>
      decide (s.vm.reboot.wg0 = [(repeatedKey 0).b64Encode] ∧
        (activePeers s.db 1).map Peer.publicKey = [(repeatedKey 1).b64Encode] ∧
        (s.db.gateways.get 1).any (fun gateway => gateway.status = .ready))) = true := by decide +kernel
  obtain ⟨s, arrived, facts⟩ := Lib.exists_of_any ran
  obtain ⟨old, keys, up⟩ := of_decide_eq_true facts
  have reached : Reaches (stepWatched 1) (fun _ _ => True) freshGateway s :=
    Lib.reaches_of_run (fun _ _ _ => trivial) arrived
  obtain ⟨gateway, present, status⟩ := Lib.exists_of_any up
  have ready : readyGateway s.db 1 = .ok gateway := by
    rw [readyGateway, present]
    exact if_neg (not_not.mpr (of_decide_eq_true status))
  have active : activePeers s.db 1 ≠ [] := by
    intro none
    rw [none] at keys
    cases keys
  obtain ⟨peer, listed, alone⟩ := (polls_heal_gateway freshGateway_initial reached ready).2.2 active
  have key : peer.publicKey ∈ [(repeatedKey 1).b64Encode] := keys ▸ List.mem_map_of_mem listed
  rw [List.mem_singleton.mp key] at alone
  exact ⟨s, reached, old, alone⟩

end DeepOrc.Backhaul

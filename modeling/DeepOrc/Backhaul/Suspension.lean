import DeepOrc.Backhaul.Keys

/-!
# Suspended peers and drop rules

While the VM stays up, a tunnel address should be dropped exactly while the peer that has it is suspended.
A rule is only ever removed by resuming its peer.
-/

namespace DeepOrc.Backhaul

open Models Services Agent
open Lib (Table Reaches)

def SuspendedAt (gatewayId : Nat) (db : Db) (ip : Nat) : Prop :=
  ∃ id peer, db.peers.get id = some peer ∧ peer.gatewayId = gatewayId ∧ peer.allowedIp = ip ∧ peer.suspended = true

def SuspensionAgrees (gatewayId : Nat) (s : State) : Prop :=
  ∀ ip, dropRule s.vm.suspended ip ↔ SuspendedAt gatewayId s.db ip

/-- The VM stays up, and a suspended peer is not deleted. -/
def NoSuspendedDeletion (s : State) : Event → Prop
  | .reboot => False
  | .delete peerId => ∀ peer, s.db.peers.get peerId = some peer → peer.suspended = false
  | _ => True

structure Agreeing (gatewayId : Nat) (s : State) : Prop where
  single : ∀ first second one other, s.db.peers.get first = some one → s.db.peers.get second = some other →
    one.gatewayId = gatewayId → other.gatewayId = gatewayId → first = second
  agrees : SuspensionAgrees gatewayId s

theorem agreeing_initial {gatewayId : Nat} {s : State} (initial : Initial gatewayId s) : Agreeing gatewayId s where
  single := by
    intro first second one other found _ own _
    exact absurd own (initial.peers first one found)
  agrees := by
    intro ip
    constructor
    · intro rule
      exact absurd rule (initial.rules ip)
    · rintro ⟨id, peer, found, own, -⟩
      exact absurd own (initial.peers id peer found)

theorem create_agreeing {gatewayId : Nat} {s t : State} {name : String} {key : WireGuardKey} {calls : CreatePeerCalls}
    {gateway : Gateway} (agreeing : Agreeing gatewayId s) (peer : PeerCreated calls s.db t.db gatewayId name)
    (vm : t.vm = { s.vm with
      wg0 := addPeer s.vm.wg0 key.b64Encode
      exitEnv := setGatewayUplinkPeer s.db gateway key.b64Encode s.vm.exitEnv }) :
    Agreeing gatewayId t := by
  have table := congrArg Db.peers peer.same
  have newest : ∀ id row, t.db.peers.get id = some row → row.gatewayId = gatewayId →
      id = s.db.peers.next ∧ row.suspended = false := by
    intro id row found own
    rw [table, Table.get_insert] at found
    split at found
    · rename_i last
      cases found
      exact ⟨last, rfl⟩
    · exact absurd own (peer.first id row found)
  constructor
  · intro first second one other found found' own own'
    rw [(newest first one found own).1, (newest second other found' own').1]
  · intro ip
    rw [vm]
    constructor
    · intro rule
      obtain ⟨id, row, found, own, -⟩ := (agreeing.agrees ip).mp rule
      exact absurd own (peer.first id row found)
    · rintro ⟨id, row, found, own, -, mark⟩
      rw [(newest id row found own).2] at mark
      cases mark

theorem single_modify {gatewayId peerId : Nat} {s : State} {change : Peer → Peer}
    (agreeing : Agreeing gatewayId s) (keeps : ∀ row, (change row).gatewayId = row.gatewayId) :
    ∀ first second one other, (s.db.peers.modify peerId change).get first = some one →
      (s.db.peers.modify peerId change).get second = some other →
      one.gatewayId = gatewayId → other.gatewayId = gatewayId → first = second := by
  intro first second one other found found' own own'
  obtain ⟨before, present, rfl⟩ := Table.get_modify_some found
  obtain ⟨before', present', rfl⟩ := Table.get_modify_some found'
  have mine : before.gatewayId = gatewayId := by
    split at own
    · rwa [keeps] at own
    · exact own
  have mine' : before'.gatewayId = gatewayId := by
    split at own'
    · rwa [keeps] at own'
    · exact own'
  exact agreeing.single first second before before' present present' mine mine'

theorem regenerate_agreeing {gatewayId peerId : Nat} {s t : State} {key : WireGuardKey} {wg0 : List String}
    (agreeing : Agreeing gatewayId s)
    (db : t.db = { s.db with peers := s.db.peers.modify peerId fun row => { row with publicKey := key.b64Encode } })
    (vm : t.vm = { s.vm with wg0 }) : Agreeing gatewayId t := by
  refine ⟨?_, ?_⟩
  · rw [db]
    exact single_modify agreeing fun _ => rfl
  · intro ip
    rw [vm]
    refine (agreeing.agrees ip).trans ?_
    rw [db]
    constructor
    · rintro ⟨id, row, found, own, address, mark⟩
      by_cases changed : id = peerId
      · subst changed
        exact ⟨id, { row with publicKey := key.b64Encode }, by simp [found], own, address, mark⟩
      · exact ⟨id, row, by rw [Table.get_modify_of_ne changed, found], own, address, mark⟩
    · rintro ⟨id, row, found, own, address, mark⟩
      obtain ⟨before, present, rfl⟩ := Table.get_modify_some found
      refine ⟨id, before, present, ?_⟩
      split at own <;> split at address <;> split at mark <;> exact ⟨own, address, mark⟩

theorem suspend_agreeing {gatewayId peerId : Nat} {s : State} {peer : Peer} (agreeing : Agreeing gatewayId s)
    (present : s.db.peers.get peerId = some peer) (own : peer.gatewayId = gatewayId) :
    Agreeing gatewayId ⟨setSuspended s.db peerId true,
      { s.vm with suspended := suspendPeerIp s.vm.suspended peer.allowedIp }, s.revoked⟩ := by
  refine ⟨single_modify agreeing fun _ => rfl, ?_⟩
  intro ip
  apply dropRule_suspendPeerIp.trans
  rw [agreeing.agrees ip]
  constructor
  · rintro (rfl | ⟨id, row, found, mine, address, mark⟩)
    · exact ⟨peerId, { peer with suspended := true }, by simp [setSuspended, present], own, rfl, rfl⟩
    · obtain rfl := agreeing.single id peerId row peer found present mine own
      exact ⟨id, { row with suspended := true }, by simp [setSuspended, found], mine, address, rfl⟩
  · rintro ⟨id, row, found, mine, address, mark⟩
    obtain ⟨before, present', rfl⟩ := Table.get_modify_some found
    by_cases changed : id = peerId
    · subst changed
      rw [present] at present'
      cases present'
      rw [if_pos rfl] at address
      exact .inl address.symm
    · rw [if_neg changed] at mine address mark
      exact .inr ⟨id, before, present', mine, address, mark⟩

theorem resume_agreeing {gatewayId peerId : Nat} {s : State} {peer : Peer} (agreeing : Agreeing gatewayId s)
    (present : s.db.peers.get peerId = some peer) (own : peer.gatewayId = gatewayId) :
    Agreeing gatewayId ⟨setSuspended s.db peerId false,
      { s.vm with suspended := resumePeerIp s.vm.suspended peer.allowedIp }, s.revoked⟩ := by
  refine ⟨single_modify agreeing fun _ => rfl, ?_⟩
  intro ip
  -- The gateway's only peer is resumed and all rules are for its address, so both sides are false.
  constructor
  · intro rule
    obtain ⟨id, row, found, mine, address, -⟩ := (agreeing.agrees ip).mp (dropRule_of_resumePeerIp rule)
    obtain rfl := agreeing.single id peerId row peer found present mine own
    rw [present] at found
    cases found
    subst address
    exact absurd rule (not_dropRule_resumePeerIp _ _)
  · rintro ⟨id, row, found, mine, address, mark⟩
    obtain ⟨before, present', rfl⟩ := Table.get_modify_some found
    by_cases changed : id = peerId
    · rw [if_pos changed] at mark
      cases mark
    · rw [if_neg changed] at mine
      exact absurd (agreeing.single id peerId before peer present' present mine own) changed

theorem delete_agreeing {gatewayId peerId : Nat} {s t : State} {peer : Peer} {wg0 : List String}
    (agreeing : Agreeing gatewayId s) (present : s.db.peers.get peerId = some peer)
    (own : peer.gatewayId = gatewayId) (running : peer.suspended = false)
    (db : t.db = { s.db with peers := s.db.peers.delete peerId, ipAllocations := t.db.ipAllocations })
    (vm : t.vm = { s.vm with wg0 }) : Agreeing gatewayId t := by
  have none_left : ∀ id row, t.db.peers.get id = some row → row.gatewayId ≠ gatewayId := by
    intro id row found mine
    rw [db] at found
    by_cases deleted : id = peerId
    · subst deleted
      rw [Table.get_delete_self] at found
      cases found
    · rw [Table.get_delete_of_ne deleted] at found
      exact deleted (agreeing.single id peerId row peer found present mine own)
  constructor
  · intro first second one other found _ mine _
    exact absurd mine (none_left first one found)
  · intro ip
    rw [vm]
    constructor
    · intro rule
      obtain ⟨id, row, found, mine, -, mark⟩ := (agreeing.agrees ip).mp rule
      obtain rfl := agreeing.single id peerId row peer found present mine own
      rw [present] at found
      cases found
      rw [running] at mark
      cases mark
    · rintro ⟨id, row, found, mine, -⟩
      exact absurd mine (none_left id row found)

theorem step_agreeing {gatewayId : Nat} {s t : State} {event : Event} (agreeing : Agreeing gatewayId s)
    (kept : NoSuspendedDeletion s event) (stepped : step gatewayId s event = some t) : Agreeing gatewayId t := by
  cases step_effect stepped with
  | none same => exact same ▸ agreeing
  | created peer _ _ vm _ => exact create_agreeing agreeing peer vm
  | regenerated _ _ db vm _ => exact regenerate_agreeing agreeing db vm
  | collided _ _ _ db vm =>
      refine ⟨by rw [db]; exact agreeing.single, ?_⟩
      intro ip
      rw [db, vm]
      exact agreeing.agrees ip
  | deleted present own db vm _ => exact delete_agreeing agreeing present own (kept _ present) db vm
  | suspended present own after => exact after ▸ suspend_agreeing agreeing present own
  | resumed present own after => exact after ▸ resume_agreeing agreeing present own
  | rebooted => exact kept.elim

/-- As long as no suspended peer is deleted, the drop rules are those of the suspended peer. -/
theorem suspension_agrees_while_resumed_first {gatewayId : Nat} {s t : State} (initial : Initial gatewayId s)
    (reached : Reaches (step gatewayId) NoSuspendedDeletion s t) : SuspensionAgrees gatewayId t :=
  (reached.invariant (agreeing_initial initial) fun _ _ _ agreeing kept stepped =>
    step_agreeing agreeing kept stepped).agrees

/-! ### A rule that outlives its peer -/

/-- Deleting a suspended peer leaves its rule, and the next peer is given the dropped address. -/
theorem deleted_peer_rule_remains :
    ∃ s t ip, Initial 1 s ∧ Reaches (step 1) (fun _ event => event ≠ .reboot) s t ∧
      dropRule t.vm.suspended ip ∧ ¬SuspendedAt 1 t.db ip ∧ ¬SuspensionAgrees 1 t := by
  let events : List Event :=
    [.create "gw-000-link" (repeatedKey 0) 0, .suspend 1, .delete 1, .create "gw-000-link" (repeatedKey 1) 0]
  have ran : (Lib.run (step 1) (fun _ event => match event with
      | .reboot => false
      | _ => true) freshGateway events).any (fun t =>
      decide (t.vm.suspended.get 1 = some 174325762 ∧
        ∀ entry ∈ t.db.peers.toList, entry.2.suspended = false)) = true := by decide +kernel
  obtain ⟨t, arrived, left⟩ := Lib.exists_of_any ran
  obtain ⟨rule, running⟩ := of_decide_eq_true left
  have clear : ¬SuspendedAt 1 t.db 174325762 := by
    rintro ⟨id, peer, present, -, -, mark⟩
    rw [running (id, peer) (Table.mem_toList.mpr present)] at mark
    cases mark
  refine ⟨freshGateway, t, 174325762, freshGateway_initial, ?_, ⟨1, rule⟩, clear, ?_⟩
  · refine Lib.reaches_of_run ?_ arrived
    rintro s event checked rfl
    cases checked
  · intro agrees
    exact clear ((agrees _).mp ⟨1, rule⟩)

theorem suspended_peer_dropped :
    ∃ t, Reaches (step 1) NoSuspendedDeletion freshGateway t ∧ dropRule t.vm.suspended 174325762 ∧
      SuspensionAgrees 1 t := by
  let events : List Event := [.create "gw-000-link" (repeatedKey 0) 0, .suspend 1]
  have ran : (Lib.run (step 1) (fun _ event => match event with
      | .reboot | .delete _ => false
      | _ => true) freshGateway events).any (fun t => decide (t.vm.suspended.get 1 = some 174325762)) = true := by
    decide +kernel
  obtain ⟨t, arrived, rule⟩ := Lib.exists_of_any ran
  have reached : Reaches (step 1) NoSuspendedDeletion freshGateway t := by
    refine Lib.reaches_of_run ?_ arrived
    intro s event checked
    cases event with
    | reboot => cases checked
    | delete peerId => cases checked
    | _ => trivial
  exact ⟨t, reached, ⟨1, of_decide_eq_true rule⟩, suspension_agrees_while_resumed_first freshGateway_initial reached⟩

end DeepOrc.Backhaul

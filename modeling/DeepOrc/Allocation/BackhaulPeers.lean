import DeepOrc.Allocation.Transactions
import DeepOrc.Lib.Machine

/-!
# One backhaul peer per gateway

`create_peer` counts the peers of its gateway before it allocates, and no constraint of the peers table repeats
the count. A second call is stopped by the address it chose, which is the first one's as long as both read the
same allocations.
-/

namespace DeepOrc.Allocation

open Models Repositories Services
open Lib (Table Reaches)

/-! ### The calls on one gateway -/

/-- An `ensure_backhaul_peer` call before it gets to `create_peer`. -/
inductive EnsureCall where
  | requested (publicKey : String)
  | gatewayRead (publicKey : String) (gateway : Gateway)

structure PeerState where
  txns : State
  ensuring : Table EnsureCall

inductive PeerEvent where
  | createPeer (name publicKey : String)
  | ensure (publicKey : String)
  | look (call : Nat)
  | next (session choice : Nat)
  | abandon (session : Nat) (committed : Bool)

def PeerState.done (s : PeerState) (call : Nat) : PeerState := { s with ensuring := s.ensuring.delete call }

def PeerState.take (s : PeerState) (event : Event) : Option PeerState :=
  (step s.txns event).map fun txns => { s with txns }

def ensureNext (gatewayId : Nat) (s : PeerState) (call : Nat) : EnsureCall → Option PeerState
  | .requested publicKey =>
      match s.txns.db.gateways.get gatewayId with
      | none => some (s.done call)
      | some gateway =>
          if gateway.status ≠ .ready then some (s.done call)
          else some { s with ensuring := s.ensuring.modify call fun _ => .gatewayRead publicKey gateway }
  | .gatewayRead publicKey gateway =>
      if listByGateway s.txns.db gatewayId ≠ [] then some (s.done call)
      else (s.done call).take (.createPeer gatewayId (defaultBackhaulPeerName gateway.name) publicKey)

def peerStep (gatewayId : Nat) (s : PeerState) : PeerEvent → Option PeerState
  | .createPeer name publicKey => s.take (.createPeer gatewayId name publicKey)
  | .ensure publicKey => some { s with ensuring := s.ensuring.insert (.requested publicKey) }
  | .look call =>
      match s.ensuring.get call with
      | none => none
      | some stage => ensureNext gatewayId s call stage
  | .next session choice => s.take (.next session choice)
  | .abandon session committed => s.take (.abandon session committed)

/-! ### What a call relies on -/

def HasPeer (db : Db) (gatewayId : Nat) : Prop := ∃ id row, db.peers.get id = some row ∧ row.gatewayId = gatewayId

def HasSpareAllocation (db : Db) (gatewayId : Nat) : Prop :=
  ∃ id row, db.ipAllocations.get id = some row ∧ row.gatewayId = some gatewayId ∧ row.peerId = none

def Claimed (db : Db) (workerId address : Nat) : Prop :=
  ∃ id row, db.ipAllocations.get id = some row ∧ row.workerId = workerId ∧ row.address = address

/-- The address that every call gets which reads these allocations. -/
structure Lowest (db : Db) (gatewayId : Nat) (gateway : Gateway) (address : Nat) : Prop where
  peerless : ¬ HasPeer db gatewayId
  unallocated : ¬ HasSpareAllocation db gatewayId
  free : Wg.freePeerIp gateway (db.ipAllocations.toList.map fun entry => entry.2.address) = .ok address

/-- What a call that is about to add its peer holds: a new allocation, or one that was there before. -/
def Backs (db : Db) (gatewayId : Nat) : Option (Nat × IpAllocation) → Prop
  | none => ¬ HasPeer db gatewayId ∧ HasSpareAllocation db gatewayId
  | some (id, row) => db.ipAllocations.get id = none ∧
      ∃ gateway address, db.gateways.get gatewayId = some gateway ∧
        row = ⟨gateway.workerId, address, some gatewayId, none⟩ ∧ Lowest db gatewayId gateway address

def Sound (db : Db) (gatewayId : Nat) : Txn → Prop
  | .peerRequested id _ _ => id = gatewayId
  | .peerGatewayRead id _ _ gateway | .peerAdmitted id _ _ gateway =>
      id = gatewayId ∧ db.gateways.get gatewayId = some gateway
  | .peerIpsRead id _ _ gateway used =>
      id = gatewayId ∧ db.gateways.get gatewayId = some gateway ∧ (used = [] ∨ HasPeer db gatewayId)
  | .peerIpFree id _ _ gateway address =>
      id = gatewayId ∧ db.gateways.get gatewayId = some gateway ∧
        (Claimed db gateway.workerId address ∨ Lowest db gatewayId gateway address)
  | .peerIpChosen id _ _ ip _ => id = gatewayId ∧ Backs db gatewayId ip
  | .peerInserted ip peer => peer.2.gatewayId = gatewayId ∧ Backs db gatewayId ip
  | _ => False

def Txn.adds : Txn → Bool
  | .peerIpChosen .. | .peerInserted .. => true
  | _ => false

/-- It adds its peer under an allocation that was there before. -/
def Txn.reuses : Txn → Bool
  | .peerIpChosen _ _ _ none _ | .peerInserted none _ => true
  | _ => false

structure OnePeer (gatewayId : Nat) (s : State) : Prop where
  one : ∀ first second one other, s.db.peers.get first = some one → s.db.peers.get second = some other →
    one.gatewayId = gatewayId → other.gatewayId = gatewayId → first = second
  sound : ∀ session txn, s.sessions.get session = some txn → Sound s.db gatewayId txn
  alone : ∀ first second one other, s.sessions.get first = some one → s.sessions.get second = some other →
    one.adds = true → other.adds = true → first = second

/-! ### Statements that commit nothing -/

theorem sameRows_reserve_allocation (db : Db) : SameRows db { db with ipAllocations := db.ipAllocations.reserve } :=
  ⟨fun _ => rfl, fun _ => rfl, fun _ => rfl, fun _ => rfl, fun _ => rfl, fun _ => rfl⟩

theorem sameRows_reserve_peer (db : Db) : SameRows db { db with peers := db.peers.reserve } :=
  ⟨fun _ => rfl, fun _ => rfl, fun _ => rfl, fun _ => rfl, fun _ => rfl, fun _ => rfl⟩

theorem sound_congr {before after : Db} (same : SameRows before after) (gatewayId : Nat) (txn : Txn) :
    Sound after gatewayId txn ↔ Sound before gatewayId txn := by
  have peer : HasPeer after gatewayId ↔ HasPeer before gatewayId := by simp only [HasPeer, same.peers]
  have spare : HasSpareAllocation after gatewayId ↔ HasSpareAllocation before gatewayId := by
    simp only [HasSpareAllocation, same.ipAllocations]
  have listed := Table.toList_congr same.ipAllocations
  have lowest : ∀ gateway address, Lowest after gatewayId gateway address ↔ Lowest before gatewayId gateway address := by
    intro gateway address
    constructor
    · rintro ⟨peerless, unallocated, free⟩
      exact ⟨fun found => peerless (peer.mpr found), fun found => unallocated (spare.mpr found), by rwa [← listed]⟩
    · rintro ⟨peerless, unallocated, free⟩
      exact ⟨fun found => peerless (peer.mp found), fun found => unallocated (spare.mp found), by rwa [listed]⟩
  have backs : ∀ ip, Backs after gatewayId ip ↔ Backs before gatewayId ip := by
    intro ip
    cases ip with
    | none => simp only [Backs, peer, spare]
    | some entry => simp only [Backs, same.gateways, same.ipAllocations, lowest]
  cases txn <;> simp only [Sound, Claimed, same.gateways, same.ipAllocations, peer, lowest, backs]

theorem OnePeer.close {gatewayId : Nat} {s : State} (kept : OnePeer gatewayId s) (session : Nat) :
    OnePeer gatewayId (s.close session) := by
  constructor
  · exact kept.one
  · intro other txn found
    exact kept.sound other txn (Table.get_delete_some found).2
  · intro first second one other found found'
    exact kept.alone first second one other (Table.get_delete_some found).2 (Table.get_delete_some found').2

theorem OnePeer.become {gatewayId session : Nat} {s : State} {txn after : Txn} {db : Db} (kept : OnePeer gatewayId s)
    (present : s.sessions.get session = some txn) (same : SameRows s.db db) (sound : Sound s.db gatewayId after)
    (first : after.adds = true → txn.adds = false →
      ∀ other another, s.sessions.get other = some another → another.adds = false) :
    OnePeer gatewayId (State.become ⟨db, s.sessions⟩ session after) := by
  have rows : ∀ other another, (s.sessions.modify session fun _ => after).get other = some another →
      other = session ∧ another = after ∨ other ≠ session ∧ s.sessions.get other = some another := by
    intro other another found
    by_cases here : other = session
    · subst here
      rw [Table.get_modify_self, present] at found
      exact .inl ⟨rfl, (Option.some.inj found).symm⟩
    · rw [Table.get_modify_of_ne here] at found
      exact .inr ⟨here, found⟩
  -- a session that was about to add its peer before keeps the others away
  have apart : after.adds = true → ∀ other another, other ≠ session → s.sessions.get other = some another →
      another.adds = false := by
    intro adding other another different found
    cases before : txn.adds with
    | false => exact first adding before other another found
    | true =>
        by_contra clash
        exact different (kept.alone other session another txn found present (by simpa using clash) before)
  constructor
  · intro one other row row' found found'
    dsimp only [State.become] at found found'
    rw [same.peers] at found found'
    exact kept.one one other row row' found found'
  · intro other another found
    refine (sound_congr same gatewayId another).mpr ?_
    rcases rows other another found with ⟨-, rfl⟩ | ⟨-, found⟩
    · exact sound
    · exact kept.sound other another found
  · intro one other row row' found found' adding adding'
    rcases rows one row found with ⟨rfl, rfl⟩ | ⟨different, before⟩
    · rcases rows other row' found' with ⟨rfl, -⟩ | ⟨different', before'⟩
      · rfl
      · rw [apart adding other row' different' before'] at adding'
        cases adding'
    · rcases rows other row' found' with ⟨rfl, rfl⟩ | ⟨-, before'⟩
      · rw [apart adding' one row different before] at adding
        cases adding
      · exact kept.alone one other row row' before before' adding adding'

theorem OnePeer.begin {gatewayId : Nat} {s : State} (kept : OnePeer gatewayId s) (name publicKey : String) :
    OnePeer gatewayId (begin_ s (.peerRequested gatewayId name publicKey)) := by
  have rows : ∀ session txn, (s.sessions.insert (.peerRequested gatewayId name publicKey)).get session = some txn →
      txn = .peerRequested gatewayId name publicKey ∨ s.sessions.get session = some txn := by
    intro session txn found
    rw [Table.get_insert] at found
    split at found
    · exact .inl (Option.some.inj found).symm
    · exact .inr found
  constructor
  · exact kept.one
  · intro session txn found
    rcases rows session txn found with rfl | found
    · rfl
    · exact kept.sound session txn found
  · intro first second one other found found' adding adding'
    rcases rows first one found with rfl | found
    · cases adding
    · rcases rows second other found' with rfl | found'
      · cases adding'
      · exact kept.alone first second one other found found' adding adding'

/-! ### Commits -/

theorem backs_peerless {db : Db} {gatewayId : Nat} {ip : Option (Nat × IpAllocation)} (backs : Backs db gatewayId ip) :
    ¬ HasPeer db gatewayId := by
  cases ip with
  | none => exact backs.1
  | some entry =>
      obtain ⟨-, _, _, -, -, lowest⟩ := backs
      exact lowest.peerless

theorem get_putOption_some {ip : Option (Nat × IpAllocation)} {table : Table IpAllocation} {id : Nat}
    {row : IpAllocation} (fresh : ∀ entry, ip = some entry → table.get entry.1 = none)
    (present : table.get id = some row) : (table.putOption ip).get id = some row := by
  cases ip with
  | none => exact present
  | some entry =>
      have different : id ≠ entry.1 := by
        rintro rfl
        rw [fresh entry rfl] at present
        cases present
      exact (Table.get_put table entry.1 entry.2 id).trans ((if_neg different).trans present)

/-- The other calls after the commit of one that had its allocation. -/
theorem sound_committed {db after : Db} {gatewayId : Nat} {ip : Option (Nat × IpAllocation)} {txn : Txn}
    (backs : Backs db gatewayId ip) (gateways : after.gateways = db.gateways)
    (allocations : after.ipAllocations = db.ipAllocations.putOption ip) (sound : Sound db gatewayId txn)
    (waits : txn.adds = false) : Sound after gatewayId txn := by
  have fresh : ∀ entry, ip = some entry → db.ipAllocations.get entry.1 = none := by
    rintro entry rfl
    exact backs.1
  cases txn with
  | peerRequested => exact sound
  | peerGatewayRead | peerAdmitted =>
      obtain ⟨own, gateway⟩ := sound
      exact ⟨own, by rwa [gateways]⟩
  | peerIpsRead id name publicKey gateway used =>
      obtain ⟨own, read, nothing | peer⟩ := sound
      · exact ⟨own, by rwa [gateways], .inl nothing⟩
      · exact absurd peer (backs_peerless backs)
  | peerIpFree id name publicKey gateway address =>
      obtain ⟨own, read, claim⟩ := sound
      refine ⟨own, by rwa [gateways], .inl ?_⟩
      rw [Claimed, allocations]
      rcases claim with ⟨claimed, row, present, same⟩ | lowest
      · exact ⟨claimed, row, get_putOption_some fresh present, same⟩
      · cases ip with
        | none => exact absurd backs.2 lowest.unallocated
        | some entry =>
            -- both chose the lowest free address, and here it is committed
            obtain ⟨unused, gateway', address', read', same, lowest'⟩ := backs
            rw [read] at read'
            cases read'
            have equal := lowest.free.symm.trans lowest'.free
            cases equal
            refine ⟨entry.1, entry.2, ?_, by rw [same], by rw [same]⟩
            exact (Table.get_put _ _ _ _).trans (if_pos rfl)
  | peerIpChosen | peerInserted => cases waits
  | _ => exact sound.elim

theorem OnePeer.commit {gatewayId session : Nat} {s : State} {txn : Txn} (kept : OnePeer gatewayId s)
    (present : s.sessions.get session = some txn) :
    OnePeer gatewayId (State.close { s with db := stored s.db txn } session) := by
  have sound := kept.sound session txn present
  have others : ∀ other another, (s.sessions.delete session).get other = some another →
      txn.adds = true → another.adds = false := by
    intro other another found adding
    obtain ⟨different, found⟩ := Table.get_delete_some found
    by_contra clash
    exact different (kept.alone other session another txn found present (by simpa using clash) adding)
  have alone := (kept.close session).alone
  cases txn with
  | peerIpChosen id name publicKey ip address =>
      obtain ⟨own, backs⟩ := sound
      refine ⟨kept.one, ?_, alone⟩
      intro other another found
      exact sound_committed backs rfl rfl (kept.sound other another (Table.get_delete_some found).2)
        (others other another found rfl)
  | peerInserted ip peer =>
      obtain ⟨own, backs⟩ := sound
      refine ⟨?_, ?_, alone⟩
      · have only : ∀ id row, (s.db.peers.put peer.1 peer.2).get id = some row → row.gatewayId = gatewayId →
            id = peer.1 := by
          intro id row found same
          rw [Table.get_put] at found
          split at found
          · assumption
          · exact absurd ⟨id, row, found, same⟩ (backs_peerless backs)
        intro first second one other found found' same same'
        exact (only first one found same).trans (only second other found' same').symm
      · intro other another found
        exact sound_committed backs rfl rfl (kept.sound other another (Table.get_delete_some found).2)
          (others other another found rfl)
  | peerRequested | peerGatewayRead | peerAdmitted | peerIpsRead | peerIpFree => exact kept.close session
  | _ => exact sound.elim

/-! ### Each statement -/

/-- A call that reads the allocations finds no peer of the gateway, and no call that reused an allocation is under
way. -/
def ReadsAlone (s : State) : Event → Prop
  | .next session _ => ∀ gatewayId name publicKey gateway used,
      s.sessions.get session = some (.peerIpsRead gatewayId name publicKey gateway used) →
        ¬ HasPeer s.db gatewayId ∧ ∀ other txn, s.sessions.get other = some txn → txn.reuses = false
  | _ => True

/-- The address is chosen among the allocations there are. -/
theorem OnePeer.choose {gatewayId session choice : Nat} {s t : State} {name publicKey : String} {gateway : Gateway}
    {used : List Nat} (kept : OnePeer gatewayId s)
    (present : s.sessions.get session = some (.peerIpsRead gatewayId name publicKey gateway used))
    (peerless : ¬ HasPeer s.db gatewayId)
    (unshared : ∀ other txn, s.sessions.get other = some txn → txn.reuses = false)
    (advanced : createPeerNext s session choice (.peerIpsRead gatewayId name publicKey gateway used) = some t) :
    OnePeer gatewayId t := by
  obtain ⟨-, read, nothing | peer⟩ := kept.sound session _ present
  swap
  · exact absurd peer peerless
  subst nothing
  simp only [createPeerNext] at advanced
  split at advanced
  · rename_i id row found
    obtain ⟨stored, reusable⟩ := Table.get_of_anyRow found
    simp only [Wg.reusableAllocation, Bool.and_eq_true, decide_eq_true_eq, Option.isNone_iff_eq_none] at reusable
    have spare : HasSpareAllocation s.db gatewayId := ⟨id, row, stored, reusable.1⟩
    cases advanced
    refine kept.become present (.refl s.db) ⟨rfl, peerless, spare⟩ ?_
    intro _ _ other txn running
    by_contra adding
    have sound := kept.sound other txn running
    have fresh := unshared other txn running
    cases txn with
    | peerIpChosen _ _ _ ip _ | peerInserted ip _ =>
        cases ip with
        | none => cases fresh
        | some entry =>
            obtain ⟨-, -, _, _, -, -, lowest⟩ := sound
            exact lowest.unallocated spare
    | _ => exact adding rfl
  · rename_i absent
    have unallocated : ¬ HasSpareAllocation s.db gatewayId := by
      rintro ⟨id, row, stored, own, unassigned⟩
      have passed := Table.anyRow_eq_none.mp absent id row stored
      simp [Wg.reusableAllocation, own, unassigned] at passed
    split at advanced
    · cases advanced
    · rename_i address free
      cases advanced
      refine kept.become present (.refl s.db) ⟨rfl, read, .inr ⟨peerless, unallocated, free⟩⟩ ?_
      intro adding
      cases adding

/-- The allocation goes in unless the address was taken in the meantime. -/
theorem OnePeer.allocate {gatewayId session choice address : Nat} {s t : State} {name publicKey : String}
    {gateway : Gateway} (kept : OnePeer gatewayId s)
    (present : s.sessions.get session = some (.peerIpFree gatewayId name publicKey gateway address))
    (advanced : createPeerNext s session choice (.peerIpFree gatewayId name publicKey gateway address) = some t) :
    OnePeer gatewayId t := by
  obtain ⟨-, read, claim⟩ := kept.sound session _ present
  simp only [createPeerNext, insertIp] at advanced
  rcases admit_some advanced with rfl | ⟨admitted, rfl⟩
  · exact kept.close session
  · obtain ⟨unclaimed, uncontended⟩ := admission_admitted admitted
    have lowest : Lowest s.db gatewayId gateway address := by
      apply claim.resolve_left
      rintro ⟨id, row, stored, worker, same⟩
      have clash := unclaimed id row stored
      simp [worker, same] at clash
    apply kept.become present (sameRows_reserve_allocation s.db)
    · exact ⟨rfl, Table.get_next _, gateway, address, read, rfl, lowest⟩
    · intro _ _ other txn running
      by_contra adding
      have sound := kept.sound other txn running
      have elsewhere : ∀ ip, txn.ip = ip → ¬ Backs s.db gatewayId ip := by
        intro ip opened backs
        cases ip with
        | none => exact lowest.unallocated backs.2
        | some entry =>
            obtain ⟨-, gateway', address', read', same, lowest'⟩ := backs
            rw [read] at read'
            cases read'
            have equal := lowest.free.symm.trans lowest'.free
            cases equal
            have clash := uncontended _ (mem_open running opened)
            simp [same] at clash
      cases txn with
      | peerIpChosen _ _ _ ip _ | peerInserted ip _ => exact elsewhere ip rfl sound.2
      | _ => exact adding rfl

theorem OnePeer.next {gatewayId session choice : Nat} {s t : State} {txn : Txn} (kept : OnePeer gatewayId s)
    (present : s.sessions.get session = some txn) (alone : ReadsAlone s (.next session choice))
    (advanced : createPeerNext s session choice txn = some t) : OnePeer gatewayId t := by
  have sound := kept.sound session txn present
  cases txn with
  | peerRequested id name publicKey =>
      cases sound
      simp only [createPeerNext] at advanced
      split at advanced
      · cases advanced
      · rename_i gateway ready
        cases advanced
        exact kept.become present (.refl s.db) ⟨rfl, get_of_readyGateway ready⟩ nofun
  | peerGatewayRead id name publicKey gateway =>
      simp only [createPeerNext] at advanced
      split at advanced
      · cases advanced
      · split at advanced
        · cases advanced
        · cases advanced
          exact kept.become present (.refl s.db) sound nofun
  | peerAdmitted id name publicKey gateway =>
      obtain ⟨rfl, read⟩ := sound
      cases advanced
      refine kept.become present (.refl s.db) ⟨rfl, read, ?_⟩ nofun
      rcases List.eq_nil_or_concat (Wg.peerAddresses s.db id) with nothing | ⟨front, last, some⟩
      · exact .inl nothing
      · have member : last ∈ Wg.peerAddresses s.db id := by simp [some]
        obtain ⟨peerId, row, stored, own, -⟩ := Wg.mem_peerAddresses.mp member
        exact .inr ⟨peerId, row, stored, own⟩
  | peerIpsRead id name publicKey gateway used =>
      obtain ⟨rfl, -⟩ := sound
      obtain ⟨peerless, unshared⟩ := alone id name publicKey gateway used present
      exact kept.choose present peerless unshared advanced
  | peerIpFree id name publicKey gateway address =>
      obtain ⟨rfl, -⟩ := sound
      exact kept.allocate present advanced
  | peerIpChosen id name publicKey ip address =>
      obtain ⟨rfl, backs⟩ := sound
      simp only [createPeerNext, insertPeerRow] at advanced
      rcases admit_some advanced with rfl | ⟨-, rfl⟩
      · exact kept.close session
      · exact kept.become present (sameRows_reserve_peer s.db) ⟨rfl, backs⟩ nofun
  | peerInserted ip peer =>
      cases advanced
      exact kept.commit present
  | _ => exact sound.elim

def OnGateway (gatewayId : Nat) : Event → Prop
  | .createPeer id _ _ => id = gatewayId
  | .next _ _ | .abandon _ _ => True
  | _ => False

theorem OnePeer.step {gatewayId : Nat} {s t : State} {event : Event} (kept : OnePeer gatewayId s)
    (stepped : Allocation.step s event = some t) (own : OnGateway gatewayId event) (alone : ReadsAlone s event) :
    OnePeer gatewayId t := by
  cases event with
  | createPeer id name publicKey =>
      cases own
      cases stepped
      exact kept.begin name publicKey
  | next session choice =>
      simp only [Allocation.step] at stepped
      split at stepped
      · cases stepped
      · rename_i txn present
        have sound := kept.sound session txn present
        have advanced : createPeerNext s session choice txn = some t := by
          cases txn with
          | peerRequested | peerGatewayRead | peerAdmitted | peerIpsRead | peerIpFree | peerIpChosen | peerInserted =>
              simpa only [createNext, deleteNext, deletePeerNext, Option.none_or, Option.or_none] using stepped
          | _ => exact sound.elim
        exact kept.next present alone advanced
  | abandon session committed =>
      simp only [Allocation.step] at stepped
      split at stepped
      · cases stepped
      · rename_i txn present
        cases stepped
        cases committed with
        | false => exact kept.close session
        | true => exact kept.commit present
  | _ => exact own.elim

/-! ### Runs -/

def PeerEvent.ReadsAlone (s : PeerState) : PeerEvent → Prop
  | .next session choice => Allocation.ReadsAlone s.txns (.next session choice)
  | _ => True

theorem txns_of_take {s t : PeerState} {event : Event} (taken : s.take event = some t) :
    step s.txns event = some t.txns := by
  obtain ⟨txns, stepped, rfl⟩ := Option.map_eq_some_iff.mp taken
  exact stepped

theorem peerStep_onePeer {gatewayId : Nat} {s t : PeerState} {event : PeerEvent} (kept : OnePeer gatewayId s.txns)
    (alone : event.ReadsAlone s) (stepped : peerStep gatewayId s event = some t) : OnePeer gatewayId t.txns := by
  cases event with
  | createPeer name publicKey => exact kept.step (txns_of_take stepped) rfl trivial
  | ensure publicKey =>
      cases stepped
      exact kept
  | look call =>
      simp only [peerStep] at stepped
      split at stepped
      · cases stepped
      · rename_i stage present
        cases stage with
        | requested publicKey =>
            simp only [ensureNext] at stepped
            split at stepped
            · cases stepped
              exact kept
            · split at stepped
              · cases stepped
                exact kept
              · cases stepped
                exact kept
        | gatewayRead publicKey gateway =>
            simp only [ensureNext] at stepped
            split at stepped
            · cases stepped
              exact kept
            · have begun := txns_of_take stepped
              exact OnePeer.step (s := s.txns) kept begun rfl trivial
  | next session choice => exact kept.step (txns_of_take stepped) trivial alone
  | abandon session committed => exact kept.step (txns_of_take stepped) trivial trivial

def WithinLimit (gatewayId : Nat) (db : Db) : Prop := (listByGateway db gatewayId).length ≤ maxPeersPerGateway

/-- Any database in which the gateway has no more than its peer, and nobody at work. -/
structure PeerInitial (gatewayId : Nat) (s : PeerState) : Prop where
  within : WithinLimit gatewayId s.txns.db
  sessions : ∀ id, s.txns.sessions.get id = none
  ensuring : ∀ id, s.ensuring.get id = none

theorem within_iff {gatewayId : Nat} {db : Db} : WithinLimit gatewayId db ↔
    ∀ first second one other, db.peers.get first = some one → db.peers.get second = some other →
      one.gatewayId = gatewayId → other.gatewayId = gatewayId → first = second := by
  have sorted : (listByGateway db gatewayId).Pairwise fun earlier later => earlier.1 < later.1 :=
    db.peers.toList_sorted.filter _
  unfold WithinLimit maxPeersPerGateway
  constructor
  · intro short first second one other present present' own own'
    have member := mem_listByGateway.mpr ⟨present, own⟩
    have member' := mem_listByGateway.mpr ⟨present', own'⟩
    obtain ⟨entry, only⟩ | nothing := (Nat.le_one_iff_eq_zero_or_eq_one.mp short).symm.imp List.length_eq_one_iff.mp
      List.length_eq_zero_iff.mp
    · rw [only, List.mem_singleton] at member member'
      exact congrArg Prod.fst (member.trans member'.symm)
    · rw [nothing] at member
      cases member
  · intro single
    match listed : listByGateway db gatewayId with
    | [] => simp
    | [_] => simp
    | first :: second :: rest =>
        rw [listed] at sorted
        have before := List.rel_of_pairwise_cons sorted List.mem_cons_self
        have present := mem_listByGateway.mp (listed ▸ List.mem_cons_self : (first.1, first.2) ∈ listByGateway db gatewayId)
        have present' := mem_listByGateway.mp
          (listed ▸ List.mem_cons_of_mem _ List.mem_cons_self : (second.1, second.2) ∈ listByGateway db gatewayId)
        have same := single _ _ _ _ present.1 present'.1 present.2 present'.2
        omega

theorem onePeer_initial {gatewayId : Nat} {s : PeerState} (initial : PeerInitial gatewayId s) :
    OnePeer gatewayId s.txns where
  one := within_iff.mp initial.within
  sound := by
    intro session txn present
    rw [initial.sessions] at present
    cases present
  alone := by
    intro first second one other present
    rw [initial.sessions] at present
    cases present

/-- The gateway has at most one peer in runs where a call reads the allocations before a peer is committed, and
before another call has taken an allocation that was there already. -/
theorem one_peer_while_calls_read_alone {gatewayId : Nat} {s t : PeerState} (initial : PeerInitial gatewayId s)
    (reached : Reaches (peerStep gatewayId) (fun s event => event.ReadsAlone s) s t) :
    (listByGateway t.txns.db gatewayId).length ≤ maxPeersPerGateway := by
  have kept : OnePeer gatewayId t.txns := by
    induction reached with
    | refl => exact onePeer_initial initial
    | tail _ next earlier =>
        obtain ⟨event, alone, stepped⟩ := next
        exact peerStep_onePeer earlier alone stepped
  exact within_iff.mpr kept.one

/-! ### Two calls at once -/

def readsAloneB (s : PeerState) : PeerEvent → Bool
  | .next session _ =>
      match s.txns.sessions.get session with
      | some (.peerIpsRead gatewayId _ _ _ _) =>
          (listByGateway s.txns.db gatewayId).isEmpty && !s.txns.sessions.toList.any fun entry => entry.2.reuses
      | _ => true
  | _ => true

theorem readsAlone_of_check (s : PeerState) (event : PeerEvent) (checked : readsAloneB s event = true) :
    event.ReadsAlone s := by
  cases event with
  | next session choice =>
      intro gatewayId name publicKey gateway used present
      simp only [readsAloneB, present, Bool.and_eq_true, List.isEmpty_iff, Bool.not_eq_true', List.any_eq_false] at checked
      obtain ⟨peerless, unshared⟩ := checked
      constructor
      · rintro ⟨id, row, stored, own⟩
        have member := mem_listByGateway.mpr ⟨stored, own⟩
        rw [peerless] at member
        cases member
      · intro other txn running
        simpa using unshared (other, txn) (Table.mem_toList.mpr running)
  | _ => trivial

def gatewayWithoutPeer : PeerState where
  txns := ⟨{ Db.empty with
    gateways := Table.empty.insert
      ⟨1, "gw-000", "gw-gw-000", 168427530, 51820, 174325760, "100.64.0.1", "gw-000", .ready, none⟩ }, Table.empty⟩
  ensuring := Table.empty

theorem gatewayWithoutPeer_initial : PeerInitial 1 gatewayWithoutPeer where
  within := Nat.zero_le _
  sessions := fun _ => rfl
  ensuring := fun _ => rfl

def peerSteps (session count : Nat) : List PeerEvent := List.replicate count (.next session 0)

/-- The detail page asks for the peer while the provisioning thread does; its count precedes the other commit and
its reading of the addresses follows it. -/
theorem racing_calls_add_two_peers :
    ∃ t, Reaches (peerStep 1) (fun _ _ => True) gatewayWithoutPeer t ∧
      ¬ (listByGateway t.txns.db 1).length ≤ maxPeersPerGateway := by
  let events := [.ensure "k1", .ensure "k2", .look 1, .look 2, .look 1, .look 2] ++ peerSteps 1 2 ++ peerSteps 2 2 ++
    peerSteps 1 5 ++ peerSteps 2 5
  have ran : (Lib.run (peerStep 1) (fun _ _ => true) gatewayWithoutPeer events).any (fun t =>
      decide ((listByGateway t.txns.db 1).length = 2)) = true := by
    decide +kernel
  obtain ⟨t, arrived, two⟩ := Lib.exists_of_any ran
  refine ⟨t, Lib.reaches_of_run (fun _ _ _ => trivial) arrived, ?_⟩
  rw [of_decide_eq_true two]
  decide

/-- Here both read the same allocations, and the second insertion of the address is refused. -/
theorem second_call_refused :
    ∃ t, Reaches (peerStep 1) (fun s event => event.ReadsAlone s) gatewayWithoutPeer t ∧
      (listByGateway t.txns.db 1).map Prod.fst = [1] ∧ t.txns.sessions.toList.length = 0 ∧
        (listByGateway t.txns.db 1).length ≤ maxPeersPerGateway := by
  let events := [.ensure "k1", .ensure "k2", .look 1, .look 2, .look 1, .look 2] ++ peerSteps 1 4 ++ peerSteps 2 4 ++
    peerSteps 1 3 ++ peerSteps 2 1
  have ran : (Lib.run (peerStep 1) readsAloneB gatewayWithoutPeer events).any (fun t =>
      decide ((listByGateway t.txns.db 1).map Prod.fst = [1] ∧ t.txns.sessions.toList.length = 0)) = true := by
    decide +kernel
  obtain ⟨t, arrived, facts⟩ := Lib.exists_of_any ran
  obtain ⟨added, ended⟩ := of_decide_eq_true facts
  have reached := Lib.reaches_of_run readsAlone_of_check arrived
  exact ⟨t, reached, added, ended, one_peer_while_calls_read_alone gatewayWithoutPeer_initial reached⟩

end DeepOrc.Allocation

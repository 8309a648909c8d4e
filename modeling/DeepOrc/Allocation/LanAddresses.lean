import DeepOrc.Allocation.Batches
import DeepOrc.Lib.Machine

/-!
# LAN addresses of gateways created at the same time

No constraint covers a group's LAN addresses. Two calls that hold the same address settle on the same name, the
lowest free one, unless a commit comes between; and names are unique.
-/

namespace DeepOrc.Allocation

open Models Repositories Services Lan
open Lib (Table Reaches)

def Used (s : BatchState) (groupId : Nat) (lanIp : Address) : Prop :=
  ∃ id row, s.txns.db.gateways.get id = some row ∧ (s.lan id).inGroup groupId = true ∧ (s.lan id).lanIp = some lanIp

def LanIpsDistinct (s : BatchState) : Prop :=
  ∀ groupId lanIp first second one other, s.txns.db.gateways.get first = some one →
    s.txns.db.gateways.get second = some other → (s.lan first).inGroup groupId = true →
      (s.lan second).inGroup groupId = true → (s.lan first).lanIp = some lanIp → (s.lan second).lanIp = some lanIp →
        first = second

/-- The creation a call is waiting for. -/
structure Pending where
  groupId : Nat
  lanIp : Address
  session : Nat

def BatchCall.pending : BatchCall → Option Pending
  | creating groupId _ _ lanIp _ session => some ⟨groupId, lanIp, session⟩
  | _ => none

def pending (s : BatchState) (call : Nat) : Option Pending := (s.calls.get call).bind BatchCall.pending

/-- When a creation reads the names, the address chosen for it is still unused. -/
def AddressStillFree (s : BatchState) : BatchEvent → Prop
  | .next call _ => ∀ own calls request, pending s call = some own →
      s.txns.sessions.get own.session = some (.naming calls request) → ¬ Used s own.groupId own.lanIp
  | _ => True

def Txn.automatic : Txn → Prop
  | naming _ request => request.gatewayName = none
  | _ => True

structure Apart (s : BatchState) : Prop where
  distinct : LanIpsDistinct s
  automatic : ∀ session txn, s.txns.sessions.get session = some txn → txn.automatic
  chosen : ∀ session txn name, s.txns.sessions.get session = some txn → txn.chosenName = some name →
    Named s.txns.db name ∨ LowestFree s.txns.db name
  opened : ∀ session txn id row, s.txns.sessions.get session = some txn → txn.gateway = some (id, row) →
    txn.chosenName = some row.name ∧ s.txns.db.gateways.get id = none ∧ ¬ Named s.txns.db row.name
  single : ∀ first second one other, s.txns.sessions.get first = some one → s.txns.sessions.get second = some other →
    one.gateway ≠ none → other.gateway ≠ none → first = second
  own : ∀ first second one other, pending s first = some one → pending s second = some other →
    one.session = other.session → first = second
  begun : ∀ call own, pending s call = some own → own.session < s.txns.sessions.next
  reserved : ∀ call own txn name, pending s call = some own → s.txns.sessions.get own.session = some txn →
    txn.chosenName = some name → ¬ Used s own.groupId own.lanIp ∨ Named s.txns.db name

/-- A creation whose name is not committed holds the lowest free one. -/
theorem Apart.lowest {s : BatchState} (apart : Apart s) {session id : Nat} {txn : Txn} {row : Gateway}
    (present : s.txns.sessions.get session = some txn) (opened : txn.gateway = some (id, row)) :
    LowestFree s.txns.db row.name := by
  obtain ⟨chosen, -, unnamed⟩ := apart.opened session txn id row present opened
  exact (apart.chosen session txn row.name present chosen).resolve_left unnamed

/-- Steps that show no name, no gateway and no new creation. -/
theorem Apart.same_view {s t : BatchState} (apart : Apart s) (lan : t.lan = s.lan)
    (gateways : ∀ id, t.txns.db.gateways.get id = s.txns.db.gateways.get id)
    (calls : ∀ call own, pending t call = some own → pending s call = some own)
    (next : s.txns.sessions.next ≤ t.txns.sessions.next)
    (sessions : ∀ session txn, t.txns.sessions.get session = some txn → ∃ before,
      s.txns.sessions.get session = some before ∧ txn.chosenName = before.chosenName ∧ txn.gateway = before.gateway ∧
        (before.automatic → txn.automatic)) : Apart t where
  distinct := by
    intro groupId lanIp first second one other present present'
    rw [gateways] at present present'
    rw [lan]
    exact apart.distinct groupId lanIp first second one other present present'
  automatic := by
    intro session txn present
    obtain ⟨before, found, -, -, automatic⟩ := sessions session txn present
    exact automatic (apart.automatic session before found)
  chosen := by
    intro session txn name present chosen
    obtain ⟨before, found, same, -, -⟩ := sessions session txn present
    rw [named_congr gateways, lowestFree_congr gateways]
    exact apart.chosen session before name found (same.symm.trans chosen)
  opened := by
    intro session txn id row present opened
    obtain ⟨before, found, same, gateway, -⟩ := sessions session txn present
    rw [named_congr gateways, gateways, same]
    exact apart.opened session before id row found (gateway.symm.trans opened)
  single := by
    intro first second one other present present' opened opened'
    obtain ⟨before, found, -, gateway, -⟩ := sessions first one present
    obtain ⟨before', found', -, gateway', -⟩ := sessions second other present'
    exact apart.single first second before before' found found' (gateway ▸ opened) (gateway' ▸ opened')
  own := by
    intro first second one other present present' same
    exact apart.own first second one other (calls first one present) (calls second other present') same
  begun := by
    intro call own present
    exact Nat.lt_of_lt_of_le (apart.begun call own (calls call own present)) next
  reserved := by
    intro call own txn name present found chosen
    obtain ⟨before, found', same, -, -⟩ := sessions own.session txn found
    have used : Used t own.groupId own.lanIp ↔ Used s own.groupId own.lanIp := by
      simp only [Used, gateways, lan]
    rw [used, named_congr gateways]
    exact apart.reserved call own before name (calls call own present) found' (same.symm.trans chosen)

/-! ### Calls -/

theorem pending_become {s : BatchState} {call : Nat} {stage : BatchCall} (idle : stage.pending = none) {other : Nat}
    {own : Pending} (found : pending (s.become call stage) other = some own) : pending s other = some own := by
  obtain ⟨present, present_stage, waiting⟩ := Option.bind_eq_some_iff.mp found
  obtain ⟨before, earlier, same⟩ := Table.get_modify_some present_stage
  split at same
  · rw [same, idle] at waiting
    cases waiting
  · rw [same] at waiting
    exact Option.bind_eq_some_iff.mpr ⟨before, earlier, waiting⟩

theorem pending_finish {s : BatchState} {call other : Nat} {own : Pending}
    (found : pending (s.finish call) other = some own) : pending s other = some own := by
  obtain ⟨stage, present, waiting⟩ := Option.bind_eq_some_iff.mp found
  exact Option.bind_eq_some_iff.mpr ⟨stage, (Table.get_delete_some present).2, waiting⟩

/-- A step that only moves a call on or ends it. -/
theorem Apart.calls {s : BatchState} (apart : Apart s) (calls : Table BatchCall)
    (kept : ∀ call own, pending { s with calls } call = some own → pending s call = some own) :
    Apart { s with calls } := by
  refine apart.same_view rfl (fun _ => rfl) kept (Nat.le_refl _) ?_
  exact fun _ txn present => ⟨txn, present, rfl, rfl, id⟩

theorem Apart.become {s : BatchState} (apart : Apart s) (call : Nat) {stage : BatchCall} (idle : stage.pending = none) :
    Apart (s.become call stage) := apart.calls _ fun _ _ => pending_become idle

theorem Apart.finish {s : BatchState} (apart : Apart s) (call : Nat) : Apart (s.finish call) :=
  apart.calls _ fun _ _ => pending_finish

/-- A session that ends without a gateway. -/
theorem Apart.close {s : BatchState} (apart : Apart s) (session : Nat) {db : Db}
    (gateways : ∀ id, db.gateways.get id = s.txns.db.gateways.get id) :
    Apart { s with txns := State.close { s.txns with db } session } := by
  refine apart.same_view rfl gateways (fun _ _ found => found) (Nat.le_refl _) ?_
  intro other txn present
  exact ⟨txn, (Table.get_delete_some present).2, rfl, rfl, id⟩

theorem pending_begin {s : BatchState} {txns : State} {call groupId remaining session : Nat} {group : PeerGroup}
    {lanIp : Address} {slot : Int} {other : Nat} {own : Pending}
    (found : pending ({ s with txns }.become call (.creating groupId group remaining lanIp slot session)) other = some own) :
    other = call ∧ own = ⟨groupId, lanIp, session⟩ ∨ other ≠ call ∧ pending s other = some own := by
  obtain ⟨stage, present, waiting⟩ := Option.bind_eq_some_iff.mp found
  obtain ⟨before, earlier, same⟩ := Table.get_modify_some present
  split at same
  · rename_i here
    rw [same] at waiting
    exact .inl ⟨here, (Option.some.inj waiting).symm⟩
  · rename_i elsewhere
    rw [same] at waiting
    exact .inr ⟨elsewhere, Option.bind_eq_some_iff.mpr ⟨before, earlier, waiting⟩⟩

theorem Apart.begin {s : BatchState} (apart : Apart s) (call groupId remaining : Nat) (group : PeerGroup)
    (lanIp : Address) (slot : Int) (creation : CreationCalls) :
    Apart ({ s with txns := begin_ s.txns (.naming creation (groupRequest group)) }.become call
      (.creating groupId group remaining lanIp slot s.txns.sessions.next)) := by
  have sessions : ∀ session txn, (s.txns.sessions.insert (.naming creation (groupRequest group))).get session = some txn →
      txn = .naming creation (groupRequest group) ∨
        session ≠ s.txns.sessions.next ∧ s.txns.sessions.get session = some txn := by
    intro session txn present
    rw [Table.get_insert] at present
    split at present
    · cases present
      exact .inl rfl
    · exact .inr ⟨by assumption, present⟩
  constructor
  · exact apart.distinct
  · intro session txn present
    rcases sessions session txn present with rfl | ⟨-, before⟩
    · simp only [Txn.automatic, groupRequest]
    · exact apart.automatic session txn before
  · intro session txn name present chosen
    rcases sessions session txn present with rfl | ⟨-, before⟩
    · cases chosen
    · exact apart.chosen session txn name before chosen
  · intro session txn id row present opened
    rcases sessions session txn present with rfl | ⟨-, before⟩
    · cases opened
    · exact apart.opened session txn id row before opened
  · intro first second one other present present' opened opened'
    rcases sessions first one present with rfl | ⟨-, before⟩
    · exact absurd rfl opened
    · rcases sessions second other present' with rfl | ⟨-, before'⟩
      · exact absurd rfl opened'
      · exact apart.single first second one other before before' opened opened'
  · intro first second one other found found' same
    rcases pending_begin found with ⟨here, rfl⟩ | ⟨-, earlier⟩
    · rcases pending_begin found' with ⟨here', rfl⟩ | ⟨-, earlier'⟩
      · exact here.trans here'.symm
      · exact absurd same.symm (Nat.ne_of_lt (apart.begun second other earlier'))
    · rcases pending_begin found' with ⟨-, rfl⟩ | ⟨-, earlier'⟩
      · exact absurd same (Nat.ne_of_lt (apart.begun first one earlier))
      · exact apart.own first second one other earlier earlier' same
  · intro other own found
    rcases pending_begin found with ⟨-, rfl⟩ | ⟨-, earlier⟩
    · exact Nat.lt_succ_self _
    · exact Nat.lt_succ_of_lt (apart.begun other own earlier)
  · intro other own txn name found present chosen
    rcases sessions own.session txn present with rfl | ⟨known, before⟩
    · cases chosen
    · rcases pending_begin found with ⟨-, rfl⟩ | ⟨-, earlier⟩
      · exact absurd rfl known
      · exact apart.reserved other own txn name earlier before chosen

/-! ### The statements of a creation -/

theorem sessions_modified {s t : State} {session other : Nat} {after txn : Txn}
    (sessions : t.sessions = s.sessions.modify session fun _ => after) (present : t.sessions.get other = some txn) :
    (other = session ∧ txn = after) ∨ other ≠ session ∧ s.sessions.get other = some txn := by
  rw [sessions] at present
  obtain ⟨before, earlier, same⟩ := Table.get_modify_some present
  split at same
  · exact .inl ⟨by assumption, same⟩
  · rw [same]
    exact .inr ⟨by assumption, earlier⟩

theorem automatic_of_known {txn : Txn} (known : txn.chosenName ≠ none) : txn.automatic := by
  cases txn with
  | naming calls request => exact absurd rfl known
  | _ => trivial

theorem Apart.moved {s : BatchState} {t : State} {session : Nat} {txn after : Txn} (apart : Apart s)
    (present : s.txns.sessions.get session = some txn) (chosen : after.chosenName = txn.chosenName)
    (known : txn.chosenName ≠ none) (before : txn.gateway = none) (still : after.gateway = none)
    (gateways : ∀ id, t.db.gateways.get id = s.txns.db.gateways.get id)
    (sessions : t.sessions = s.txns.sessions.modify session fun _ => after) : Apart { s with txns := t } := by
  refine apart.same_view rfl gateways (fun _ _ found => found) ?_ ?_
  · rw [sessions]
    exact Nat.le_refl _
  · intro other found_txn found
    rcases sessions_modified sessions found with ⟨rfl, rfl⟩ | ⟨-, earlier⟩
    · exact ⟨txn, present, chosen, still.trans before.symm, fun _ => automatic_of_known (chosen ▸ known)⟩
    · exact ⟨found_txn, earlier, rfl, rfl, id⟩

/-- The name is read while the address is free. -/
theorem Apart.named {s : BatchState} {session : Nat} {calls : CreationCalls} {request : CreateGatewayRequest}
    {name : String} (apart : Apart s) (present : s.txns.sessions.get session = some (.naming calls request))
    (free : ∀ call own, pending s call = some own → own.session = session → ¬ Used s own.groupId own.lanIp)
    (chosen : requestedName s.txns.db request = .ok name) :
    Apart { s with txns := s.txns.become session (.nameChosen calls request name) } := by
  have lowest := lowestFree_of_requestedName (apart.automatic session _ present) chosen
  have sessions : ∀ other txn, (s.txns.become session (.nameChosen calls request name)).sessions.get other = some txn →
      (other = session ∧ txn = .nameChosen calls request name) ∨
        other ≠ session ∧ s.txns.sessions.get other = some txn :=
    fun _ _ found => sessions_modified rfl found
  constructor
  · exact apart.distinct
  · intro other txn found
    rcases sessions other txn found with ⟨-, rfl⟩ | ⟨-, before⟩
    · trivial
    · exact apart.automatic other txn before
  · intro other txn own found known
    rcases sessions other txn found with ⟨-, rfl⟩ | ⟨-, before⟩
    · cases known
      exact .inr lowest
    · exact apart.chosen other txn own before known
  · intro other txn id row found opened
    rcases sessions other txn found with ⟨-, rfl⟩ | ⟨-, before⟩
    · cases opened
    · exact apart.opened other txn id row before opened
  · intro first second one other found found' opened opened'
    rcases sessions first one found with ⟨-, rfl⟩ | ⟨-, before⟩
    · exact absurd rfl opened
    · rcases sessions second other found' with ⟨-, rfl⟩ | ⟨-, before'⟩
      · exact absurd rfl opened'
      · exact apart.single first second one other before before' opened opened'
  · exact apart.own
  · exact apart.begun
  · intro call own txn known waiting found chosen
    rcases sessions own.session txn found with ⟨here, -⟩ | ⟨-, before⟩
    · exact .inl (free call own waiting here)
    · exact apart.reserved call own txn known waiting before chosen

/-- Only one creation at a time has its gateway inserted: another one would have the same name. -/
theorem Apart.inserted {s : BatchState} {t : State} {session id : Nat} {txn after : Txn} {row : Gateway} (apart : Apart s)
    (present : s.txns.sessions.get session = some txn) (chosen : after.chosenName = txn.chosenName)
    (known : txn.chosenName = some row.name) (opened : after.gateway = some (id, row))
    (unused : s.txns.db.gateways.get id = none) (unnamed : ¬ Named s.txns.db row.name)
    (alone : ∀ other ∈ s.txns.open_ Txn.gateway, other.name ≠ row.name)
    (gateways : ∀ id, t.db.gateways.get id = s.txns.db.gateways.get id)
    (sessions : t.sessions = s.txns.sessions.modify session fun _ => after) : Apart { s with txns := t } := by
  have lowest : LowestFree s.txns.db row.name :=
    (apart.chosen session txn row.name present known).resolve_left unnamed
  have nobody : ∀ other txn, s.txns.sessions.get other = some txn → txn.gateway = none := by
    intro other txn found
    cases inserted : txn.gateway with
    | none => rfl
    | some entry =>
        obtain ⟨id, waiting⟩ := entry
        have same := (apart.lowest found inserted).unique lowest
        exact absurd same (alone waiting (mem_open found inserted))
  have views : ∀ other found, t.sessions.get other = some found →
      (other = session ∧ found = after) ∨ other ≠ session ∧ s.txns.sessions.get other = some found :=
    fun _ _ stored => sessions_modified sessions stored
  constructor
  · intro groupId lanIp first second one other stored stored'
    rw [gateways] at stored stored'
    exact apart.distinct groupId lanIp first second one other stored stored'
  · intro other found stored
    rcases views other found stored with ⟨-, rfl⟩ | ⟨-, before⟩
    · exact automatic_of_known (by rw [chosen, known]; nofun)
    · exact apart.automatic other found before
  · intro other found name stored named
    rw [named_congr gateways, lowestFree_congr gateways]
    rcases views other found stored with ⟨-, rfl⟩ | ⟨-, before⟩
    · exact apart.chosen session txn name present (chosen.symm.trans named)
    · exact apart.chosen other found name before named
  · intro other found entry waiting stored inserted
    rcases views other found stored with ⟨-, rfl⟩ | ⟨-, before⟩
    · rw [opened] at inserted
      cases inserted
      rw [named_congr gateways, gateways]
      exact ⟨chosen.trans known, unused, unnamed⟩
    · rw [nobody other found before] at inserted
      cases inserted
  · intro first second one other stored stored' inserted inserted'
    rcases views first one stored with ⟨here, -⟩ | ⟨-, before⟩
    · rcases views second other stored' with ⟨here', -⟩ | ⟨-, before'⟩
      · exact here.trans here'.symm
      · exact absurd (nobody second other before') inserted'
    · exact absurd (nobody first one before) inserted
  · exact apart.own
  · intro call own waiting
    have before := apart.begun call own waiting
    rw [sessions]
    exact before
  · intro call own found name waiting stored named
    have used : Used { s with txns := t } own.groupId own.lanIp ↔ Used s own.groupId own.lanIp := by
      simp only [Used, gateways]
    rw [used, named_congr gateways]
    rcases views own.session found stored with ⟨here, rfl⟩ | ⟨-, before⟩
    · rw [← here] at present
      exact apart.reserved call own txn name waiting present (chosen.symm.trans named)
    · exact apart.reserved call own found name waiting before named

/-- The name that is committed is the one every other creation without a committed name holds. -/
theorem Apart.committed {s : BatchState} {t : State} {call groupId remaining session id : Nat} {lanIp : Address} {slot : Int}
    {group : PeerGroup} {txn : Txn} {row : Gateway} (apart : Apart s)
    (waiting : pending s call = some ⟨groupId, lanIp, session⟩) (present : s.txns.sessions.get session = some txn)
    (opened : txn.gateway = some (id, row)) (gateways : t.db.gateways = s.txns.db.gateways.put id row)
    (sessions : t.sessions = s.txns.sessions.delete session) :
    Apart ({ s with
      txns := t
      lan := Function.update s.lan id ⟨some groupId, some lanIp, some slot⟩ }.become call
        (.allocating groupId group remaining)) := by
  obtain ⟨known, unused, unnamed⟩ := apart.opened session txn id row present opened
  have lowest := apart.lowest present opened
  have rows : ∀ other, t.db.gateways.get other = if other = id then some row else s.txns.db.gateways.get other := by
    intro other
    rw [gateways, Table.get_put]
  have named : ∀ name, Named s.txns.db name ∨ LowestFree s.txns.db name → Named t.db name := by
    rintro name (⟨other, held, stored, same⟩ | free)
    · refine ⟨other, held, ?_, same⟩
      rw [rows, if_neg]
      · exact stored
      · rintro rfl
        rw [unused] at stored
        cases stored
    · exact ⟨id, row, by rw [rows, if_pos rfl], lowest.unique free⟩
  have others : ∀ other found, t.sessions.get other = some found →
      other ≠ session ∧ s.txns.sessions.get other = some found := by
    intro other found stored
    rw [sessions] at stored
    exact Table.get_delete_some stored
  have uninserted : ∀ other found, t.sessions.get other = some found → found.gateway = none := by
    intro other found stored
    obtain ⟨different, before⟩ := others other found stored
    by_contra inserted
    exact different (apart.single other session found txn before present inserted (by rw [opened]; nofun))
  have free : ¬ Used s groupId lanIp :=
    (apart.reserved call _ txn row.name waiting present known).resolve_right unnamed
  have calls : ∀ other own, pending ({ s with
      txns := t
      lan := Function.update s.lan id ⟨some groupId, some lanIp, some slot⟩ }.become call
        (.allocating groupId group remaining)) other = some own → pending s other = some own :=
    fun _ _ found => pending_become rfl found
  -- the new gateway's address is used by no gateway of its group
  have apart_new : ∀ g x other held, t.db.gateways.get other = some held → other ≠ id →
      (Function.update s.lan id ⟨some groupId, some lanIp, some slot⟩ other).inGroup g = true →
        (Function.update s.lan id ⟨some groupId, some lanIp, some slot⟩ other).lanIp = some x →
          s.txns.db.gateways.get other = some held ∧ (s.lan other).inGroup g = true ∧ (s.lan other).lanIp = some x := by
    intro g x other held stored different grouped address
    rw [Function.update_of_ne different] at grouped address
    rw [rows, if_neg different] at stored
    exact ⟨stored, grouped, address⟩
  have new_columns : ∀ g x,
      (Function.update s.lan id ⟨some groupId, some lanIp, some slot⟩ id).inGroup g = true →
        (Function.update s.lan id ⟨some groupId, some lanIp, some slot⟩ id).lanIp = some x →
          g = groupId ∧ x = lanIp := by
    intro g x grouped address
    rw [Function.update_self] at grouped address
    exact ⟨(Option.some.inj (of_decide_eq_true grouped)).symm, (Option.some.inj address).symm⟩
  constructor
  · intro g x first second one other stored stored' grouped grouped' address address'
    by_cases new : first = id
    · by_cases new' : second = id
      · exact new.trans new'.symm
      · subst new
        obtain ⟨rfl, rfl⟩ := new_columns g x grouped address
        obtain ⟨before, columns⟩ := apart_new g x second other stored' new' grouped' address'
        exact absurd ⟨second, other, before, columns⟩ free
    · obtain ⟨before, columns⟩ := apart_new g x first one stored new grouped address
      by_cases new' : second = id
      · subst new'
        obtain ⟨rfl, rfl⟩ := new_columns g x grouped' address'
        exact absurd ⟨first, one, before, columns⟩ free
      · obtain ⟨before', columns'⟩ := apart_new g x second other stored' new' grouped' address'
        exact apart.distinct g x first second one other before before' columns.1 columns'.1 columns.2 columns'.2
  · intro other found stored
    exact apart.automatic other found (others other found stored).2
  · intro other found name stored chosen
    exact .inl (named name (apart.chosen other found name (others other found stored).2 chosen))
  · intro other found entry held stored inserted
    rw [uninserted other found stored] at inserted
    cases inserted
  · intro first second one other stored _ inserted
    exact absurd (uninserted first one stored) inserted
  · intro first second one other found found' same
    exact apart.own first second one other (calls first one found) (calls second other found') same
  · intro other own found
    have before := apart.begun other own (calls other own found)
    rw [BatchState.become, sessions]
    exact before
  · intro other own found name waiting' stored chosen
    exact .inr (named name (apart.chosen own.session found name (others own.session found stored).2 chosen))

theorem pending_of_get {s : BatchState} {call groupId remaining session : Nat} {group : PeerGroup} {lanIp : Address} {slot : Int}
    (present : s.calls.get call = some (.creating groupId group remaining lanIp slot session)) :
    pending s call = some ⟨groupId, lanIp, session⟩ := by
  rw [pending, present]
  rfl

theorem creationNext_apart {s t : BatchState} {call groupId remaining session : Nat} {group : PeerGroup} {lanIp : Address}
    {slot : Int} (apart : Apart s) (present : s.calls.get call = some (.creating groupId group remaining lanIp slot session))
    (free : ∀ calls request, s.txns.sessions.get session = some (.naming calls request) → ¬ Used s groupId lanIp)
    (advanced : creationNext s call groupId group remaining lanIp slot session = some t) : Apart t := by
  have waiting := pending_of_get present
  unfold creationNext at advanced
  split at advanced
  · cases advanced
    exact apart.finish call
  · rename_i txn running
    split at advanced
    · cases advanced
      exact (apart.close session fun _ => rfl).finish call
    · split at advanced
      · cases advanced
      · rename_i txns created
        cases creationEffect created with
        | named reading chosen same =>
            subst reading same
            cases advanced
            refine apart.named running ?_ chosen
            intro other own found here
            have single := apart.own other call own _ found waiting here
            subst single
            rw [waiting] at found
            cases found
            exact free _ _ running
        | moved chosen known before still gateways sessions =>
            split at advanced
            · cases before
            · cases advanced
              exact apart.moved running chosen known before still gateways sessions
        | inserted chosen known before opened unused unnamed alone gateways sessions =>
            split at advanced
            · cases before
            · cases advanced
              exact apart.inserted running chosen known opened unused unnamed alone gateways sessions
        | refused before gateways sessions =>
            split at advanced
            · cases before
            · cases advanced
              refine apart.same_view rfl gateways (fun _ _ found => found) ?_ ?_
              · rw [sessions]
                exact Nat.le_refl _
              · intro other found stored
                rw [sessions] at stored
                exact ⟨found, (Table.get_delete_some stored).2, rfl, rfl, id⟩
        | committed inserted opened gateways sessions =>
            subst inserted
            cases opened
            cases advanced
            exact apart.committed waiting running rfl gateways sessions

theorem callNext_apart {s t : BatchState} {call : Nat} {creation : CreationCalls} {stage : BatchCall} (apart : Apart s)
    (present : s.calls.get call = some stage) (free : AddressStillFree s (.next call creation))
    (advanced : callNext s call creation stage = some t) : Apart t := by
  cases stage with
  | requested groupId count =>
      simp only [callNext] at advanced
      split at advanced
      · cases advanced
        exact apart.finish call
      · split at advanced
        · cases advanced
          exact apart.finish call
        · cases advanced
          exact apart.become call rfl
  | groupRead groupId count group =>
      simp only [callNext] at advanced
      split at advanced
      · cases advanced
        exact apart.finish call
      · split at advanced
        · cases advanced
          exact apart.finish call
        · cases advanced
          exact apart.become call rfl
  | allocating groupId group remaining =>
      cases remaining with
      | zero =>
          cases advanced
          exact apart.finish call
      | succ remaining =>
          simp only [callNext] at advanced
          split at advanced
          · cases advanced
            exact apart.finish call
          · split at advanced
            · cases advanced
              exact apart.finish call
            · cases advanced
              exact apart.begin call groupId remaining group _ _ creation
  | creating groupId group remaining lanIp slot session =>
      refine creationNext_apart apart present ?_ advanced
      intro calls request running
      exact free _ calls request (pending_of_get present) running

theorem callFail_apart {s t : BatchState} {call : Nat} {committed : Bool} {stage : BatchCall} (apart : Apart s)
    (failed : callFail s call committed stage = some t) : Apart t := by
  unfold callFail at failed
  split at failed
  · split at failed
    · cases failed
      exact apart.finish call
    · rename_i txn running
      split at failed
      · cases failed
      · rename_i unflushed
        cases failed
        refine Apart.finish (apart.close _ ?_) call
        intro id
        cases committed with
        | false => rfl
        | true =>
            have nothing : txn.gateway = none := by simpa using unflushed
            simp only [stored, nothing]
            rfl
  · cases failed
    exact apart.finish call

theorem batchStep_apart {s t : BatchState} {event : BatchEvent} (apart : Apart s) (free : AddressStillFree s event)
    (stepped : batchStep s event = some t) : Apart t := by
  cases event with
  | request groupId count =>
      cases stepped
      apply apart.calls _
      intro call own found
      obtain ⟨stage, present, waiting⟩ := Option.bind_eq_some_iff.mp found
      dsimp only at present
      rw [Table.get_insert] at present
      split at present
      · cases present
        cases waiting
      · exact Option.bind_eq_some_iff.mpr ⟨stage, present, waiting⟩
  | next call creation =>
      simp only [batchStep] at stepped
      split at stepped
      · cases stepped
      · rename_i stage present
        exact callNext_apart apart present free stepped
  | fail call committed =>
      simp only [batchStep] at stepped
      split at stepped
      · cases stepped
      · exact callFail_apart apart stepped

/-- Any database in which the groups' addresses are distinct, and nobody at work. -/
structure BatchInitial (s : BatchState) : Prop where
  distinct : LanIpsDistinct s
  sessions : ∀ id, s.txns.sessions.get id = none
  calls : ∀ id, s.calls.get id = none

theorem apart_initial {s : BatchState} (initial : BatchInitial s) : Apart s := by
  have idle : ∀ call, pending s call = none := by
    intro call
    rw [pending, initial.calls]
    rfl
  constructor
  · exact initial.distinct
  · intro session txn present
    simp [initial.sessions] at present
  · intro session txn name present
    simp [initial.sessions] at present
  · intro session txn id row present
    simp [initial.sessions] at present
  · intro first second one other present
    simp [initial.sessions] at present
  · intro first second one other found
    simp [idle] at found
  · intro call own found
    simp [idle] at found
  · intro call own txn name found
    simp [idle] at found

/-- LAN addresses are distinct in runs where no gateway with the address of a call is committed between the call's
reading of the addresses and its reading of the names. -/
theorem lan_ips_distinct_while_addresses_free {s t : BatchState} (initial : BatchInitial s)
    (reached : Reaches batchStep AddressStillFree s t) : LanIpsDistinct t := by
  have apart : Apart t := reached.invariant (apart_initial initial) fun _ _ _ earlier free stepped =>
    batchStep_apart earlier free stepped
  exact apart.distinct

/-! ### Two calls at once -/

def addressStillFreeB (s : BatchState) : BatchEvent → Bool
  | .next call _ =>
      match pending s call with
      | none => true
      | some own =>
          match s.txns.sessions.get own.session with
          | some (.naming _ _) => !(usedLanIps s.view own.groupId).contains own.lanIp
          | _ => true
  | _ => true

theorem mem_usedLanIps {s : BatchState} {groupId : Nat} {lanIp : Address} :
    lanIp ∈ usedLanIps s.view groupId ↔ Used s groupId lanIp := by
  simp only [usedLanIps, groupGateways, List.mem_filterMap, List.mem_filter, List.mem_map, Prod.exists]
  constructor
  · rintro ⟨id, ⟨⟨other, row, stored, rfl⟩, grouped⟩, address⟩
    exact ⟨other, row, Table.mem_toList.mp stored, grouped, address⟩
  · rintro ⟨id, row, present, grouped, address⟩
    exact ⟨id, ⟨⟨id, row, Table.mem_toList.mpr present, rfl⟩, grouped⟩, address⟩

theorem addressStillFree_of_check (s : BatchState) (event : BatchEvent) (checked : addressStillFreeB s event = true) :
    AddressStillFree s event := by
  cases event with
  | next call creation =>
      intro own calls request waiting running used
      simp only [addressStillFreeB, waiting, running] at checked
      rw [List.contains_iff_mem.mpr (mem_usedLanIps.mpr used)] at checked
      cases checked
  | _ => trivial

def oneGroup : BatchState where
  txns := ⟨{ Db.empty with
    workers := Table.empty.insert ⟨"w1", "w1", "https://w1:8443", true, some 0, 51820, 51920, 168427775, 168427530⟩ },
    Table.empty⟩
  groups := Table.empty.insert ⟨"g", 1, .v4 ⟨3232238848, 24⟩, .v4 3232238948, "192.168.13.254", none⟩
  lan := fun _ => ⟨none, none, none⟩
  calls := Table.empty
  sizes := .unlimited

theorem oneGroup_initial : BatchInitial oneGroup where
  distinct := by
    intro groupId lanIp first second one other present
    cases present
  sessions := fun _ => rfl
  calls := fun _ => rfl

def advance (call steps : Nat) : List BatchEvent := List.replicate steps (.next call ⟨0, 2624, .ok ()⟩)

/-- The second call read the addresses before the first one's commit and the names after it. -/
theorem racing_batches_share_lan_ip :
    ∃ t, Reaches batchStep (fun _ _ => True) oneGroup t ∧ ¬ LanIpsDistinct t := by
  let events := [.request 1 1, .request 1 1] ++ advance 1 3 ++ advance 2 3 ++ advance 1 11 ++ advance 2 11
  have ran : (Lib.run batchStep (fun _ _ => true) oneGroup events).any (fun t =>
      decide ((t.txns.db.gateways.get 1).isSome ∧ (t.txns.db.gateways.get 2).isSome ∧
        t.lan 1 = ⟨some 1, some (.v4 3232238948), some 100⟩ ∧ t.lan 2 = t.lan 1)) = true := by
    decide +kernel
  obtain ⟨t, arrived, facts⟩ := Lib.exists_of_any ran
  obtain ⟨first, second, columns, same⟩ := of_decide_eq_true facts
  refine ⟨t, Lib.reaches_of_run (fun _ _ _ => trivial) arrived, ?_⟩
  intro distinct
  obtain ⟨one, present⟩ := Option.isSome_iff_exists.mp first
  obtain ⟨other, present'⟩ := Option.isSome_iff_exists.mp second
  rw [columns] at same
  have equal := distinct 1 (.v4 3232238948) 1 2 one other present present' (by rw [columns]; rfl) (by rw [same]; rfl)
    (by rw [columns]) (by rw [same])
  cases equal

/-- Both calls settled on one name, so the second one is refused; a third one gets the next address. -/
theorem refused_batch_keeps_lan_ips_distinct :
    ∃ t, Reaches batchStep AddressStillFree oneGroup t ∧ (t.lan 2).lanIp = some (.v4 3232238949) ∧ LanIpsDistinct t := by
  let events := [.request 1 1, .request 1 1] ++ advance 1 5 ++ advance 2 5 ++ advance 1 9 ++ advance 2 9 ++
    [.request 1 1] ++ advance 3 14
  have ran : (Lib.run batchStep addressStillFreeB oneGroup events).any (fun t =>
      decide ((t.lan 2).lanIp = some (.v4 3232238949))) = true := by
    decide +kernel
  obtain ⟨t, arrived, address⟩ := Lib.exists_of_any ran
  have reached : Reaches batchStep AddressStillFree oneGroup t := Lib.reaches_of_run addressStillFree_of_check arrived
  exact ⟨t, reached, of_decide_eq_true address, lan_ips_distinct_while_addresses_free oneGroup_initial reached⟩

end DeepOrc.Allocation

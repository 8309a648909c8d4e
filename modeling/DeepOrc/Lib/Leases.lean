import DeepOrc.Lib.Table
import Mathlib.Logic.Relation

/-!
# Leases with unique keys

Sessions insert leases, no two of them under one key, and holders that live on such a lease. A holder goes
together with its lease, in a session of its own; a tagged lease belongs to no holder and may be removed alone.
Rows are seen by other sessions once they are committed, but a key stays taken while any session holds it.
-/

namespace DeepOrc.Lib.Leases

variable {κ : Type*}

structure Lease (κ : Type*) where
  key : κ
  tagged : Bool

/-- Rows a session inserted and has not committed, and what it is about to remove. -/
structure Footprint (κ : Type*) where
  lease : Option (Nat × Lease κ)
  holder : Option (Nat × κ)
  removing : Option Nat
  loaded : Option κ
  doomed : Option Nat

namespace Footprint

def idle : Footprint κ := ⟨none, none, none, none, none⟩

def inserting (id : Nat) (lease : Lease κ) (holder : Option (Nat × κ)) : Footprint κ :=
  ⟨some (id, lease), holder, none, none, none⟩

def remover (holder : Nat) (loaded : Option κ) (doomed : Option Nat) : Footprint κ :=
  ⟨none, none, some holder, loaded, doomed⟩

def releasing (doomed : Nat) : Footprint κ := ⟨none, none, none, none, some doomed⟩

end Footprint

structure Ledger (κ : Type*) where
  leases : Table (Lease κ)
  holders : Table κ
  sessions : Nat → Footprint κ

namespace Ledger

def become (ledger : Ledger κ) (session : Nat) (footprint : Footprint κ) : Ledger κ :=
  { ledger with sessions := Function.update ledger.sessions session footprint }

inductive Step : Ledger κ → Ledger κ → Prop where
  | insertLease {ledger : Ledger κ} {session : Nat} (lease : Lease κ) (fresh : ledger.sessions session = .idle)
      (free : ∀ id other, ledger.leases.get id = some other → other.key ≠ lease.key)
      (uncontended : ∀ other id row, (ledger.sessions other).lease = some (id, row) → row.key ≠ lease.key) :
      Step ledger ({ ledger with leases := ledger.leases.reserve }.become session
        (.inserting ledger.leases.next lease none))
  | insertHolder {ledger : Ledger κ} {session id : Nat} {lease : Lease κ}
      (leased : ledger.sessions session = .inserting id lease none) (own : lease.tagged = false) :
      Step ledger ({ ledger with holders := ledger.holders.reserve }.become session
        (.inserting id lease (some (ledger.holders.next, lease.key))))
  | beginRemoval {ledger : Ledger κ} {session holder : Nat} (fresh : ledger.sessions session = .idle)
      (alone : ∀ other, (ledger.sessions other).removing ≠ some holder) :
      Step ledger (ledger.become session (.remover holder none none))
  | load {ledger : Ledger κ} {session holder : Nat} {key : κ}
      (begun : ledger.sessions session = .remover holder none none)
      (present : ledger.holders.get holder = some key) :
      Step ledger (ledger.become session (.remover holder (some key) none))
  | doom {ledger : Ledger κ} {session holder id : Nat} {lease : Lease κ}
      (loaded : ledger.sessions session = .remover holder (some lease.key) none)
      (present : ledger.leases.get id = some lease) :
      Step ledger (ledger.become session (.remover holder (some lease.key) (some id)))
  | doomTagged {ledger : Ledger κ} {session id : Nat} {lease : Lease κ} (fresh : ledger.sessions session = .idle)
      (present : ledger.leases.get id = some lease) (tagged : lease.tagged = true) :
      Step ledger (ledger.become session (.releasing id))
  | commit (ledger : Ledger κ) (session : Nat) :
      Step ledger ({ ledger with
        leases := ledger.leases.putOption (ledger.sessions session).lease
        holders := ledger.holders.putOption (ledger.sessions session).holder }.become session .idle)
  | commitRemoval {ledger : Ledger κ} {session holder : Nat}
      (removing : (ledger.sessions session).removing = some holder) :
      Step ledger ({ ledger with
        leases := ledger.leases.deleteOption (ledger.sessions session).doomed
        holders := ledger.holders.delete holder }.become session .idle)
  | commitRelease {ledger : Ledger κ} {session : Nat} (released : (ledger.sessions session).removing = none) :
      Step ledger ({ ledger with
        leases := ledger.leases.deleteOption (ledger.sessions session).doomed }.become session .idle)
  | close (ledger : Ledger κ) (session : Nat) : Step ledger (ledger.become session .idle)
  | untag {ledger : Ledger κ} (leases : Table (Lease κ)) (ids : leases.next = ledger.leases.next)
      (absent : ∀ id, ledger.leases.get id = none → leases.get id = none)
      (kept : ∀ id lease, ledger.leases.get id = some lease →
        ∃ after, leases.get id = some after ∧ after.key = lease.key ∧ (lease.tagged = false → after.tagged = false)) :
      Step ledger { ledger with leases }

/-- What the committed rows satisfy. -/
structure Committed (leases : Table (Lease κ)) (holders : Table κ) : Prop where
  backed : ∀ holder key, holders.get holder = some key →
    ∃ id lease, leases.get id = some lease ∧ lease.key = key ∧ lease.tagged = false
  leases_unique : ∀ first second one other, leases.get first = some one → leases.get second = some other →
    one.key = other.key → first = second
  holders_unique : ∀ first second key, holders.get first = some key → holders.get second = some key → first = second

/-- What one session may have open beside the committed rows. -/
structure Alone (leases : Table (Lease κ)) (holders : Table κ) (own : Footprint κ) : Prop where
  lease : ∀ id lease, own.lease = some (id, lease) →
    id < leases.next ∧ leases.get id = none ∧ ∀ other row, leases.get other = some row → row.key ≠ lease.key
  holder : ∀ id key, own.holder = some (id, key) → id < holders.next ∧ holders.get id = none ∧
    ∃ leaseId lease, own.lease = some (leaseId, lease) ∧ lease.key = key ∧ lease.tagged = false
  loaded : ∀ holder key, own.removing = some holder → own.loaded = some key → holders.get holder = some key
  doomed : ∀ id, own.doomed = some id → id < leases.next ∧
    ∀ lease, leases.get id = some lease → ∀ holder, holders.get holder = some lease.key → own.removing = some holder

/-- What keeps two sessions out of each other's way. -/
structure Apart (one other : Footprint κ) : Prop where
  lease : ∀ first second row row', one.lease = some (first, row) → other.lease = some (second, row') →
    first ≠ second ∧ row.key ≠ row'.key
  holder : ∀ first second row row', one.holder = some (first, row) → other.holder = some (second, row') →
    first ≠ second
  removing : ∀ holder, one.removing = some holder → other.removing ≠ some holder
  doomed : ∀ id leaseId lease, one.doomed = some id → other.lease = some (leaseId, lease) → leaseId ≠ id
  doomed' : ∀ id leaseId lease, other.doomed = some id → one.lease = some (leaseId, lease) → leaseId ≠ id

structure Sound (ledger : Ledger κ) : Prop where
  committed : Committed ledger.leases ledger.holders
  alone : ∀ session, Alone ledger.leases ledger.holders (ledger.sessions session)
  apart : ∀ session other, session ≠ other → Apart (ledger.sessions session) (ledger.sessions other)

theorem Apart.symm {one other : Footprint κ} (apart : Apart one other) : Apart other one where
  lease := fun first second row row' left right =>
    ⟨(apart.lease second first row' row right left).1.symm, (apart.lease second first row' row right left).2.symm⟩
  holder := fun first second row row' left right => (apart.holder second first row' row right left).symm
  removing := fun holder left right => apart.removing holder right left
  doomed := apart.doomed'
  doomed' := apart.doomed

theorem alone_idle (leases : Table (Lease κ)) (holders : Table κ) : Alone leases holders .idle where
  lease := fun _ _ open_ => nomatch open_
  holder := fun _ _ open_ => nomatch open_
  loaded := fun _ _ open_ => nomatch open_
  doomed := fun _ open_ => nomatch open_

theorem apart_idle (other : Footprint κ) : Apart .idle other where
  lease := fun _ _ _ _ open_ => nomatch open_
  holder := fun _ _ _ _ open_ => nomatch open_
  removing := fun _ open_ => nomatch open_
  doomed := fun _ _ _ open_ => nomatch open_
  doomed' := fun _ _ _ _ open_ => nomatch open_

/-- A step of one session is sound when it suits the tables it leaves and keeps out of the others' way. -/
theorem sound_become {before ledger : Ledger κ} {session : Nat} {footprint : Footprint κ}
    (sound : Sound before) (same : ledger.sessions = before.sessions)
    (committed : Committed ledger.leases ledger.holders)
    (own : Alone ledger.leases ledger.holders footprint)
    (others : ∀ other, other ≠ session → Alone ledger.leases ledger.holders (before.sessions other))
    (apart : ∀ other, other ≠ session → Apart footprint (before.sessions other)) :
    Sound (ledger.become session footprint) where
  committed := committed
  alone := by
    intro other
    by_cases here : other = session
    · subst here
      simpa [become] using own
    · simpa [become, here, same] using others other here
  apart := by
    intro first second different
    by_cases left : first = session
    · subst left
      simpa [become, different.symm, same] using apart second different.symm
    · by_cases right : second = session
      · subst right
        simpa [become, left, same] using (apart first left).symm
      · simpa [become, left, right, same] using sound.apart first second different

/-! ### Tables that grow or shrink -/

section Tables

variable {leases leases' : Table (Lease κ)} {holders holders' : Table κ} {own : Footprint κ}

theorem Committed.of_get (committed : Committed leases holders) (sameLeases : ∀ id, leases'.get id = leases.get id)
    (sameHolders : ∀ id, holders'.get id = holders.get id) : Committed leases' holders' := by
  refine ⟨?_, ?_, ?_⟩ <;> simp only [sameLeases, sameHolders]
  · exact committed.backed
  · exact committed.leases_unique
  · exact committed.holders_unique

theorem Alone.of_get (alone : Alone leases holders own) (sameLeases : ∀ id, leases'.get id = leases.get id)
    (sameHolders : ∀ id, holders'.get id = holders.get id) (leaseIds : leases.next ≤ leases'.next)
    (holderIds : holders.next ≤ holders'.next) : Alone leases' holders' own := by
  refine ⟨?_, ?_, ?_, ?_⟩ <;> simp only [sameLeases, sameHolders]
  · intro id lease opened
    obtain ⟨drawn, rest⟩ := alone.lease id lease opened
    exact ⟨by omega, rest⟩
  · intro id key opened
    obtain ⟨drawn, rest⟩ := alone.holder id key opened
    exact ⟨by omega, rest⟩
  · exact alone.loaded
  · intro id opened
    obtain ⟨drawn, rest⟩ := alone.doomed id opened
    exact ⟨by omega, rest⟩

/-- Fewer rows suit a session as long as the holder it loaded is still there. -/
theorem Alone.of_subset (alone : Alone leases holders own) (leaseIds : leases'.next = leases.next)
    (holderIds : holders'.next = holders.next)
    (fewerLeases : ∀ id lease, leases'.get id = some lease → leases.get id = some lease)
    (fewerHolders : ∀ id key, holders'.get id = some key → holders.get id = some key)
    (kept : ∀ holder key, own.removing = some holder → holders.get holder = some key →
      holders'.get holder = some key) : Alone leases' holders' own := by
  have absent {α : Type _} {table table' : Table α} (fewer : ∀ id row, table'.get id = some row → table.get id = some row)
      {id : Nat} (missing : table.get id = none) : table'.get id = none := by
    rw [Option.eq_none_iff_forall_ne_some]
    intro row found
    rw [fewer id row found] at missing
    cases missing
  refine ⟨?_, ?_, ?_, ?_⟩
  · intro id lease opened
    obtain ⟨drawn, missing, free⟩ := alone.lease id lease opened
    exact ⟨by omega, absent fewerLeases missing, fun other row found => free other row (fewerLeases other row found)⟩
  · intro id key opened
    obtain ⟨drawn, missing, rest⟩ := alone.holder id key opened
    exact ⟨by omega, absent fewerHolders missing, rest⟩
  · intro holder key removing opened
    exact kept holder key removing (alone.loaded holder key removing opened)
  · intro id opened
    obtain ⟨drawn, owned⟩ := alone.doomed id opened
    exact ⟨by omega, fun lease found holder present =>
      owned lease (fewerLeases id lease found) holder (fewerHolders holder lease.key present)⟩

end Tables

/-! ### Every step is sound -/

theorem insertLease_sound {ledger : Ledger κ} {session : Nat} {lease : Lease κ} (sound : Sound ledger)
    (free : ∀ id other, ledger.leases.get id = some other → other.key ≠ lease.key)
    (uncontended : ∀ other id row, (ledger.sessions other).lease = some (id, row) → row.key ≠ lease.key) :
    Sound ({ ledger with leases := ledger.leases.reserve }.become session
      (.inserting ledger.leases.next lease none)) := by
  have grown : ledger.leases.next ≤ ledger.leases.reserve.next := Nat.le_succ _
  refine sound_become sound rfl (sound.committed.of_get (fun _ => rfl) fun _ => rfl) ?_ ?_ ?_
  · refine ⟨?_, nofun, nofun, nofun⟩
    rintro id row ⟨⟩
    exact ⟨Nat.lt_succ_self _, Table.get_next _, free⟩
  · intro other _
    exact (sound.alone other).of_get (fun _ => rfl) (fun _ => rfl) grown (Nat.le_refl _)
  · intro other _
    refine ⟨?_, nofun, nofun, nofun, ?_⟩
    · rintro first second row row' ⟨⟩ opened
      have drawn := ((sound.alone other).lease second row' opened).1
      exact ⟨by omega, (uncontended other second row' opened).symm⟩
    · rintro id leaseId row doomed ⟨⟩
      have drawn := ((sound.alone other).doomed id doomed).1
      omega

theorem insertHolder_sound {ledger : Ledger κ} {session id : Nat} {lease : Lease κ} (sound : Sound ledger)
    (leased : ledger.sessions session = .inserting id lease none) (own : lease.tagged = false) :
    Sound ({ ledger with holders := ledger.holders.reserve }.become session
      (.inserting id lease (some (ledger.holders.next, lease.key)))) := by
  have grown : ledger.holders.next ≤ ledger.holders.reserve.next := Nat.le_succ _
  have opened : (ledger.sessions session).lease = some (id, lease) := by
    rw [leased]
    rfl
  refine sound_become sound rfl (sound.committed.of_get (fun _ => rfl) fun _ => rfl) ?_ ?_ ?_
  · refine ⟨?_, ?_, nofun, nofun⟩
    · rintro first row ⟨⟩
      exact (sound.alone session).lease id lease opened
    · rintro holder key ⟨⟩
      exact ⟨Nat.lt_succ_self _, Table.get_next _, id, lease, rfl, rfl, own⟩
  · intro other _
    exact (sound.alone other).of_get (fun _ => rfl) (fun _ => rfl) (Nat.le_refl _) grown
  · intro other different
    have apart := sound.apart session other different.symm
    refine ⟨?_, ?_, nofun, nofun, ?_⟩
    · rintro first second row row' ⟨⟩ theirs
      exact apart.lease id second lease row' opened theirs
    · rintro first second row row' ⟨⟩ theirs
      have drawn := ((sound.alone other).holder second row' theirs).1
      omega
    · rintro doomed leaseId row theirs ⟨⟩
      exact apart.doomed' doomed id lease theirs opened

theorem removal_sound {ledger : Ledger κ} {session holder : Nat} {loaded : Option κ} {doomed : Option Nat}
    (sound : Sound ledger) (own : Alone ledger.leases ledger.holders (.remover holder loaded doomed))
    (alone : ∀ other, other ≠ session → (ledger.sessions other).removing ≠ some holder)
    (stored : ∀ id, doomed = some id → ∃ lease, ledger.leases.get id = some lease) :
    Sound (ledger.become session (.remover holder loaded doomed)) := by
  refine sound_become sound rfl sound.committed own (fun other _ => sound.alone other) ?_
  intro other different
  refine ⟨nofun, nofun, ?_, ?_, nofun⟩
  · rintro removed ⟨⟩
    exact alone other different
  · rintro id leaseId lease mine theirs rfl
    obtain ⟨row, present⟩ := stored leaseId mine
    rw [((sound.alone other).lease leaseId lease theirs).2.1] at present
    cases present

theorem removing_apart {ledger : Ledger κ} {session holder : Nat} (sound : Sound ledger)
    (removing : (ledger.sessions session).removing = some holder) (other : Nat) (different : other ≠ session) :
    (ledger.sessions other).removing ≠ some holder :=
  (sound.apart session other different.symm).removing holder removing

theorem doom_sound {ledger : Ledger κ} {session holder id : Nat} {lease : Lease κ} (sound : Sound ledger)
    (loaded : ledger.sessions session = .remover holder (some lease.key) none)
    (present : ledger.leases.get id = some lease) :
    Sound (ledger.become session (.remover holder (some lease.key) (some id))) := by
  have removing : (ledger.sessions session).removing = some holder := by
    rw [loaded]
    rfl
  have held := (sound.alone session).loaded holder lease.key removing (by rw [loaded]; rfl)
  refine removal_sound sound ⟨nofun, nofun, ?_, ?_⟩ (removing_apart sound removing) ?_
  · rintro other key ⟨⟩ ⟨⟩
    exact held
  · rintro other ⟨⟩
    refine ⟨Table.lt_next_of_get present, ?_⟩
    intro row found other theirs
    rw [present] at found
    cases found
    rw [sound.committed.holders_unique other holder lease.key theirs held]
    rfl
  · rintro other ⟨⟩
    exact ⟨lease, present⟩

theorem doomTagged_sound {ledger : Ledger κ} {session id : Nat} {lease : Lease κ} (sound : Sound ledger)
    (present : ledger.leases.get id = some lease) (tagged : lease.tagged = true) :
    Sound (ledger.become session (.releasing id)) := by
  refine sound_become sound rfl sound.committed ⟨nofun, nofun, nofun, ?_⟩ (fun other _ => sound.alone other) ?_
  · rintro other ⟨⟩
    refine ⟨Table.lt_next_of_get present, ?_⟩
    -- A holder under this key would live on this very lease, but a holder's lease has no tag.
    intro row found holder held
    rw [present] at found
    cases found
    obtain ⟨backing, row, stored, key, own⟩ := sound.committed.backed holder lease.key held
    obtain rfl := sound.committed.leases_unique backing id row lease stored present key
    rw [present] at stored
    cases stored
    rw [own] at tagged
    cases tagged
  · intro other _
    refine ⟨nofun, nofun, nofun, ?_, nofun⟩
    rintro doomed leaseId row ⟨⟩ theirs rfl
    rw [((sound.alone other).lease leaseId row theirs).2.1] at present
    cases present

theorem commitLease_sound {ledger : Ledger κ} {session id : Nat} {lease : Lease κ} (sound : Sound ledger)
    (opened : (ledger.sessions session).lease = some (id, lease)) :
    Sound ({ ledger with leases := ledger.leases.put id lease }.become session .idle) := by
  obtain ⟨drawn, missing, free⟩ := (sound.alone session).lease id lease opened
  have older {other : Nat} {row : Lease κ} (found : ledger.leases.get other = some row) :
      (ledger.leases.put id lease).get other = some row := by
    rw [Table.get_put, if_neg ?_, found]
    rintro rfl
    rw [missing] at found
    cases found
  have newer {other : Nat} {row : Lease κ} (found : (ledger.leases.put id lease).get other = some row) :
      other = id ∧ row = lease ∨ other ≠ id ∧ ledger.leases.get other = some row := by
    rw [Table.get_put] at found
    split at found
    · exact .inl ⟨‹_›, (Option.some.inj found).symm⟩
    · exact .inr ⟨‹_›, found⟩
  have grown : ledger.leases.next ≤ (ledger.leases.put id lease).next := Nat.le_max_left _ _
  refine sound_become sound rfl ⟨?_, ?_, sound.committed.holders_unique⟩ (alone_idle _ _) ?_
    fun other _ => apart_idle _
  · intro holder key held
    obtain ⟨backing, row, stored, rest⟩ := sound.committed.backed holder key held
    exact ⟨backing, row, older stored, rest⟩
  · intro first second one other found found' same
    rcases newer found with ⟨rfl, rfl⟩ | ⟨-, present⟩ <;> rcases newer found' with ⟨rfl, rfl⟩ | ⟨-, present'⟩
    · rfl
    · exact absurd same.symm (free second other present')
    · exact absurd same (free first one present)
    · exact sound.committed.leases_unique first second one other present present' same
  · intro other different
    have alone := sound.alone other
    have apart := sound.apart session other different.symm
    refine ⟨?_, ?_, alone.loaded, ?_⟩
    · intro otherId row theirs
      obtain ⟨drawn', missing', free'⟩ := alone.lease otherId row theirs
      obtain ⟨ids, keys⟩ := apart.lease id otherId lease row opened theirs
      refine ⟨Nat.lt_of_lt_of_le drawn' grown, by rw [Table.get_put, if_neg ids.symm, missing'], ?_⟩
      intro stored value found
      rcases newer found with ⟨rfl, rfl⟩ | ⟨-, present⟩
      · exact keys
      · exact free' stored value present
    · exact alone.holder
    · intro doomed theirs
      obtain ⟨drawn', owned⟩ := alone.doomed doomed theirs
      refine ⟨Nat.lt_of_lt_of_le drawn' grown, ?_⟩
      intro row found
      rcases newer found with ⟨same, -⟩ | ⟨-, present⟩
      · exact absurd same.symm (apart.doomed' doomed id lease theirs opened)
      · exact owned row present

/-- A holder may be added to a committed lease that has none and that nobody is about to remove. -/
theorem admitHolder_sound {ledger : Ledger κ} {id holder : Nat} {lease : Lease κ} (sound : Sound ledger)
    (stored : ledger.leases.get id = some lease) (own : lease.tagged = false)
    (unheld : ∀ other, ledger.holders.get other ≠ some lease.key) (missing : ledger.holders.get holder = none)
    (open_ : ∀ session other key, (ledger.sessions session).holder = some (other, key) → other ≠ holder)
    (undoomed : ∀ session, (ledger.sessions session).doomed ≠ some id) :
    Sound { ledger with holders := ledger.holders.put holder lease.key } := by
  have newer {other : Nat} {key : κ} (found : (ledger.holders.put holder lease.key).get other = some key) :
      other = holder ∧ key = lease.key ∨ ledger.holders.get other = some key := by
    rw [Table.get_put] at found
    split at found
    · exact .inl ⟨‹_›, (Option.some.inj found).symm⟩
    · exact .inr found
  have grown : ledger.holders.next ≤ (ledger.holders.put holder lease.key).next := Nat.le_max_left _ _
  refine ⟨⟨?_, sound.committed.leases_unique, ?_⟩, ?_, sound.apart⟩
  · intro other key found
    rcases newer found with ⟨rfl, rfl⟩ | present
    · exact ⟨id, lease, stored, rfl, own⟩
    · exact sound.committed.backed other key present
  · intro first second key found found'
    rcases newer found with ⟨rfl, rfl⟩ | present <;> rcases newer found' with ⟨rfl, same⟩ | present'
    · rfl
    · exact absurd present' (unheld second)
    · exact absurd (same ▸ present) (unheld first)
    · exact sound.committed.holders_unique first second key present present'
  · intro session
    have alone := sound.alone session
    refine ⟨alone.lease, ?_, ?_, ?_⟩
    · intro other key theirs
      obtain ⟨drawn, absent, rest⟩ := alone.holder other key theirs
      refine ⟨Nat.lt_of_lt_of_le drawn grown, ?_, rest⟩
      rw [Table.get_put, if_neg (open_ session other key theirs), absent]
    · intro other key removing loaded
      have present := alone.loaded other key removing loaded
      rw [Table.get_put, if_neg ?_, present]
      rintro rfl
      rw [missing] at present
      cases present
    · intro doomed theirs
      obtain ⟨drawn, owned⟩ := alone.doomed doomed theirs
      refine ⟨drawn, ?_⟩
      intro row found other held
      rcases newer held with ⟨rfl, same⟩ | present
      · obtain rfl := sound.committed.leases_unique doomed id row lease found stored same
        exact absurd theirs (undoomed session)
      · exact owned row found other present

theorem commit_sound {ledger : Ledger κ} (sound : Sound ledger) (session : Nat) :
    Sound ({ ledger with
      leases := ledger.leases.putOption (ledger.sessions session).lease
      holders := ledger.holders.putOption (ledger.sessions session).holder }.become session .idle) := by
  have alone := sound.alone session
  have apart (other : Nat) (different : other ≠ session) := sound.apart session other different.symm
  cases opened : (ledger.sessions session).lease with
  | none =>
      cases held : (ledger.sessions session).holder with
      | none =>
          exact sound_become sound rfl sound.committed (alone_idle _ _) (fun other _ => sound.alone other)
            fun other _ => apart_idle _
      | some entry =>
          obtain ⟨-, -, leaseId, lease, impossible, -⟩ := alone.holder entry.1 entry.2 held
          rw [opened] at impossible
          cases impossible
  | some entry =>
      obtain ⟨id, lease⟩ := entry
      have leased := commitLease_sound sound opened
      cases held : (ledger.sessions session).holder with
      | none => exact leased
      | some entry =>
          obtain ⟨holder, key⟩ := entry
          obtain ⟨-, missing, leaseId, row, same, rfl, own⟩ := alone.holder holder key held
          rw [opened] at same
          cases same
          refine admitHolder_sound leased ((Table.get_put _ id _ id).trans (if_pos rfl)) own ?_ missing ?_ ?_
          · intro other theirs
            obtain ⟨backing, value, stored, keys, -⟩ := sound.committed.backed other lease.key theirs
            exact (alone.lease id lease opened).2.2 backing value stored keys
          · intro other otherId otherKey theirs
            by_cases here : other = session
            · subst here
              simp [become, Footprint.idle] at theirs
            · simp only [become, Function.update_of_ne here] at theirs
              exact ((apart other here).holder holder otherId lease.key otherKey held theirs).symm
          · intro other theirs
            by_cases here : other = session
            · subst here
              simp [become, Footprint.idle] at theirs
            · simp only [become, Function.update_of_ne here] at theirs
              exact (apart other here).doomed' id id lease theirs opened rfl

theorem remove_sound {ledger : Ledger κ} {session : Nat} {holders : Table κ} (sound : Sound ledger)
    (ids : holders.next = ledger.holders.next)
    (fewer : ∀ holder key, holders.get holder = some key → ledger.holders.get holder = some key)
    (removed : ∀ holder key, ledger.holders.get holder = some key → (ledger.sessions session).removing ≠ some holder →
      holders.get holder = some key)
    (gone : ∀ holder, (ledger.sessions session).removing = some holder → holders.get holder = none) :
    Sound ({ ledger with
      leases := ledger.leases.deleteOption (ledger.sessions session).doomed
      holders }.become session .idle) := by
  refine sound_become sound rfl ⟨?_, ?_, ?_⟩ (alone_idle _ _) ?_ fun other _ => apart_idle _
  · intro holder key held
    obtain ⟨id, lease, stored, rfl, own⟩ := sound.committed.backed holder key (fewer holder key held)
    refine ⟨id, lease, ?_, rfl, own⟩
    rw [Table.get_deleteOption_of_ne, stored]
    intro doomed
    have mine := ((sound.alone session).doomed id doomed).2 lease stored holder (fewer holder lease.key held)
    rw [gone holder mine] at held
    cases held
  · intro first second one other found found'
    exact sound.committed.leases_unique first second one other (Table.get_deleteOption_some found).2
      (Table.get_deleteOption_some found').2
  · intro first second key found found'
    exact sound.committed.holders_unique first second key (fewer first key found) (fewer second key found')
  · intro other different
    refine (sound.alone other).of_subset (Table.next_deleteOption _ _) ids
      (fun id lease found => (Table.get_deleteOption_some found).2) fewer ?_
    intro holder key theirs present
    apply removed holder key present
    intro mine
    exact (sound.apart session other different.symm).removing holder mine theirs

theorem untag_sound {ledger : Ledger κ} {leases : Table (Lease κ)} (sound : Sound ledger)
    (ids : leases.next = ledger.leases.next) (absent : ∀ id, ledger.leases.get id = none → leases.get id = none)
    (kept : ∀ id lease, ledger.leases.get id = some lease →
      ∃ after, leases.get id = some after ∧ after.key = lease.key ∧ (lease.tagged = false → after.tagged = false)) :
    Sound { ledger with leases } := by
  have original {id : Nat} {lease : Lease κ} (found : leases.get id = some lease) :
      ∃ before, ledger.leases.get id = some before ∧ lease.key = before.key := by
    cases present : ledger.leases.get id with
    | none =>
        rw [absent id present] at found
        cases found
    | some before =>
        obtain ⟨after, stored, key, -⟩ := kept id before present
        rw [found] at stored
        cases stored
        exact ⟨before, rfl, key⟩
  refine ⟨⟨?_, ?_, sound.committed.holders_unique⟩, ?_, sound.apart⟩
  · intro holder key held
    obtain ⟨id, lease, stored, rfl, untagged⟩ := sound.committed.backed holder key held
    obtain ⟨after, present, same, own⟩ := kept id lease stored
    exact ⟨id, after, present, same, own untagged⟩
  · intro first second one other found found' same
    obtain ⟨before, present, oneKey⟩ := original found
    obtain ⟨before', present', otherKey⟩ := original found'
    exact sound.committed.leases_unique first second before before' present present' (by rw [← oneKey, ← otherKey, same])
  · intro session
    have alone := sound.alone session
    refine ⟨?_, alone.holder, alone.loaded, ?_⟩
    · intro id lease opened
      obtain ⟨drawn, missing, free⟩ := alone.lease id lease opened
      refine ⟨by rw [ids]; exact drawn, absent id missing, ?_⟩
      intro other row found
      obtain ⟨before, present, same⟩ := original found
      rw [same]
      exact free other before present
    · intro id doomed
      obtain ⟨drawn, owned⟩ := alone.doomed id doomed
      refine ⟨by rw [ids]; exact drawn, ?_⟩
      intro row found holder held
      obtain ⟨before, present, same⟩ := original found
      exact owned before present holder (same ▸ held)

theorem Step.sound {before after : Ledger κ} (sound : Sound before) (step : Step before after) : Sound after := by
  cases step with
  | insertLease lease _ free uncontended => exact insertLease_sound sound free uncontended
  | insertHolder leased own => exact insertHolder_sound sound leased own
  | beginRemoval _ alone =>
      exact removal_sound sound ⟨nofun, nofun, nofun, nofun⟩ (fun other _ => alone other) nofun
  | load begun present =>
      refine removal_sound sound ⟨nofun, nofun, ?_, nofun⟩ (removing_apart sound (by rw [begun]; rfl)) nofun
      rintro holder key ⟨⟩ ⟨⟩
      exact present
  | doom loaded present => exact doom_sound sound loaded present
  | doomTagged _ present tagged => exact doomTagged_sound sound present tagged
  | commit session => exact commit_sound sound session
  | commitRemoval removing =>
      refine remove_sound sound rfl (fun holder key held => (Table.get_delete_some held).2) ?_ ?_
      · intro holder key held other
        rw [removing] at other
        rw [Table.get_delete_of_ne (by rintro rfl; exact other rfl), held]
      · intro holder mine
        rw [removing] at mine
        cases mine
        exact Table.get_delete_self _ _
  | commitRelease released =>
      refine remove_sound sound rfl (fun _ _ held => held) (fun _ _ held _ => held) ?_
      intro holder mine
      rw [released] at mine
      cases mine
  | close session =>
      exact sound_become sound rfl sound.committed (alone_idle _ _) (fun other _ => sound.alone other)
        fun other _ => apart_idle _
  | untag leases ids absent kept => exact untag_sound sound ids absent kept

theorem Sound.reaches {start ledger : Ledger κ} (sound : Sound start)
    (reached : Relation.ReflTransGen Step start ledger) : Sound ledger := by
  induction reached with
  | refl => exact sound
  | tail _ step earlier => exact step.sound earlier

/-- With no holders, no leases and no sessions there is nothing to keep apart. -/
theorem sound_of_empty {ledger : Ledger κ} (leases : ∀ id, ledger.leases.get id = none)
    (holders : ∀ id, ledger.holders.get id = none) (sessions : ∀ session, ledger.sessions session = .idle) :
    Sound ledger where
  committed := by
    refine ⟨?_, ?_, ?_⟩ <;> simp [leases, holders]
  alone := by
    intro session
    rw [sessions]
    exact alone_idle _ _
  apart := by
    intro session other _
    rw [sessions]
    exact apart_idle _

end Ledger

end DeepOrc.Lib.Leases

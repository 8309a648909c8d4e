import Mathlib.Data.List.Sort
import Mathlib.Logic.Function.Basic
import Mathlib.Tactic.Common

/-!
# Tables with generated ids

Rows are keyed by ids from a counter that never goes back, so an id is given out once. A query reads
the rows in id order.
-/

namespace DeepOrc.Lib

structure Table (α : Type*) where
  next : Nat
  rows : Nat → Option α
  unused : ∀ id, next ≤ id → rows id = none

namespace Table

variable {α : Type*}

def empty : Table α where
  next := 1
  rows := fun _ => none
  unused := fun _ _ => rfl

def get (table : Table α) (id : Nat) : Option α := table.rows id

def insert (table : Table α) (row : α) : Table α where
  next := table.next + 1
  rows := Function.update table.rows table.next (some row)
  unused := by
    intro id beyond
    rw [Function.update_of_ne (by omega)]
    exact table.unused id (by omega)

def modify (table : Table α) (id : Nat) (change : α → α) : Table α where
  next := table.next
  rows := fun other => if other = id then (table.rows other).map change else table.rows other
  unused := by
    intro other beyond
    simp [table.unused other beyond]

/-- Draws an id without storing a row under it yet. -/
def reserve (table : Table α) : Table α where
  next := table.next + 1
  rows := table.rows
  unused := fun id beyond => table.unused id (by omega)

/-- Stores a row under an id drawn before. -/
def put (table : Table α) (id : Nat) (row : α) : Table α where
  next := max table.next (id + 1)
  rows := Function.update table.rows id (some row)
  unused := by
    intro other beyond
    rw [Function.update_of_ne (by omega)]
    exact table.unused other (by omega)

def map {β : Type*} (change : α → β) (table : Table α) : Table β where
  next := table.next
  rows := fun id => (table.rows id).map change
  unused := by
    intro id beyond
    rw [table.unused id beyond]
    rfl

def deleteWhere (table : Table α) (doomed : Nat → α → Bool) : Table α where
  next := table.next
  rows := fun id => (table.rows id).filter fun row => !doomed id row
  unused := by
    intro id beyond
    simp [table.unused id beyond]

def delete (table : Table α) (id : Nat) : Table α := table.deleteWhere fun other _ => other = id

def putOption (table : Table α) (row : Option (Nat × α)) : Table α :=
  match row with
  | none => table
  | some (id, row) => table.put id row

def deleteOption (table : Table α) (id : Option Nat) : Table α :=
  match id with
  | none => table
  | some id => table.delete id

/-- The rows in id order, each with its id. -/
def toList (table : Table α) : List (Nat × α) :=
  (List.range table.next).filterMap fun id => (table.rows id).map (id, ·)

/-- The row with the highest id that meets the condition, as `order_by(id.desc()).first()` finds it. -/
def latest (table : Table α) (wanted : α → Bool) : Option (Nat × α) :=
  (table.toList.filter fun entry => wanted entry.2).getLast?

/-- Some row that meets the condition: a query without an order may return any of them. -/
def anyRow (table : Table α) (wanted : α → Bool) (choice : Nat) : Option (Nat × α) :=
  let matching := table.toList.filter fun entry => wanted entry.2
  matching[choice % matching.length]?

theorem lt_foldr_max {ids : List Nat} {id : Nat} (member : id ∈ ids) (least : Nat) :
    id < ids.foldr (fun id bound => max (id + 1) bound) least := by
  induction ids with
  | nil => cases member
  | cons first ids ih =>
      rw [List.foldr_cons]
      rcases List.mem_cons.mp member with rfl | member
      · omega
      · have later := ih member
        omega

/-- Ids go on after the last row there is, so the id of a deleted row may come again. -/
def renumber (table : Table α) (least : Nat) : Table α where
  next := (table.toList.map Prod.fst).foldr (fun id bound => max (id + 1) bound) least
  rows := table.rows
  unused := by
    intro id beyond
    cases row : table.rows id with
    | none => rfl
    | some value =>
        have listed : id ∈ table.toList.map Prod.fst := by
          have short : id < table.next := by
            by_contra past
            rw [table.unused id (by omega)] at row
            cases row
          refine List.mem_map.mpr ⟨(id, value), ?_, rfl⟩
          simp only [toList, List.mem_filterMap, List.mem_range]
          exact ⟨id, short, by rw [row]; rfl⟩
        have before := lt_foldr_max listed least
        omega

/-! ### Reading back -/

theorem get_insert (table : Table α) (row : α) (id : Nat) :
    (table.insert row).get id = if id = table.next then some row else table.get id := by
  simp only [get, insert, Function.update_apply]

@[simp] theorem get_insert_self (table : Table α) (row : α) : (table.insert row).get table.next = some row := by
  simp [get_insert]

theorem get_insert_of_ne {table : Table α} {id : Nat} (other : id ≠ table.next) (row : α) :
    (table.insert row).get id = table.get id := by
  simp [get_insert, other]

theorem get_modify (table : Table α) (id : Nat) (change : α → α) (other : Nat) :
    (table.modify id change).get other =
      if other = id then (table.get other).map change else table.get other := rfl

@[simp] theorem get_modify_self (table : Table α) (id : Nat) (change : α → α) :
    (table.modify id change).get id = (table.get id).map change := by
  simp [get_modify]

theorem get_modify_of_ne {id other : Nat} (different : other ≠ id) (table : Table α) (change : α → α) :
    (table.modify id change).get other = table.get other := by
  simp [get_modify, different]

/-- What a change of one row does to the rows of the table. -/
theorem get_modify_some {table : Table α} {id other : Nat} {change : α → α} {row : α}
    (found : (table.modify id change).get other = some row) :
    ∃ before, table.get other = some before ∧ row = if other = id then change before else before := by
  rw [get_modify] at found
  split at found
  · rename_i same
    obtain ⟨before, present, rfl⟩ := Option.map_eq_some_iff.mp found
    exact ⟨before, present, by rw [if_pos same]⟩
  · rename_i different
    exact ⟨row, found, by rw [if_neg different]⟩

theorem get_put (table : Table α) (id : Nat) (row : α) (other : Nat) :
    (table.put id row).get other = if other = id then some row else table.get other := by
  simp only [get, put, Function.update_apply]

@[simp] theorem get_map {β : Type*} (change : α → β) (table : Table α) (id : Nat) :
    (table.map change).get id = (table.get id).map change := rfl

theorem get_deleteWhere (table : Table α) (doomed : Nat → α → Bool) (id : Nat) :
    (table.deleteWhere doomed).get id = (table.get id).filter fun row => !doomed id row := rfl

@[simp] theorem get_delete_self (table : Table α) (id : Nat) : (table.delete id).get id = none := by
  cases row : table.get id <;> simp [delete, get_deleteWhere, row]

theorem get_delete_of_ne {id other : Nat} (different : other ≠ id) (table : Table α) :
    (table.delete id).get other = table.get other := by
  cases row : table.get other <;> simp [delete, get_deleteWhere, row, different]

theorem ext {table other : Table α} (next : table.next = other.next)
    (rows : ∀ id, table.get id = other.get id) : table = other := by
  cases table
  cases other
  cases next
  congr
  exact funext rows

theorem map_put {β : Type*} (change : α → β) (table : Table α) (id : Nat) (row : α) :
    (table.put id row).map change = (table.map change).put id (change row) := by
  refine ext rfl ?_
  intro other
  simp only [get_map, get_put]
  split <;> rfl

/-- A change of a row that its image does not show. -/
theorem map_modify_of_eq {β : Type*} {image : α → β} {change : α → α} (kept : ∀ row, image (change row) = image row)
    (table : Table α) (id : Nat) : (table.modify id change).map image = table.map image := by
  refine ext rfl ?_
  intro other
  rw [get_map, get_map, get_modify]
  split
  · rw [Option.map_map]
    exact congrArg (Option.map · (table.get other)) (funext kept)
  · rfl

theorem map_delete {β : Type*} (change : α → β) (table : Table α) (id : Nat) :
    (table.delete id).map change = (table.map change).delete id := by
  refine ext rfl ?_
  intro other
  by_cases deleted : other = id
  · subst deleted
    simp
  · simp only [get_map, get_delete_of_ne deleted]

theorem get_delete_some {table : Table α} {id other : Nat} {row : α}
    (found : (table.delete id).get other = some row) : other ≠ id ∧ table.get other = some row := by
  by_cases deleted : other = id
  · subst deleted
    rw [get_delete_self] at found
    cases found
  · rw [get_delete_of_ne deleted] at found
    exact ⟨deleted, found⟩

theorem get_deleteOption_some {table : Table α} {id : Option Nat} {other : Nat} {row : α}
    (found : (table.deleteOption id).get other = some row) : id ≠ some other ∧ table.get other = some row := by
  cases id with
  | none => exact ⟨by simp, found⟩
  | some id =>
      obtain ⟨different, present⟩ := get_delete_some found
      exact ⟨by simpa using different.symm, present⟩

theorem get_deleteOption_of_ne {table : Table α} {id : Option Nat} {other : Nat}
    (different : id ≠ some other) : (table.deleteOption id).get other = table.get other := by
  cases id with
  | none => rfl
  | some id => exact get_delete_of_ne (by simpa using Ne.symm different) table

theorem next_deleteOption (table : Table α) (id : Option Nat) : (table.deleteOption id).next = table.next := by
  cases id <;> rfl

theorem map_putOption {β : Type*} (change : α → β) (table : Table α) (row : Option (Nat × α)) :
    (table.putOption row).map change = (table.map change).putOption (row.map fun entry => (entry.1, change entry.2)) := by
  cases row with
  | none => rfl
  | some entry => exact map_put change table entry.1 entry.2

theorem map_deleteOption {β : Type*} (change : α → β) (table : Table α) (id : Option Nat) :
    (table.deleteOption id).map change = (table.map change).deleteOption id := by
  cases id with
  | none => rfl
  | some id => exact map_delete change table id

theorem lt_next_of_get {table : Table α} {id : Nat} {row : α} (found : table.get id = some row) :
    id < table.next := by
  by_contra beyond
  have absent := table.unused id (by omega)
  rw [get, absent] at found
  cases found

theorem get_insert_of_get {table : Table α} {id : Nat} {row : α} (present : table.get id = some row) (new : α) :
    (table.insert new).get id = some row := by
  rw [get_insert_of_ne (Nat.ne_of_lt (lt_next_of_get present))]
  exact present

@[simp] theorem get_next (table : Table α) : table.get table.next = none := table.unused _ (Nat.le_refl _)

theorem mem_toList {table : Table α} {id : Nat} {row : α} :
    (id, row) ∈ table.toList ↔ table.get id = some row := by
  simp only [toList, List.mem_filterMap, List.mem_range, Option.map_eq_some_iff, Prod.mk.injEq]
  constructor
  · rintro ⟨other, -, value, found, rfl, rfl⟩
    exact found
  · intro found
    exact ⟨id, lt_next_of_get found, row, found, rfl, rfl⟩

/-- A new row comes last. -/
theorem toList_insert (table : Table α) (row : α) : (table.insert row).toList = table.toList ++ [(table.next, row)] := by
  have last : (table.insert row).rows table.next = some row := get_insert_self table row
  have earlier : ∀ id ∈ List.range table.next, ((table.insert row).rows id).map (id, ·) = (table.rows id).map (id, ·) := by
    intro id member
    have before := get_insert_of_ne (Nat.ne_of_lt (List.mem_range.mp member)) row
    exact congrArg (Option.map (id, ·)) before
  change (List.range (table.next + 1)).filterMap _ = _
  rw [List.range_succ, List.filterMap_append, List.filterMap_congr earlier, toList]
  simp [last]

theorem mem_column_insert {κ : Type*} {table : Table α} {row : α} (wanted : α → Bool)
    (matching : wanted row = true) (column : α → κ) (value : κ) :
    value ∈ (((table.insert row).toList.filter fun entry => wanted entry.2).map fun entry => column entry.2) ↔
      value ∈ ((table.toList.filter fun entry => wanted entry.2).map fun entry => column entry.2) ∨ value = column row := by
  rw [toList_insert, List.filter_append, List.map_append, List.mem_append]
  simp [matching]

theorem toList_sorted (table : Table α) : table.toList.Pairwise fun earlier later => earlier.1 < later.1 := by
  refine List.Pairwise.filterMap _ ?_ List.pairwise_lt_range
  intro first second before one found other found'
  obtain ⟨_, _, rfl⟩ := Option.map_eq_some_iff.mp found
  obtain ⟨_, _, rfl⟩ := Option.map_eq_some_iff.mp found'
  exact before

/-- The rows decide the listing. -/
theorem toList_congr {table other : Table α} (same : ∀ id, other.get id = table.get id) : other.toList = table.toList := by
  have irreflexive : Std.Irrefl fun earlier later : Nat × α => earlier.1 < later.1 := ⟨fun entry => Nat.lt_irrefl entry.1⟩
  have antisymmetric : Std.Antisymm fun earlier later : Nat × α => earlier.1 < later.1 :=
    ⟨fun _ _ before after => absurd after (Nat.lt_asymm before)⟩
  apply other.toList_sorted.eq_of_mem_iff table.toList_sorted
  rintro ⟨id, row⟩
  rw [mem_toList, mem_toList, same]

theorem get_of_latest {table : Table α} {wanted : α → Bool} {id : Nat} {row : α}
    (found : table.latest wanted = some (id, row)) : table.get id = some row ∧ wanted row = true := by
  have member := List.mem_of_getLast? found
  rw [List.mem_filter, mem_toList] at member
  exact member

theorem le_of_latest {table : Table α} {wanted : α → Bool} {id other : Nat} {row value : α}
    (found : table.latest wanted = some (id, row)) (present : table.get other = some value)
    (matching : wanted value = true) : other ≤ id := by
  obtain ⟨front, split⟩ := List.getLast?_eq_some_iff.mp found
  have member : (other, value) ∈ table.toList.filter fun entry => wanted entry.2 :=
    List.mem_filter.mpr ⟨mem_toList.mpr present, matching⟩
  have sorted := (table.toList_sorted).filter fun entry => wanted entry.2
  rw [split] at member sorted
  rcases List.mem_append.mp member with earlier | last
  · exact Nat.le_of_lt (List.pairwise_append.mp sorted |>.2.2 _ earlier _ (List.mem_singleton_self _))
  · cases List.mem_singleton.mp last
    exact Nat.le_refl _

theorem latest_eq_none {table : Table α} {wanted : α → Bool} :
    table.latest wanted = none ↔ ∀ id row, table.get id = some row → wanted row = false := by
  rw [latest, List.getLast?_eq_none_iff, List.filter_eq_nil_iff]
  constructor
  · intro absent id row present
    exact Bool.eq_false_iff.mpr (absent (id, row) (mem_toList.mpr present))
  · rintro absent ⟨id, row⟩ member
    rw [absent id row (mem_toList.mp member)]
    exact Bool.false_ne_true

theorem get_of_anyRow {table : Table α} {wanted : α → Bool} {choice id : Nat} {row : α}
    (found : table.anyRow wanted choice = some (id, row)) : table.get id = some row ∧ wanted row = true := by
  have member := List.mem_of_getElem? found
  rw [List.mem_filter, mem_toList] at member
  exact member

theorem anyRow_eq_none {table : Table α} {wanted : α → Bool} {choice : Nat} :
    table.anyRow wanted choice = none ↔ ∀ id row, table.get id = some row → wanted row = false := by
  simp only [anyRow, List.getElem?_eq_none_iff]
  constructor
  · intro short id row present
    by_contra matching
    have member : (id, row) ∈ table.toList.filter fun entry => wanted entry.2 :=
      List.mem_filter.mpr ⟨mem_toList.mpr present, by simpa using matching⟩
    have inside := Nat.mod_lt choice (List.length_pos_of_mem member)
    omega
  · intro absent
    have nothing : (table.toList.filter fun entry => wanted entry.2) = [] := by
      rw [List.filter_eq_nil_iff]
      rintro ⟨id, row⟩ member
      rw [absent id row (mem_toList.mp member)]
      exact Bool.false_ne_true
    simp [nothing]

/-- Where one row matches, any search finds it. -/
theorem anyRow_of_single {table : Table α} {wanted : α → Bool} {id : Nat} {row : α} (present : table.get id = some row)
    (matching : wanted row = true)
    (single : ∀ other value, table.get other = some value → wanted value = true → other = id) (choice : Nat) :
    table.anyRow wanted choice = some (id, row) := by
  cases found : table.anyRow wanted choice with
  | none =>
      rw [anyRow_eq_none.mp found id row present] at matching
      cases matching
  | some entry =>
      obtain ⟨other, value⟩ := entry
      obtain ⟨stored, matched⟩ := get_of_anyRow found
      have same := single other value stored matched
      subst same
      rw [present] at stored
      rw [Option.some.inj stored]

/-- Deleting the row a search finds, where no two rows match. -/
theorem get_deleteOption_find {table : Table α} (wanted : α → Bool)
    (unique : ∀ first second one other, table.get first = some one → table.get second = some other →
      wanted one = true → wanted other = true → first = second) {id : Nat} {row : α} :
    (table.deleteOption ((table.toList.find? fun entry => wanted entry.2).map Prod.fst)).get id = some row ↔
      table.get id = some row ∧ wanted row = false := by
  cases found : table.toList.find? fun entry => wanted entry.2 with
  | none =>
      have unmatched := List.find?_eq_none.mp found
      constructor
      · intro present
        exact ⟨present, by simpa using unmatched (id, row) (mem_toList.mpr present)⟩
      · exact fun kept => kept.1
  | some entry =>
      obtain ⟨other, match_⟩ := entry
      have stored := mem_toList.mp (List.mem_of_find?_eq_some found)
      have matching := List.find?_some found
      constructor
      · intro present
        obtain ⟨different, present⟩ := get_delete_some present
        refine ⟨present, ?_⟩
        by_contra matched
        exact different (unique id other row match_ present stored (by simpa using matched) matching)
      · rintro ⟨present, unmatched⟩
        have different : id ≠ other := by
          rintro rfl
          rw [present] at stored
          cases stored
          rw [unmatched] at matching
          cases matching
        exact (get_delete_of_ne different table).trans present

/-! ### Unique keys -/

/-- A unique constraint: no two rows have one key. -/
def Unique {κ : Type*} (table : Table α) (key : α → κ) : Prop :=
  ∀ first second one other, table.get first = some one → table.get second = some other → key one = key other →
    first = second

theorem Unique.insert {κ : Type*} {table : Table α} {key : α → κ} (unique : table.Unique key) {row : α}
    (fresh : ∀ id other, table.get id = some other → key other ≠ key row) : (table.insert row).Unique key := by
  intro first second one other present present' same
  rw [get_insert] at present present'
  split at present
  · rename_i new
    cases present
    split at present'
    · rename_i new'
      exact new.trans new'.symm
    · exact absurd same.symm (fresh second other present')
  · split at present'
    · cases present'
      exact absurd same (fresh first one present)
    · exact unique first second one other present present' same

/-- Rows that were there before, with the keys they had. -/
theorem Unique.of_rows {κ : Type*} {table after : Table α} {key : α → κ} (unique : table.Unique key)
    (old : ∀ id row, after.get id = some row → ∃ before, table.get id = some before ∧ key row = key before) :
    after.Unique key := by
  intro first second one other present present' same
  obtain ⟨before, found, kept⟩ := old first one present
  obtain ⟨before', found', kept'⟩ := old second other present'
  exact unique first second before before' found found' (kept.symm.trans (same.trans kept'))

end Table

end DeepOrc.Lib

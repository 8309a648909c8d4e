import Mathlib.Data.List.Sublists
import Mathlib.Tactic.Common

/-!
# Commands run one after another

Where every command only takes things away from what is looked at, nothing that one command takes comes back: what is
the same at the end was the same all along.
-/

namespace DeepOrc.Lib.Commands

variable {σ κ α : Type*}

def execute (run : κ → σ → σ) (s : σ) (commands : List κ) : σ := commands.foldl (fun s command => run command s) s

/-- The commands for a list of items, each computed when its turn comes. -/
def each (run : κ → σ → σ) (commands : σ → α → List κ) : σ → List α → List κ
  | _, [] => []
  | s, item :: items => commands s item ++ each run commands (execute run s (commands s item)) items

variable {run : κ → σ → σ} {commands : σ → α → List κ} {items : List α} {s : σ}

theorem execute_append (commands later : List κ) :
    execute run s (commands ++ later) = execute run (execute run s commands) later := List.foldl_append

/-- The commands for an item stand behind those for the items before it, in the state that these leave. -/
theorem each_split {item : α} (listed : item ∈ items) : ∃ earlier later,
    each run commands s items = earlier ++ (commands (execute run s earlier) item ++ later) := by
  induction items generalizing s with
  | nil => cases listed
  | cons other items rest =>
      rcases List.mem_cons.mp listed with rfl | listed
      · exact ⟨[], _, rfl⟩
      · obtain ⟨earlier, later, split⟩ := @rest (execute run s (commands s other)) listed
        refine ⟨commands s other ++ earlier, later, ?_⟩
        rw [each, split, execute_append, List.append_assoc]

theorem mem_each {command : κ} (member : command ∈ each run commands s items) : ∃ item ∈ items, ∃ earlier later,
    each run commands s items = earlier ++ (commands (execute run s earlier) item ++ later) ∧
      command ∈ commands (execute run s earlier) item := by
  induction items generalizing s with
  | nil => cases member
  | cons item items rest =>
      rcases List.mem_append.mp member with now | later
      · exact ⟨item, List.mem_cons_self, [], _, rfl, now⟩
      · obtain ⟨other, listed, earlier, later, split, found⟩ := rest later
        refine ⟨other, List.mem_cons_of_mem _ listed, commands s item ++ earlier, later, ?_, ?_⟩
        · rw [each, split, execute_append, List.append_assoc]
        · rw [execute_append]
          exact found

theorem mem_each_of_mem {item : α} {command : κ} (listed : item ∈ items) (always : ∀ s, command ∈ commands s item) :
    command ∈ each run commands s items := by
  obtain ⟨earlier, later, split⟩ : ∃ earlier later,
      each run commands s items = earlier ++ (commands (execute run s earlier) item ++ later) := each_split listed
  rw [split]
  exact List.mem_append_right _ (List.mem_append_left _ (always _))

/-- What every item's commands keep, all of them keep. -/
theorem each_induction {holds : σ → Prop} (initial : holds s)
    (kept : ∀ item ∈ items, ∀ s, holds s → holds (execute run s (commands s item))) :
    holds (execute run s (each run commands s items)) := by
  induction items generalizing s with
  | nil => exact initial
  | cons item items rest =>
      rw [each, execute_append]
      apply rest (kept item List.mem_cons_self s initial)
      intro other member
      exact kept other (List.mem_cons_of_mem _ member)

/-- What is there no more was taken by one of the commands. -/
theorem exists_of_lost {holds : σ → Prop} {commands : List κ} (initial : holds s)
    (lost : ¬ holds (execute run s commands)) : ∃ earlier command later, commands = earlier ++ command :: later ∧
      holds (execute run s earlier) ∧ ¬ holds (run command (execute run s earlier)) := by
  induction commands generalizing s with
  | nil => exact absurd initial lost
  | cons command commands rest =>
      by_cases still : holds (run command s)
      · obtain ⟨earlier, other, later, rfl, before, after⟩ := rest still lost
        exact ⟨command :: earlier, other, later, rfl, before, after⟩
      · exact ⟨[], command, commands, rfl, initial, still⟩

/-! ### Commands that only take away -/

/-- Every command leaves something below what it found, and what looks the same at both ends of a run down looks the
same in between. -/
structure Taking {τ : Type*} (run : κ → σ → σ) (below : σ → σ → Prop) (view : σ → τ) : Prop where
  refl : ∀ s, below s s
  trans : ∀ {first second third}, below third second → below second first → below third first
  takes : ∀ command s, below (run command s) s
  between : ∀ {first second third}, below second first → below third second → view third = view first →
    view second = view first

namespace Taking

variable {τ : Type*} {below : σ → σ → Prop} {view : σ → τ}

theorem execute_below (taking : Taking run below view) (s : σ) (commands : List κ) :
    below (execute run s commands) s := by
  induction commands generalizing s with
  | nil => exact taking.refl s
  | cons command commands rest => exact taking.trans (rest (run command s)) (taking.takes command s)

/-- What a run keeps, each part of it keeps. -/
theorem kept_split (taking : Taking run below view) {earlier later : List κ}
    (same : view (execute run s (earlier ++ later)) = view s) :
    view (execute run s earlier) = view s ∧ view (execute run (execute run s earlier) later) = view s := by
  rw [execute_append] at same
  exact ⟨taking.between (taking.execute_below s earlier) (taking.execute_below _ later) same, same⟩

/-- The end of a run is below what any command of it left. -/
theorem below_of_mem (taking : Taking run below view) {commands : List κ} {command : κ} (member : command ∈ commands) :
    ∃ before, below before s ∧ below (execute run s commands) (run command before) := by
  obtain ⟨earlier, later, rfl⟩ := List.append_of_mem member
  refine ⟨execute run s earlier, taking.execute_below s earlier, ?_⟩
  rw [execute_append]
  exact taking.execute_below (run command (execute run s earlier)) later

end Taking

/-! ### Running all of it again -/

section Settling

variable {act : α → σ → σ} {items : List α} {ready settled : α → σ → Prop} {apart : α → α → Prop}

/-- What an item does it does once, and items that are apart leave each other alone. -/
structure Settling (act : α → σ → σ) (items : List α) (ready settled : α → σ → Prop) (apart : α → α → Prop) :
    Prop where
  pairwise : items.Pairwise apart
  settles : ∀ item ∈ items, ∀ s, ready item s → settled item (act item s)
  fixed : ∀ item ∈ items, ∀ s, settled item s → act item s = s
  ready_kept : ∀ earlier ∈ items, ∀ later ∈ items, apart earlier later → ∀ s, ready earlier s → ready later s →
    ready later (act earlier s)
  settled_kept : ∀ earlier ∈ items, ∀ later ∈ items, apart earlier later → ∀ s, settled earlier s → ready later s →
    settled earlier (act later s)

def runAll (act : α → σ → σ) (items : List α) (s : σ) : σ := items.foldl (fun s item => act item s) s

theorem execute_flatMap (commands : α → List κ) (items : List α) (s : σ) :
    execute run s (items.flatMap commands) = runAll (fun item s => execute run s (commands item)) items s := by
  induction items generalizing s with
  | nil => rfl
  | cons item items rest =>
      rw [List.flatMap_cons, execute_append, rest]
      rfl

/-- Items that have no commands may be left out. -/
theorem flatMap_filterMap {β : Type*} {commands : α → List κ} {chosen : α → Option β} {commands' : β → List κ}
    (same : ∀ item, commands item = (chosen item).elim [] commands') (items : List α) :
    items.flatMap commands = (items.filterMap chosen).flatMap commands' := by
  induction items with
  | nil => rfl
  | cons item items rest =>
      rw [List.flatMap_cons, rest, same item, List.filterMap_cons]
      cases chosen item with
      | none => rfl
      | some item' => rfl

theorem runAll_induction {holds : σ → Prop} (initial : holds s)
    (kept : ∀ item ∈ items, ∀ s, holds s → holds (act item s)) : holds (runAll act items s) := by
  induction items generalizing s with
  | nil => exact initial
  | cons item items rest =>
      apply rest (kept item List.mem_cons_self s initial)
      intro other member
      exact kept other (List.mem_cons_of_mem _ member)

namespace Settling

theorem sublist {fewer : List α} (settling : Settling act items ready settled apart) (sub : fewer.Sublist items) :
    Settling act fewer ready settled apart where
  pairwise := settling.pairwise.sublist sub
  settles := fun item member => settling.settles item (sub.subset member)
  fixed := fun item member => settling.fixed item (sub.subset member)
  ready_kept := fun earlier member later member' =>
    settling.ready_kept earlier (sub.subset member) later (sub.subset member')
  settled_kept := fun earlier member later member' =>
    settling.settled_kept earlier (sub.subset member) later (sub.subset member')

theorem tail {item : α} (settling : Settling act (item :: items) ready settled apart) :
    Settling act items ready settled apart := settling.sublist (List.sublist_cons_self item items)

/-- What is settled stays settled while the items after it are run. -/
theorem settled_runAll {item : α} (settling : Settling act (item :: items) ready settled apart) (s : σ)
    (first : settled item s) (waiting : ∀ later ∈ items, ready later s) : settled item (runAll act items s) := by
  induction items generalizing s with
  | nil => exact first
  | cons other items rest =>
      have member : item ∈ item :: other :: items := List.mem_cons_self
      have member' : other ∈ item :: other :: items := List.mem_cons_of_mem _ List.mem_cons_self
      have pairwise := settling.pairwise
      rw [List.pairwise_cons, List.pairwise_cons] at pairwise
      obtain ⟨away, away', -⟩ := pairwise
      have now := waiting other List.mem_cons_self
      have shorter := settling.sublist ((List.sublist_cons_self other items).cons_cons item)
      apply rest shorter (act other s)
      · exact settling.settled_kept item member other member' (away other List.mem_cons_self) s first now
      · intro later listed
        have listed' : later ∈ item :: other :: items := List.mem_cons_of_mem _ (List.mem_cons_of_mem _ listed)
        have still := waiting later (List.mem_cons_of_mem _ listed)
        exact settling.ready_kept other member' later listed' (away' later listed) s now still

theorem all_settled (settling : Settling act items ready settled apart) (s : σ) (waiting : ∀ item ∈ items, ready item s) :
    ∀ item ∈ items, settled item (runAll act items s) := by
  induction items generalizing s with
  | nil => simp
  | cons first items rest =>
      have listed : first ∈ first :: items := List.mem_cons_self
      have now := waiting first listed
      have away := (List.pairwise_cons.mp settling.pairwise).1
      have later : ∀ item ∈ items, ready item (act first s) := by
        intro item member
        have listed' := List.mem_cons_of_mem first member
        exact settling.ready_kept first listed item listed' (away item member) s now (waiting item listed')
      intro item member
      rcases List.mem_cons.mp member with rfl | member
      · exact settling.settled_runAll _ (settling.settles item listed s now) later
      · exact rest settling.tail (act first s) later item member

theorem runAll_fixed (settling : Settling act items ready settled apart) (s : σ)
    (all : ∀ item ∈ items, settled item s) : runAll act items s = s := by
  induction items generalizing s with
  | nil => rfl
  | cons item items rest =>
      have same := settling.fixed item List.mem_cons_self s (all item List.mem_cons_self)
      change runAll act items (act item s) = s
      rw [same]
      exact rest settling.tail s fun other member => all other (List.mem_cons_of_mem _ member)

theorem runAll_runAll (settling : Settling act items ready settled apart) (s : σ) (waiting : ∀ item ∈ items, ready item s) :
    runAll act items (runAll act items s) = runAll act items s :=
  settling.runAll_fixed _ (settling.all_settled s waiting)

end Settling

end Settling

end DeepOrc.Lib.Commands

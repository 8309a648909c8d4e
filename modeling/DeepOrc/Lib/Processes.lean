import Mathlib.Logic.Relation
import Mathlib.Tactic.Common

/-!
# Processes on a shared state

A process does one command after the other and may look at the state each command finds. Processes that run at the same
time take turns between any two commands. What each guarantees of every single command of its own, whatever the others
did before, holds of the run of all of them.
-/

namespace DeepOrc.Lib

variable {σ α β : Type*}

/-- `next` is told the state the command was given. -/
inductive Process (σ α : Type*) where
  | done (result : α)
  | act (command : σ → σ) (next : σ → Process σ α)

namespace Process

def bind : Process σ α → (α → Process σ β) → Process σ β
  | .done result, then_ => then_ result
  | .act command next, then_ => .act command fun s => (next s).bind then_

/-- Without anything in between. -/
def run : Process σ α → σ → α × σ
  | .done result, s => (result, s)
  | .act command next, s => (next s).run (command s)

/-! ### Commands of a shell -/

def read (look : σ → α) : Process σ α := .act id fun s => .done (look s)

/-- A command that fails does nothing. -/
def command (works : σ → Bool) (effect : σ → σ) : Process σ Bool :=
  .act (fun s => if works s then effect s else s) fun s => .done (works s)

/-- `… || true` -/
def anyway (process : Process σ Bool) : Process σ Bool := process.bind fun _ => .done true

/-- One after the other; under `set -e` the first that fails is the last. -/
def inOrder (strict : Bool) : List (Process σ Bool) → Process σ Bool
  | [] => .done true
  | first :: rest => first.bind fun status => if strict && !status then .done false else inOrder strict rest

/-- `while …; do :; done`, no more than so often. -/
def repeated (rounds : Nat) (body : Process σ Bool) : Process σ Bool :=
  match rounds with
  | 0 => .done true
  | rounds + 1 => body.bind fun status => if status then repeated rounds body else .done true

/-! ### Running alone -/

section Run

variable {s : σ}

@[simp] theorem run_done (result : α) : (done result : Process σ α).run s = (result, s) := rfl

@[simp] theorem run_read (look : σ → α) : (read look).run s = (look s, s) := rfl

@[simp] theorem run_command (works : σ → Bool) (effect : σ → σ) :
    (command works effect).run s = (works s, if works s then effect s else s) := rfl

theorem run_bind (process : Process σ α) (then_ : α → Process σ β) :
    (process.bind then_).run s = (then_ (process.run s).1).run (process.run s).2 := by
  induction process generalizing s with
  | done result => rfl
  | act command next rest => exact rest s

@[simp] theorem run_anyway (process : Process σ Bool) : process.anyway.run s = (true, (process.run s).2) := by
  rw [anyway, run_bind]
  rfl

@[simp] theorem run_inOrder_nil (strict : Bool) : (inOrder strict []).run s = (true, s) := rfl

theorem run_inOrder_cons (strict : Bool) (first : Process σ Bool) (rest : List (Process σ Bool)) :
    (inOrder strict (first :: rest)).run s =
      if strict && !(first.run s).1 then (false, (first.run s).2) else (inOrder strict rest).run (first.run s).2 := by
  rw [inOrder, run_bind]
  split
  · rfl
  · rfl

/-- Where each of them works, they are one after the other. -/
theorem run_inOrder_cons_of_works {strict : Bool} {first : Process σ Bool} {rest : List (Process σ Bool)} {t : σ}
    (works : first.run s = (true, t)) : (inOrder strict (first :: rest)).run s = (inOrder strict rest).run t := by
  rw [run_inOrder_cons, works]
  simp

theorem run_repeated_succ (rounds : Nat) (body : Process σ Bool) : (repeated (rounds + 1) body).run s =
    if (body.run s).1 then (repeated rounds body).run (body.run s).2 else (true, (body.run s).2) := by
  rw [repeated, run_bind]
  split
  · rfl
  · rfl

end Run

/-! ### What a process guarantees -/

/-- From a state on that others only change by `rely`, every command that is given a state with `holds` is a step of
`relation`, and the result fits the state at the end. -/
def Since (holds : σ → Prop) (rely relation : σ → σ → Prop) (results : α → σ → Prop) : Process σ α → σ → Prop
  | .done result, s => results result s
  | .act command next, s => ∀ t, holds t → rely s t →
      relation t (command t) ∧ (next t).Since holds rely relation results (command t)

section Since

variable {holds : σ → Prop} {rely relation : σ → σ → Prop} {results : α → σ → Prop} {later : β → σ → Prop}
variable {process : Process σ α} {s : σ}

theorem Since.weaken {weaker : σ → σ → Prop} (since : process.Since holds rely relation results s)
    (implies : ∀ s t, relation s t → weaker s t) : process.Since holds rely weaker results s := by
  induction process generalizing s with
  | done result => exact since
  | act command next rest =>
      intro t held changed
      obtain ⟨related, onward⟩ := since t held changed
      exact ⟨implies t _ related, rest t onward⟩

/-- It may be given fewer states. -/
theorem Since.strengthen {fewer : σ → Prop} (since : process.Since holds rely relation results s)
    (implies : ∀ s, fewer s → holds s) : process.Since fewer rely relation results s := by
  induction process generalizing s with
  | done result => exact since
  | act command next rest =>
      intro t held changed
      obtain ⟨related, onward⟩ := since t (implies t held) changed
      exact ⟨related, rest t onward⟩

theorem Since.bind {then_ : α → Process σ β} (since : process.Since holds rely relation results s)
    (onward : ∀ result t, results result t → (then_ result).Since holds rely relation later t) :
    (process.bind then_).Since holds rely relation later s := by
  induction process generalizing s with
  | done result => exact onward result s since
  | act command next rest =>
      intro t held changed
      obtain ⟨related, after⟩ := since t held changed
      exact ⟨related, rest t after⟩

/-- It may as well begin later. -/
theorem Since.after {t : σ} (trans : ∀ s t u, rely s t → rely t u → rely s u)
    (since : process.Since holds rely relation (fun _ _ => True) s) (changed : rely s t) :
    process.Since holds rely relation (fun _ _ => True) t := by
  cases process with
  | done result => trivial
  | act command next =>
      intro u held changed'
      exact since u held (trans s t u changed changed')

/-- Wherever it ends, no more than `rely` has happened. -/
theorem Since.tracked (refl : ∀ s, rely s s) (trans : ∀ s t u, rely s t → rely t u → rely s u)
    (relies : ∀ s t, relation s t → rely s t) (since : process.Since holds rely relation results s) :
    process.Since holds rely relation (fun result t => results result t ∧ rely s t) s := by
  suffices from_ : ∀ first, rely first s → process.Since holds rely relation (fun result t => results result t ∧ rely first t) s
    from from_ s (refl s)
  induction process generalizing s with
  | done result => exact fun first before => ⟨since, before⟩
  | act command next rest =>
      intro first before t held changed
      obtain ⟨related, onward⟩ := since t held changed
      exact ⟨related, rest t onward first (trans _ _ _ (trans _ _ _ before changed) (relies _ _ related))⟩

/-- Alone, all of it is a step of the relation. -/
theorem Since.run (refl : ∀ s, rely s s) (kept : ∀ s t, holds s → relation s t → holds t)
    (none : ∀ s, relation s s) (trans : ∀ s t u, relation s t → relation t u → relation s u)
    (since : process.Since holds rely relation results s) (held : holds s) : relation s (process.run s).2 := by
  induction process generalizing s with
  | done result => exact none s
  | act command next rest =>
      obtain ⟨related, onward⟩ := since s held (refl s)
      exact trans _ _ _ related (rest s onward (kept _ _ held related))

theorem since_read {look : σ → α} (refl : ∀ t, holds t → relation t t)
    (found : ∀ t, holds t → rely s t → results (look t) t) : (read look).Since holds rely relation results s :=
  fun t held changed => ⟨refl t held, found t held changed⟩

theorem since_command {works : σ → Bool} {effect : σ → σ} (refl : ∀ t, holds t → relation t t)
    (related : ∀ t, holds t → rely s t → works t = true → relation t (effect t)) :
    (command works effect).Since holds rely relation (fun _ _ => True) s := by
  intro t held changed
  refine ⟨?_, trivial⟩
  dsimp only
  by_cases worked : works t = true
  · rw [if_pos worked]
    exact related t held changed worked
  · rw [if_neg worked]
    exact refl t held

theorem Since.anyway {process : Process σ Bool} (since : process.Since holds rely relation (fun _ _ => True) s) :
    process.anyway.Since holds rely relation (fun _ _ => True) s :=
  since.bind fun _ _ _ => trivial

theorem since_inOrder {strict : Bool} {processes : List (Process σ Bool)}
    (all : ∀ process ∈ processes, ∀ s, process.Since holds rely relation (fun _ _ => True) s) (s : σ) :
    (inOrder strict processes).Since holds rely relation (fun _ _ => True) s := by
  induction processes generalizing s with
  | nil => trivial
  | cons first rest ih =>
      refine (all first List.mem_cons_self s).bind fun status t _ => ?_
      split
      · trivial
      · exact ih (fun process member => all process (List.mem_cons_of_mem _ member)) t

/-- Each of them relies on what was so at first. -/
theorem since_inOrder_after {strict : Bool} {processes : List (Process σ Bool)} (refl : ∀ s, rely s s)
    (trans : ∀ s t u, rely s t → rely t u → rely s u) (relies : ∀ s t, relation s t → rely s t) {s : σ}
    (all : ∀ process ∈ processes, ∀ t, rely s t → process.Since holds rely relation (fun _ _ => True) t) :
    (inOrder strict processes).Since holds rely relation (fun _ _ => True) s := by
  suffices from_ : ∀ t, rely s t → (inOrder strict processes).Since holds rely relation (fun _ _ => True) t
    from from_ s (refl s)
  induction processes with
  | nil => exact fun _ _ => trivial
  | cons first rest ih =>
      intro t before
      refine ((all first List.mem_cons_self t before).tracked refl trans relies).bind fun status u after => ?_
      split
      · trivial
      · exact ih (fun process member => all process (List.mem_cons_of_mem _ member)) u (trans _ _ _ before after.2)

theorem since_repeated {body : Process σ Bool} (rounds : Nat)
    (since : ∀ s, body.Since holds rely relation (fun _ _ => True) s) (s : σ) :
    (repeated rounds body).Since holds rely relation (fun _ _ => True) s := by
  induction rounds generalizing s with
  | zero => trivial
  | succ rounds ih =>
      refine (since s).bind fun status t _ => ?_
      split
      · exact ih t
      · trivial

end Since

end Process

/-! ### Many at once -/

structure Pool (σ α : Type*) where
  shared : σ
  running : List (Process σ α)

namespace Pool

variable {programs : Process σ α → Prop} {outside : σ → σ → Prop}

/-- A program may be started at any time and be gone at any time, one process does its next command, or the state
changes from outside. -/
inductive Step (programs : Process σ α → Prop) (outside : σ → σ → Prop) : Pool σ α → Pool σ α → Prop
  | start (s : σ) (running : List (Process σ α)) (program : Process σ α) (known : programs program) :
      Step programs outside ⟨s, running⟩ ⟨s, program :: running⟩
  | turn (s : σ) (earlier later : List (Process σ α)) (command : σ → σ) (next : σ → Process σ α) :
      Step programs outside ⟨s, earlier ++ .act command next :: later⟩ ⟨command s, earlier ++ next s :: later⟩
  | gone (s : σ) (earlier later : List (Process σ α)) (process : Process σ α) :
      Step programs outside ⟨s, earlier ++ process :: later⟩ ⟨s, earlier ++ later⟩
  | change (s t : σ) (running : List (Process σ α)) (permitted : outside s t) :
      Step programs outside ⟨s, running⟩ ⟨t, running⟩

def Reaches (programs : Process σ α → Prop) (outside : σ → σ → Prop) : Pool σ α → Pool σ α → Prop :=
  Relation.ReflTransGen (Step programs outside)

variable {pool pool' : Pool σ α}

/-- What the programs guarantee, what each may rely on, and what holds all along. -/
structure Agreement (programs : Process σ α → Prop) (outside : σ → σ → Prop) (holds : σ → Prop)
    (rely relation : σ → σ → Prop) : Prop where
  refl : ∀ s, rely s s
  trans : ∀ s t u, rely s t → rely t u → rely s u
  relies : ∀ s t, relation s t → rely s t
  kept : ∀ s t, holds s → relation s t → holds t
  known : ∀ program, programs program → ∀ s, program.Since holds rely relation (fun _ _ => True) s
  permitted : ∀ s t, holds s → outside s t → relation s t

/-- A state with `holds`, and all that runs guarantees the relation from there on. -/
structure Safe (holds : σ → Prop) (rely relation : σ → σ → Prop) (pool : Pool σ α) : Prop where
  held : holds pool.shared
  running : ∀ process ∈ pool.running, process.Since holds rely relation (fun _ _ => True) pool.shared

theorem safe_start {holds : σ → Prop} {rely relation : σ → σ → Prop} {s : σ} (held : holds s) :
    Safe holds rely relation (⟨s, []⟩ : Pool σ α) :=
  ⟨held, fun _ member => absurd member List.not_mem_nil⟩

variable {holds : σ → Prop} {rely relation : σ → σ → Prop}

theorem Step.safe (step : Step programs outside pool pool')
    (agreement : Agreement programs outside holds rely relation) (safe : Safe holds rely relation pool) :
    Safe holds rely relation pool' ∧ (pool'.shared = pool.shared ∨ relation pool.shared pool'.shared) := by
  cases step with
  | start s running program member =>
      refine ⟨⟨safe.held, fun process listed => ?_⟩, .inl rfl⟩
      rcases List.mem_cons.mp listed with rfl | listed
      · exact agreement.known _ member s
      · exact safe.running process listed
  | turn s earlier later command next =>
      have own := safe.running (.act command next) (List.mem_append_right _ List.mem_cons_self)
      obtain ⟨related, onward⟩ := own s safe.held (agreement.refl s)
      have changed := agreement.relies s _ related
      have others : ∀ process ∈ earlier ++ later, process.Since holds rely relation (fun _ _ => True) (command s) := by
        intro process listed
        refine (safe.running process ?_).after agreement.trans changed
        rcases List.mem_append.mp listed with listed | listed
        · exact List.mem_append_left _ listed
        · exact List.mem_append_right _ (List.mem_cons_of_mem _ listed)
      refine ⟨⟨agreement.kept s _ safe.held related, fun process listed => ?_⟩, .inr related⟩
      rcases List.mem_append.mp listed with listed | listed
      · exact others process (List.mem_append_left _ listed)
      · rcases List.mem_cons.mp listed with rfl | listed
        · exact onward
        · exact others process (List.mem_append_right _ listed)
  | gone s earlier later process =>
      refine ⟨⟨safe.held, fun other listed => safe.running other ?_⟩, .inl rfl⟩
      rcases List.mem_append.mp listed with listed | listed
      · exact List.mem_append_left _ listed
      · exact List.mem_append_right _ (List.mem_cons_of_mem _ listed)
  | change s t running allowed =>
      have related := agreement.permitted s t safe.held allowed
      have changed := agreement.relies s t related
      refine ⟨⟨agreement.kept s t safe.held related, fun process listed => ?_⟩, .inr related⟩
      exact (safe.running process listed).after agreement.trans changed

/-- What steps of the relation keep holds wherever a run ends. -/
theorem Reaches.invariant (also : σ → Prop) (reached : Reaches programs outside pool pool')
    (agreement : Agreement programs outside holds rely relation) (safe : Safe holds rely relation pool)
    (also_kept : ∀ s t, holds s → also s → relation s t → also t) (initial : also pool.shared) :
    Safe holds rely relation pool' ∧ also pool'.shared := by
  induction reached with
  | refl => exact ⟨safe, initial⟩
  | tail _ step before =>
      obtain ⟨safe, also_⟩ := before
      obtain ⟨after, same | related⟩ := step.safe agreement safe
      · exact ⟨after, same ▸ also_⟩
      · exact ⟨after, also_kept _ _ safe.held also_ related⟩

theorem Reaches.trans {pool'' : Pool σ α} (first : Reaches programs outside pool pool')
    (second : Reaches programs outside pool' pool'') : Reaches programs outside pool pool'' :=
  Relation.ReflTransGen.trans first second

theorem Reaches.single (step : Step programs outside pool pool') : Reaches programs outside pool pool' :=
  Relation.ReflTransGen.single step

theorem reaches_done (process : Process σ α) (s : σ) (running : List (Process σ α)) :
    Reaches programs outside ⟨s, process :: running⟩ ⟨(process.run s).2, .done (process.run s).1 :: running⟩ := by
  induction process generalizing s with
  | done result => exact .refl
  | act command next rest =>
      have first : Step programs outside ⟨s, .act command next :: running⟩ ⟨command s, next s :: running⟩ :=
        .turn s [] running command next
      exact (Reaches.single first).trans (rest s (command s))

/-- A program that nothing comes in between of is one of the runs. -/
theorem reaches_run {program : Process σ α} (known : programs program) (s : σ) (running : List (Process σ α)) :
    Reaches programs outside ⟨s, running⟩ ⟨(program.run s).2, running⟩ := by
  have begun : Reaches programs outside ⟨s, running⟩ ⟨s, program :: running⟩ := .single (.start s running program known)
  have gone : Step programs outside ⟨(program.run s).2, .done (program.run s).1 :: running⟩
      ⟨(program.run s).2, running⟩ := .gone _ [] running _
  exact (begun.trans (reaches_done program s running)).trans (.single gone)

end Pool

end DeepOrc.Lib

import Mathlib.Logic.Relation
import Mathlib.Tactic.Common

/-!
# Partial state machines

A machine is a step function that may refuse an event. Runs may be limited to steps that meet a
condition on the state they start from and the event they take.
-/

namespace DeepOrc.Lib

variable {σ ε : Type*}

/-- One accepted event that meets `allowed`. -/
def Next (step : σ → ε → Option σ) (allowed : σ → ε → Prop) (s t : σ) : Prop :=
  ∃ event, allowed s event ∧ step s event = some t

def Reaches (step : σ → ε → Option σ) (allowed : σ → ε → Prop) : σ → σ → Prop :=
  Relation.ReflTransGen (Next step allowed)

namespace Reaches

variable {step : σ → ε → Option σ} {allowed : σ → ε → Prop} {start s t : σ}

theorem tail (reached : Reaches step allowed start s) {event : ε} (permitted : allowed s event)
    (stepped : step s event = some t) : Reaches step allowed start t :=
  Relation.ReflTransGen.tail reached ⟨event, permitted, stepped⟩

/-- What holds at the start and is kept by every allowed step holds wherever a run ends. -/
theorem invariant {holds : σ → Prop} (reached : Reaches step allowed start s) (initial : holds start)
    (kept : ∀ s event t, holds s → allowed s event → step s event = some t → holds t) : holds s := by
  induction reached with
  | refl => exact initial
  | tail _ next earlier =>
      obtain ⟨event, permitted, stepped⟩ := next
      exact kept _ event _ earlier permitted stepped

theorem mono {wider : σ → ε → Prop} (reached : Reaches step allowed start s)
    (implies : ∀ s event, allowed s event → wider s event) : Reaches step wider start s := by
  induction reached with
  | refl => exact .refl
  | tail _ next earlier =>
      obtain ⟨event, permitted, stepped⟩ := next
      exact earlier.tail (implies _ event permitted) stepped

/-- Where each step keeps a property exactly if it meets a condition, the property tells the ends of the runs all of
whose steps meet it. -/
theorem exact_iff (holds : σ → Prop) {condition : σ → ε → Prop} (reached : Reaches step allowed start s)
    (initial : holds start)
    (kept : ∀ s event t, Reaches step allowed start s → allowed s event → step s event = some t →
      (holds t ↔ holds s ∧ condition s event)) :
    holds s ↔ Reaches step (fun s event => allowed s event ∧ condition s event) start s := by
  constructor
  · intro holding
    induction reached with
    | refl => exact .refl
    | tail earlier next before =>
        obtain ⟨event, permitted, stepped⟩ := next
        obtain ⟨held, met⟩ := (kept _ event _ earlier permitted stepped).mp holding
        exact (before held).tail ⟨permitted, met⟩ stepped
  · intro restricted
    induction restricted with
    | refl => exact initial
    | tail earlier next before =>
        obtain ⟨event, ⟨permitted, met⟩, stepped⟩ := next
        have arrived := mono earlier fun _ _ both => both.1
        exact (kept _ event _ arrived permitted stepped).mpr ⟨before arrived, met⟩

theorem unrestricted_exact_iff (holds : σ → Prop) {condition : σ → ε → Prop}
    (reached : Reaches step (fun _ _ => True) start s) (initial : holds start)
    (kept : ∀ s event t, Reaches step (fun _ _ => True) start s → step s event = some t →
      (holds t ↔ holds s ∧ condition s event)) :
    holds s ↔ Reaches step condition start s := by
  have exact := exact_iff holds reached initial fun s event t before _ stepped => kept s event t before stepped
  rw [exact]
  constructor
  · intro met
    exact met.mono fun _ _ both => both.2
  · intro met
    exact met.mono fun _ _ meets => ⟨trivial, meets⟩

end Reaches

/-- A run all of whose states have the property. -/
def Stays (step : σ → ε → Option σ) (allowed : σ → ε → Prop) (holds : σ → Prop) (start s : σ) : Prop :=
  holds start ∧ Reaches step (fun s event => allowed s event ∧ ∀ t, step s event = some t → holds t) start s

namespace Stays

variable {step : σ → ε → Option σ} {allowed : σ → ε → Prop} {holds : σ → Prop} {start s : σ}

theorem reaches (stays : Stays step allowed holds start s) : Reaches step allowed start s :=
  stays.2.mono fun _ _ both => both.1

theorem holding (stays : Stays step allowed holds start s) : holds s := by
  obtain ⟨initial, run⟩ := stays
  cases run with
  | refl => exact initial
  | tail _ last =>
      obtain ⟨event, ⟨-, kept⟩, stepped⟩ := last
      exact kept _ stepped

/-- Where a step from a state with the property keeps it exactly if it meets a condition, the runs that keep it are
those all of whose steps meet the condition. -/
theorem iff_reaches {condition : σ → ε → Prop} (initial : holds start)
    (kept : ∀ s event t, Reaches step allowed start s → holds s → allowed s event → step s event = some t →
      (holds t ↔ condition s event)) :
    Stays step allowed holds start s ↔ Reaches step (fun s event => allowed s event ∧ condition s event) start s := by
  constructor
  · intro stays
    obtain ⟨-, run⟩ := stays
    induction run with
    | refl => exact .refl
    | tail earlier last before =>
        obtain ⟨event, ⟨permitted, keeps⟩, stepped⟩ := last
        have here : Stays step allowed holds start _ := ⟨initial, earlier⟩
        exact before.tail ⟨permitted, (kept _ event _ here.reaches here.holding permitted stepped).mp (keeps _ stepped)⟩
          stepped
  · intro restricted
    induction restricted with
    | refl => exact ⟨initial, .refl⟩
    | tail earlier last before =>
        obtain ⟨event, ⟨permitted, met⟩, stepped⟩ := last
        have next := (kept _ event _ before.reaches before.holding permitted stepped).mpr met
        refine ⟨initial, before.2.tail ⟨permitted, fun t taken => ?_⟩ stepped⟩
        rw [stepped] at taken
        cases taken
        exact next

/-- Where the property forces the condition on each step, and the runs whose steps meet it have the property. -/
theorem iff_reaches_of_safe {condition : σ → ε → Prop}
    (forced : ∀ s event t, Reaches step allowed start s → step s event = some t → holds t → condition s event)
    (safe : ∀ s, Reaches step (fun s event => allowed s event ∧ condition s event) start s → holds s) :
    Stays step allowed holds start s ↔ Reaches step (fun s event => allowed s event ∧ condition s event) start s := by
  constructor
  · intro stays
    obtain ⟨initial, run⟩ := stays
    induction run with
    | refl => exact .refl
    | tail earlier last before =>
        obtain ⟨event, ⟨permitted, keeps⟩, stepped⟩ := last
        have here : Stays step allowed holds start _ := ⟨initial, earlier⟩
        exact before.tail ⟨permitted, forced _ event _ here.reaches stepped (keeps _ stepped)⟩ stepped
  · intro restricted
    refine ⟨safe start .refl, ?_⟩
    induction restricted with
    | refl => exact .refl
    | tail earlier last before =>
        obtain ⟨event, met, stepped⟩ := last
        refine before.tail ⟨met.1, fun t taken => ?_⟩ stepped
        rw [stepped] at taken
        cases taken
        exact safe _ (Reaches.tail earlier met stepped)

end Stays

/-- The state after a list of events, if each is accepted and passes the check. -/
def run (step : σ → ε → Option σ) (check : σ → ε → Bool) : σ → List ε → Option σ
  | s, [] => some s
  | s, event :: events =>
      if check s event then
        match step s event with
        | some t => run step check t events
        | none => none
      else none

theorem reaches_of_run {step : σ → ε → Option σ} {check : σ → ε → Bool} {allowed : σ → ε → Prop}
    (sound : ∀ s event, check s event = true → allowed s event) {events : List ε} :
    ∀ {s t : σ}, run step check s events = some t → Reaches step allowed s t := by
  induction events with
  | nil =>
      intro s t ran
      cases ran
      exact .refl
  | cons event events later =>
      intro s t ran
      simp only [run] at ran
      split at ran
      · rename_i permitted
        split at ran
        · rename_i middle stepped
          exact Relation.ReflTransGen.head ⟨event, sound s event permitted, stepped⟩ (later ran)
        · cases ran
      · cases ran

theorem exists_of_any {α : Type*} {found : Option α} {fact : α → Bool} (holds : found.any fact = true) :
    ∃ value, found = some value ∧ fact value = true := by
  cases found with
  | none => cases holds
  | some value => exact ⟨value, rfl, holds⟩

end DeepOrc.Lib

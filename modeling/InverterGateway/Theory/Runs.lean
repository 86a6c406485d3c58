/-
# Theory.Runs — states a system reaches when every step meets a condition

A `Machine` is a start condition and a labelled step relation.  `Reaches ok`
collects the states of its runs, restricted to the runs whose every step meets
`ok` in the state it is taken from: `ok := fun _ _ => True` gives all runs, and
a stronger `ok` states what a result assumes of the environment.  An invariant
is proved once per step (`Reaches.invariant`), with the states before the step
known to be reached, so that a later invariant may use an earlier one.
-/
import Mathlib.Logic.Relation

namespace InverterGateway.Theory

set_option autoImplicit false

universe u v

/-- A labelled transition system. -/
structure Machine (State : Type u) (Label : Type v) where
  start : State → Prop
  step : State → Label → State → Prop

namespace Machine

variable {State : Type u} {Label : Type v} (M : Machine State Label)

/-- One step that meets the condition `ok`. -/
def Under (ok : State → Label → Prop) (s t : State) : Prop :=
  ∃ l, ok s l ∧ M.step s l t

/-- The states of the runs whose every step meets `ok`. -/
def Reaches (ok : State → Label → Prop) (t : State) : Prop :=
  ∃ s, M.start s ∧ Relation.ReflTransGen (M.Under ok) s t

/-- The condition that every step meets. -/
def Any (_ : State) (_ : Label) : Prop := True

namespace Reaches

variable {M} {ok : State → Label → Prop}

theorem start {s : State} (initial : M.start s) : M.Reaches ok s :=
  ⟨s, initial, .refl⟩

theorem next {s t : State} {l : Label} (reached : M.Reaches ok s) (meets : ok s l)
    (step : M.step s l t) : M.Reaches ok t := by
  obtain ⟨s₀, initial, run⟩ := reached
  exact ⟨s₀, initial, run.tail ⟨l, meets, step⟩⟩

theorem further {s t : State} (reached : M.Reaches ok s)
    (run : Relation.ReflTransGen (M.Under ok) s t) : M.Reaches ok t := by
  obtain ⟨s₀, initial, sofar⟩ := reached
  exact ⟨s₀, initial, sofar.trans run⟩

/-- **Invariant rule.**  What holds at the start and is kept by every step that
meets `ok`, from states already reached, holds in every state reached. -/
theorem invariant {P : State → Prop} (initial : ∀ s, M.start s → P s)
    (kept : ∀ s l t, M.Reaches ok s → P s → ok s l → M.step s l t → P t) {t : State}
    (reached : M.Reaches ok t) : P t := by
  obtain ⟨s, started, run⟩ := reached
  have both : P t ∧ M.Reaches ok t := by
    induction run with
    | refl => exact ⟨initial s started, start started⟩
    | tail _ last ih =>
        obtain ⟨l, meets, step⟩ := last
        exact ⟨kept _ l _ ih.2 ih.1 meets step, ih.2.next meets step⟩
  exact both.1

end Reaches

end Machine

end InverterGateway.Theory

/-
# Theory.Fallible — steps that may fail

When a sequence of `Except` steps succeeds, and what a pass over a list
preserves: an invariant of the elements read so far and of the result.
-/
import Mathlib.Tactic.TypeStar

namespace InverterGateway.Theory

set_option autoImplicit false

/-- Two steps succeed when the first does and the second does on its result. -/
theorem bind_eq_ok {ε α β : Type} {x : Except ε α} {f : α → Except ε β} {b : β} :
    (x >>= f) = .ok b ↔ ∃ a, x = .ok a ∧ f a = .ok b := by
  cases x with
  | error e => simp [bind, Except.bind]
  | ok a => simp [bind, Except.bind]

/-- A pass that succeeds on a longer list succeeds on its start and then on the rest. -/
theorem foldlM_cons_eq_ok {ε α β : Type} {f : β → α → Except ε β} {start result : β} {x : α}
    {rest : List α} : (x :: rest).foldlM f start = .ok result ↔
      ∃ next, f start x = .ok next ∧ rest.foldlM f next = .ok result := by
  rw [List.foldlM_cons, bind_eq_ok]

/-- **The invariant of a pass**: what each step preserves of the elements read so
far holds of the whole list when the pass succeeds. -/
theorem foldlM_invariant {ε α β : Type} {f : β → α → Except ε β} (P : List α → β → Prop)
    (step : ∀ seen acc x next, P seen acc → f acc x = .ok next → P (seen ++ [x]) next)
    {start result : β} {list : List α} (first : P [] start)
    (ran : list.foldlM f start = .ok result) : P list result := by
  have general : ∀ (rest seen : List α) (acc : β), P seen acc → rest.foldlM f acc = .ok result →
      P (seen ++ rest) result := by
    intro rest
    induction rest with
    | nil =>
        intro seen acc held done
        cases done
        rwa [List.append_nil]
    | cons x rest ih =>
        intro seen acc held done
        obtain ⟨next, stepped, later⟩ := foldlM_cons_eq_ok.1 done
        have whole := ih (seen ++ [x]) next (step seen acc x next held stepped) later
        rwa [List.append_assoc, List.singleton_append] at whole
  exact general list [] start first ran

/-- A check of a whole list succeeds when the check of each element does. -/
theorem forM_eq_ok {ε α : Type} {f : α → Except ε Unit} {list : List α} {u : Unit} :
    list.forM f = .ok u ↔ ∀ x ∈ list, f x = .ok () := by
  induction list with
  | nil => exact ⟨fun _ _ found => absurd found List.not_mem_nil, fun _ => rfl⟩
  | cons x rest ih =>
      rw [List.forM_eq_forM, List.forM_cons, bind_eq_ok, List.forall_mem_cons, ← ih,
        List.forM_eq_forM]
      exact ⟨fun ⟨_, first, others⟩ => ⟨first, others⟩, fun ⟨first, others⟩ => ⟨(), first, others⟩⟩

end InverterGateway.Theory

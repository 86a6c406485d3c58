/-
# Theory.Trace — programs that may fail, keep a state and leave a log

A program sees the log of what happened before it and adds to it; it cannot
rewrite it.  A failure keeps the state and the events up to it, as an exception
keeps the variables already assigned.  `bind_run` takes a run of two steps apart,
and `Within` is the frame rule: what a program logs, in any run and in one that
succeeds, and what it keeps.
-/
import Mathlib.Tactic.TypeStar

namespace InverterGateway.Theory

set_option autoImplicit false

/-- From the log so far and the state: the answer, the state after, the new events. -/
def Trace (E σ ε α : Type) : Type := List E → σ → Except ε α × σ × List E

/-- An element of a kind that only the middle has splits the middle. -/
theorem append_locate {α : Type} {p : α → Prop} {front middle back before after : List α} {x : α}
    (whole : front ++ (middle ++ back) = before ++ x :: after) (hit : p x)
    (clear : ∀ z ∈ front, ¬ p z) (others : ∀ z ∈ back, ¬ p z) :
    ∃ b a, middle = b ++ x :: a ∧ before = front ++ b ∧ after = a ++ back := by
  have last : x ∉ back := fun inside => others x inside hit
  rcases List.append_eq_append_iff.1 whole with ⟨m, split, rest⟩ | ⟨m, split, rest⟩
  · rcases List.append_eq_append_iff.1 rest with ⟨k, -, inside⟩ | ⟨k, inside, tail⟩
    · exact absurd (by rw [inside]; exact List.mem_append_right _ List.mem_cons_self) last
    · cases k with
      | nil => exact absurd (by rw [← List.nil_append back, ← tail]; exact List.mem_cons_self) last
      | cons y k =>
          rw [List.cons_append, List.cons.injEq] at tail
          exact ⟨m, k, by rw [inside, tail.1], split, tail.2⟩
  · cases m with
    | nil =>
        rw [List.append_nil] at split
        rw [List.nil_append] at rest
        cases middle with
        | nil => exact absurd (by rw [← List.nil_append back, ← rest]; exact List.mem_cons_self) last
        | cons y k =>
            rw [List.cons_append, List.cons.injEq] at rest
            exact ⟨[], k, by rw [List.nil_append, rest.1], by rw [split, List.append_nil], rest.2⟩
    | cons y m =>
        rw [List.cons_append, List.cons.injEq] at rest
        refine absurd hit (clear x ?_)
        rw [split, rest.1]
        exact List.mem_append_right _ List.mem_cons_self

/-- A list is split in one way at the only element of a kind. -/
theorem append_cons_unique {α : Type} {p : α → Prop} {front back before after : List α} {x y : α}
    (whole : front ++ y :: back = before ++ x :: after) (hit : p x) (clear : ∀ z ∈ front, ¬ p z)
    (others : ∀ z ∈ back, ¬ p z) : before = front ∧ x = y ∧ after = back := by
  rw [← List.singleton_append] at whole
  obtain ⟨b, a, single, front', back'⟩ := append_locate whole hit clear others
  rcases List.singleton_eq_append_iff.1 single with ⟨rfl, same⟩ | ⟨-, none⟩
  · cases same
    exact ⟨by rw [front', List.append_nil], rfl, back'⟩
  · cases none

namespace Trace

variable {E σ τ ε α β : Type}

/-- Two steps; the second is not run when the first fails. -/
def andThen (m : Trace E σ ε α) (f : α → Trace E σ ε β) : Trace E σ ε β := fun log s =>
  match m log s with
  | (.ok a, s', events) => ((f a (log ++ events) s').1, (f a (log ++ events) s').2.1,
      events ++ (f a (log ++ events) s').2.2)
  | (.error e, s', events) => (.error e, s', events)

instance : Monad (Trace E σ ε) where
  pure a := fun _ s => (.ok a, s, [])
  bind := andThen

/-- A step that touches neither the state nor the log. -/
instance : MonadLift (Except ε) (Trace E σ ε) where
  monadLift x := fun _ s => (x, s, [])

instance : MonadStateOf σ (Trace E σ ε) where
  get := fun _ s => (.ok s, s, [])
  set s' := fun _ _ => (.ok ⟨⟩, s', [])
  modifyGet f := fun _ s => (.ok (f s).1, (f s).2, [])

/-- A step that the environment answers, in view of the log; the answer is logged. -/
def observe (answer : List E → Except ε α) (event : Except ε α → E) : Trace E σ ε α := fun log s =>
  (answer log, s, [event (answer log)])

/-- A step that is only logged. -/
def emit (event : E) : Trace E σ ε Unit := fun _ s => (.ok (), s, [event])

/-- A program on a state of its own, whose failure is an answer. -/
def attempt (start : σ) (m : Trace E σ ε α) : Trace E τ ε (Except ε α × σ) := fun log t =>
  (.ok ((m log start).1, (m log start).2.1), t, (m log start).2.2)

/-! ## Runs taken apart -/

section Runs

variable {log : List E} {s s' : σ} {events : List E}

theorem pure_run {a : α} {r : Except ε α} :
    (pure a : Trace E σ ε α) log s = (r, s', events) ↔ r = .ok a ∧ s' = s ∧ events = [] := by
  constructor
  · intro run
    cases run
    exact ⟨rfl, rfl, rfl⟩
  · rintro ⟨rfl, rfl, rfl⟩
    rfl

theorem lift_run {x : Except ε α} {r : Except ε α} :
    (liftM x : Trace E σ ε α) log s = (r, s', events) ↔ r = x ∧ s' = s ∧ events = [] := by
  constructor
  · intro run
    cases run
    exact ⟨rfl, rfl, rfl⟩
  · rintro ⟨rfl, rfl, rfl⟩
    rfl

theorem observe_run {answer : List E → Except ε α} {event : Except ε α → E} {r : Except ε α} :
    (observe answer event : Trace E σ ε α) log s = (r, s', events) ↔
      r = answer log ∧ s' = s ∧ events = [event r] := by
  constructor
  · intro run
    cases run
    exact ⟨rfl, rfl, rfl⟩
  · rintro ⟨rfl, rfl, rfl⟩
    rfl

theorem emit_run {event : E} {r : Except ε Unit} :
    (emit event : Trace E σ ε Unit) log s = (r, s', events) ↔
      r = .ok () ∧ s' = s ∧ events = [event] := by
  constructor
  · intro run
    cases run
    exact ⟨rfl, rfl, rfl⟩
  · rintro ⟨rfl, rfl, rfl⟩
    rfl

theorem modify_run {f : σ → σ} {r : Except ε PUnit} :
    (modify f : Trace E σ ε PUnit) log s = (r, s', events) ↔
      r = .ok ⟨⟩ ∧ s' = f s ∧ events = [] := by
  constructor
  · intro run
    cases run
    exact ⟨rfl, rfl, rfl⟩
  · rintro ⟨rfl, rfl, rfl⟩
    rfl

/-- An attempt never fails, and logs what its program does. -/
theorem attempt_run {start : τ} {m : Trace E τ ε α} {r : Except ε (Except ε α × τ)} :
    (attempt start m : Trace E σ ε (Except ε α × τ)) log s = (r, s', events) ↔
      ∃ inner last, m log start = (inner, last, events) ∧ r = .ok (inner, last) ∧ s' = s := by
  constructor
  · intro run
    cases run
    exact ⟨_, _, rfl, rfl, rfl⟩
  · rintro ⟨inner, last, run, rfl, rfl⟩
    rw [attempt, run]

/-- **A run of two steps**: the first fails, or both run and their events follow each other. -/
theorem bind_run {m : Trace E σ ε α} {f : α → Trace E σ ε β} {r : Except ε β} :
    (m >>= f) log s = (r, s', events) ↔
      (∃ e, m log s = (.error e, s', events) ∧ r = .error e) ∨
      ∃ a mid first second, m log s = (.ok a, mid, first) ∧
        f a (log ++ first) mid = (r, s', second) ∧ events = first ++ second := by
  show andThen m f log s = _ ↔ _
  unfold andThen
  constructor
  · intro run
    split at run
    · rename_i a mid first known
      cases run
      exact Or.inr ⟨a, mid, first, _, known, rfl, rfl⟩
    · rename_i e mid first known
      cases run
      exact Or.inl ⟨e, known, rfl⟩
  · rintro (⟨e, first, rfl⟩ | ⟨a, mid, first, second, known, later, rfl⟩)
    · rw [first]
    · simp only [known, later]

theorem bind_run_ok {m : Trace E σ ε α} {f : α → Trace E σ ε β} {b : β} :
    (m >>= f) log s = (.ok b, s', events) ↔
      ∃ a mid first second, m log s = (.ok a, mid, first) ∧
        f a (log ++ first) mid = (.ok b, s', second) ∧ events = first ++ second := by
  rw [bind_run]
  constructor
  · rintro (⟨e, -, impossible⟩ | run)
    · cases impossible
    · exact run
  · exact Or.inr

/-- A run that starts with a step outside of state and log. -/
theorem lift_bind_run {x : Except ε α} {f : α → Trace E σ ε β} {r : Except ε β} :
    ((liftM x : Trace E σ ε α) >>= f) log s = (r, s', events) ↔
      (∃ e, x = .error e ∧ r = .error e ∧ s' = s ∧ events = []) ∨
      ∃ a, x = .ok a ∧ f a log s = (r, s', events) := by
  rw [bind_run]
  constructor
  · rintro (⟨e, failed, rfl⟩ | ⟨a, mid, first, second, known, later, rfl⟩)
    · obtain ⟨same, rfl, rfl⟩ := lift_run.1 failed
      exact Or.inl ⟨e, same.symm, rfl, rfl, rfl⟩
    · obtain ⟨same, rfl, rfl⟩ := lift_run.1 known
      rw [List.append_nil] at later
      exact Or.inr ⟨a, same.symm, later⟩
  · rintro (⟨e, rfl, rfl, rfl, rfl⟩ | ⟨a, rfl, later⟩)
    · exact Or.inl ⟨e, rfl, rfl⟩
    · exact Or.inr ⟨a, s, [], events, rfl, by rwa [List.append_nil], rfl⟩

/-- A run that starts with an answered step. -/
theorem observe_bind_run {answer : List E → Except ε α} {event : Except ε α → E}
    {f : α → Trace E σ ε β} {r : Except ε β} :
    ((observe answer event : Trace E σ ε α) >>= f) log s = (r, s', events) ↔
      (∃ e, answer log = .error e ∧ r = .error e ∧ s' = s ∧ events = [event (.error e)]) ∨
      ∃ a rest, answer log = .ok a ∧ f a (log ++ [event (.ok a)]) s = (r, s', rest) ∧
        events = event (.ok a) :: rest := by
  rw [bind_run]
  constructor
  · rintro (⟨e, failed, rfl⟩ | ⟨a, mid, first, second, known, later, rfl⟩)
    · obtain ⟨same, rfl, rfl⟩ := observe_run.1 failed
      exact Or.inl ⟨e, same.symm, rfl, rfl, rfl⟩
    · obtain ⟨same, rfl, rfl⟩ := observe_run.1 known
      exact Or.inr ⟨a, second, same.symm, later, rfl⟩
  · rintro (⟨e, same, rfl, rfl, rfl⟩ | ⟨a, rest, same, later, rfl⟩)
    · exact Or.inl ⟨e, observe_run.2 ⟨same.symm, rfl, rfl⟩, rfl⟩
    · exact Or.inr ⟨a, s, _, rest, observe_run.2 ⟨same.symm, rfl, rfl⟩, later, rfl⟩

theorem modify_bind_run {g : σ → σ} {f : PUnit → Trace E σ ε β} {r : Except ε β} :
    ((modify g : Trace E σ ε PUnit) >>= f) log s = (r, s', events) ↔
      f ⟨⟩ log (g s) = (r, s', events) := by
  rw [bind_run]
  constructor
  · rintro (⟨e, failed, rfl⟩ | ⟨a, mid, first, second, known, later, rfl⟩)
    · obtain ⟨impossible, -, -⟩ := modify_run.1 failed
      cases impossible
    · obtain ⟨-, rfl, rfl⟩ := modify_run.1 known
      rwa [List.append_nil] at later
  · intro later
    exact Or.inr ⟨⟨⟩, g s, [], events, rfl, by rwa [List.append_nil], rfl⟩

theorem emit_bind_run {event : E} {f : Unit → Trace E σ ε β} {r : Except ε β} :
    ((emit event : Trace E σ ε Unit) >>= f) log s = (r, s', events) ↔
      ∃ rest, f () (log ++ [event]) s = (r, s', rest) ∧ events = event :: rest := by
  rw [bind_run]
  constructor
  · rintro (⟨e, failed, rfl⟩ | ⟨a, mid, first, second, known, later, rfl⟩)
    · obtain ⟨impossible, -, -⟩ := emit_run.1 failed
      cases impossible
    · obtain ⟨-, rfl, rfl⟩ := emit_run.1 known
      exact ⟨second, later, rfl⟩
  · rintro ⟨rest, later, rfl⟩
    exact Or.inr ⟨(), s, [event], rest, rfl, later, rfl⟩

/-- After an attempt the run goes on, with its answer and the state it left. -/
theorem attempt_bind_run {start : τ} {m : Trace E τ ε α} {f : Except ε α × τ → Trace E σ ε β}
    {r : Except ε β} : ((attempt start m : Trace E σ ε (Except ε α × τ)) >>= f) log s =
      (r, s', events) ↔ ∃ answer last first rest, m log start = (answer, last, first) ∧
        f (answer, last) (log ++ first) s = (r, s', rest) ∧ events = first ++ rest := by
  rw [bind_run]
  constructor
  · rintro (⟨e, failed, rfl⟩ | ⟨a, mid, first, second, known, later, rfl⟩)
    · obtain ⟨_, _, -, impossible, -⟩ := attempt_run.1 failed
      cases impossible
    · obtain ⟨answer, last, ran, same, rfl⟩ := attempt_run.1 known
      cases same
      exact ⟨answer, last, first, second, ran, later, rfl⟩
  · rintro ⟨answer, last, first, rest, ran, later, rfl⟩
    exact Or.inr ⟨_, s, first, rest, attempt_run.2 ⟨answer, last, ran, rfl, rfl⟩, later, rfl⟩

end Runs

/-! ## The frame rule -/

/-- Every event is of a kind, every event of a success is of a second kind, and a
property of the state is kept. -/
structure Within (P S : E → Prop) (Q : σ → Prop) (m : Trace E σ ε α) : Prop where
  each : ∀ log s, Q s → ∀ e ∈ (m log s).2.2, P e
  success : ∀ log s, Q s → ∀ a, (m log s).1 = .ok a → ∀ e ∈ (m log s).2.2, S e
  keeps : ∀ log s, Q s → Q (m log s).2.1

section Frame

variable {P P' S : E → Prop} {Q : σ → Prop}

section Facts

variable {m : Trace E σ ε α} {log events : List E} {s s' : σ} {r : Except ε α}

theorem Within.kinds (within : Within P S Q m) (run : m log s = (r, s', events)) (kept : Q s) :
    ∀ e ∈ events, P e := by
  have facts := within.each log s kept
  rwa [run] at facts

theorem Within.succeeded {a : α} (within : Within P S Q m) (run : m log s = (.ok a, s', events))
    (kept : Q s) : ∀ e ∈ events, S e := by
  have facts := within.success log s kept a (by rw [run])
  rwa [run] at facts

theorem Within.state (within : Within P S Q m) (run : m log s = (r, s', events)) (kept : Q s) :
    Q s' := by
  have facts := within.keeps log s kept
  rwa [run] at facts

end Facts

theorem Within.mono {m : Trace E σ ε α} (more : ∀ e, P e → P' e) (within : Within P S Q m) :
    Within P' S Q m :=
  ⟨fun log s kept e listed => more e (within.each log s kept e listed), within.success, within.keeps⟩

/-- A step that logs nothing and keeps the state. -/
theorem Within.silent {m : Trace E σ ε α} (silent : ∀ log s, (m log s).2.2 = [])
    (keeps : ∀ log s, Q s → Q (m log s).2.1) : Within P S Q m := by
  refine ⟨?_, ?_, keeps⟩
  · intro log s _ e listed
    rw [silent] at listed
    cases listed
  · intro log s _ a _ e listed
    rw [silent] at listed
    cases listed

theorem Within.pure (a : α) : Within P S Q (pure a : Trace E σ ε α) :=
  Within.silent (fun _ _ => rfl) fun _ _ kept => kept

theorem Within.lift (x : Except ε α) : Within P S Q (liftM x : Trace E σ ε α) :=
  Within.silent (fun _ _ => rfl) fun _ _ kept => kept

theorem Within.modify {f : σ → σ} (keeps : ∀ s, Q s → Q (f s)) :
    Within P S Q (modify f : Trace E σ ε PUnit) :=
  Within.silent (fun _ _ => rfl) fun _ s kept => keeps s kept

theorem Within.observe {answer : List E → Except ε α} {event : Except ε α → E}
    (each : ∀ r, P (event r)) (success : ∀ a, S (event (.ok a))) :
    Within P S Q (observe answer event : Trace E σ ε α) := by
  refine ⟨?_, ?_, fun _ _ kept => kept⟩
  · intro log s _ e listed
    rw [List.mem_singleton.1 listed]
    exact each _
  · intro log s _ a ran e listed
    have same : answer log = .ok a := ran
    rw [List.mem_singleton.1 listed, same]
    exact success a

theorem Within.bind {m : Trace E σ ε α} {f : α → Trace E σ ε β} (first : Within P S Q m)
    (second : ∀ a, Within P S Q (f a)) : Within P S Q (m >>= f) := by
  have parts : ∀ log s r s' events, (m >>= f) log s = (r, s', events) → Q s →
      (∀ e ∈ events, P e) ∧ (∀ b, r = .ok b → ∀ e ∈ events, S e) ∧ Q s' := by
    intro log s r s' events run kept
    rcases bind_run.1 run with ⟨e, failed, rfl⟩ | ⟨a, mid, before, after, known, later, rfl⟩
    · exact ⟨first.kinds failed kept, fun _ done => (by cases done), first.state failed kept⟩
    · have between := first.state known kept
      refine ⟨?_, ?_, (second a).state later between⟩
      · intro e listed
        rcases List.mem_append.1 listed with early | late
        · exact first.kinds known kept e early
        · exact (second a).kinds later between e late
      · rintro b rfl e listed
        rcases List.mem_append.1 listed with early | late
        · exact first.succeeded known kept e early
        · exact (second a).succeeded later between e late
  refine ⟨?_, ?_, ?_⟩
  · intro log s kept
    exact (parts log s _ _ _ rfl kept).1
  · intro log s kept
    exact (parts log s _ _ _ rfl kept).2.1
  · intro log s kept
    exact (parts log s _ _ _ rfl kept).2.2

end Frame

end Trace

end InverterGateway.Theory

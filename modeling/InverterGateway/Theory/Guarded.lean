/-
# Theory.Guarded — which events a program may log, and after what

A program of `Theory.Trace` logs what it does.  A guard says of each event what
must have been logged before it; `Guarded` is the triple of a program over logs:
from every log that meets `pre`, each event it adds is allowed by the log up to
it, a success leaves a log that meets `post` of its answer, and a failure one
that meets `failed` of its error.  One rule per way to build a program; the
environment's answers are arbitrary, so what a triple says holds however the
environment behaves.
-/
import InverterGateway.Theory.Trace

namespace InverterGateway.Theory

set_option autoImplicit false

namespace Trace

variable {E σ τ ε α β : Type}

/-- Each of the events is allowed by the log and the events before it. -/
def Allowed (guard : List E → E → Prop) (log : List E) : List E → Prop
  | [] => True
  | e :: rest => guard log e ∧ Allowed guard (log ++ [e]) rest

section Allowed

variable {guard : List E → E → Prop}

theorem allowed_append {log first second : List E} :
    Allowed guard log (first ++ second) ↔
      Allowed guard log first ∧ Allowed guard (log ++ first) second := by
  induction first generalizing log with
  | nil => simp [Allowed]
  | cons e rest ih =>
      rw [List.cons_append, Allowed, Allowed, ih, and_assoc, List.append_assoc,
        List.singleton_append]

/-- **An event of a guarded run stands after what its guard asks for.** -/
theorem Allowed.split {log events before after : List E} {e : E} (allowed : Allowed guard log events)
    (split : events = before ++ e :: after) : guard (log ++ before) e := by
  rw [split, allowed_append] at allowed
  exact allowed.2.1

end Allowed

/-- The triple of a program over the logs it is run from. -/
structure Guarded (guard : List E → E → Prop) (pre : List E → Prop) (m : Trace E σ ε α)
    (post : α → List E → Prop) (failed : ε → List E → Prop) : Prop where
  allowed : ∀ log s, pre log → Allowed guard log (m log s).2.2
  returns : ∀ log s a, pre log → (m log s).1 = .ok a → post a (log ++ (m log s).2.2)
  fails : ∀ log s e, pre log → (m log s).1 = .error e → failed e (log ++ (m log s).2.2)

namespace Guarded

variable {guard : List E → E → Prop} {pre : List E → Prop} {post : α → List E → Prop}
  {failed : ε → List E → Prop}

/-- A step that logs nothing and answers `x`. -/
theorem silent {m : Trace E σ ε α} {x : Except ε α} (quiet : ∀ log s, (m log s).2.2 = [])
    (answer : ∀ log s, (m log s).1 = x) (returns : ∀ a, x = .ok a → ∀ log, pre log → post a log)
    (fails : ∀ e, x = .error e → ∀ log, pre log → failed e log) :
    Guarded guard pre m post failed := by
  refine ⟨fun log s _ => ?_, fun log s a meets ok => ?_, fun log s e meets error => ?_⟩
  · rw [quiet]
    exact trivial
  · rw [quiet, List.append_nil]
    exact returns a ((answer log s).symm.trans ok) log meets
  · rw [quiet, List.append_nil]
    exact fails e ((answer log s).symm.trans error) log meets

theorem pure {a : α} (returns : ∀ log, pre log → post a log) :
    Guarded guard pre (pure a : Trace E σ ε α) post failed :=
  silent (x := .ok a) (fun _ _ => rfl) (fun _ _ => rfl) (fun _ same => by cases same; exact returns)
    nofun

theorem lift {x : Except ε α} (returns : ∀ a, x = .ok a → ∀ log, pre log → post a log)
    (fails : ∀ e, x = .error e → ∀ log, pre log → failed e log) :
    Guarded guard pre (liftM x : Trace E σ ε α) post failed :=
  silent (x := x) (fun _ _ => rfl) (fun _ _ => rfl) returns fails

theorem observe {answer : List E → Except ε α} {event : Except ε α → E}
    (allowed : ∀ log, pre log → guard log (event (answer log)))
    (returns : ∀ log a, pre log → answer log = .ok a → post a (log ++ [event (.ok a)]))
    (fails : ∀ log e, pre log → answer log = .error e → failed e (log ++ [event (.error e)])) :
    Guarded guard pre (observe answer event : Trace E σ ε α) post failed := by
  refine ⟨fun log s meets => ⟨allowed log meets, trivial⟩, fun log s a meets ok => ?_,
    fun log s e meets error => ?_⟩
  · have same : answer log = .ok a := ok
    show post a (log ++ [event (answer log)])
    rw [same]
    exact returns log a meets same
  · have same : answer log = .error e := error
    show failed e (log ++ [event (answer log)])
    rw [same]
    exact fails log e meets same

theorem emit {event : E} {post : Unit → List E → Prop} (allowed : ∀ log, pre log → guard log event)
    (returns : ∀ log, pre log → post () (log ++ [event])) :
    Guarded guard pre (emit event : Trace E σ ε Unit) post failed :=
  ⟨fun log _ meets => ⟨allowed log meets, trivial⟩, fun log _ _ meets _ => returns log meets, nofun⟩

/-- **Sequencing**: the second step starts from the logs the first one leaves. -/
theorem bind {m : Trace E σ ε α} {f : α → Trace E σ ε β} {Q : α → List E → Prop}
    {post : β → List E → Prop} (first : Guarded guard pre m Q failed)
    (second : ∀ a, Guarded guard (Q a) (f a) post failed) :
    Guarded guard pre (m >>= f) post failed := by
  have parts : ∀ log s r s' events, (m >>= f) log s = (r, s', events) → pre log →
      Allowed guard log events ∧ (∀ b, r = .ok b → post b (log ++ events)) ∧
        ∀ e, r = .error e → failed e (log ++ events) := by
    intro log s r s' events run meets
    rcases bind_run.1 run with ⟨e, stopped, rfl⟩ | ⟨a, between, before, after, known, later, rfl⟩
    · have allowed := first.allowed log s meets
      have fails := first.fails log s e meets (by rw [stopped])
      rw [stopped] at allowed fails
      exact ⟨allowed, nofun, fun _ same => by cases same; exact fails⟩
    · have allowed := first.allowed log s meets
      have returned := first.returns log s a meets (by rw [known])
      rw [known] at allowed returned
      have allowed' := (second a).allowed (log ++ before) between returned
      have returns' := fun b => (second a).returns (log ++ before) between b returned
      have fails' := fun e => (second a).fails (log ++ before) between e returned
      rw [later] at allowed' returns' fails'
      rw [← List.append_assoc]
      exact ⟨allowed_append.2 ⟨allowed, allowed'⟩, returns', fails'⟩
  exact ⟨fun log s meets => (parts log s _ _ _ rfl meets).1,
    fun log s b meets => (parts log s _ _ _ rfl meets).2.1 b,
    fun log s e meets => (parts log s _ _ _ rfl meets).2.2 e⟩

theorem mono {pre' : List E → Prop} {post' : α → List E → Prop} {failed' : ε → List E → Prop}
    {m : Trace E σ ε α} (guarded : Guarded guard pre m post failed)
    (stronger : ∀ log, pre' log → pre log) (weaker : ∀ a log, post a log → post' a log)
    (still : ∀ e log, failed e log → failed' e log) :
    Guarded guard pre' m post' failed' :=
  ⟨fun log s meets => guarded.allowed log s (stronger log meets),
    fun log s a meets ok => weaker a _ (guarded.returns log s a (stronger log meets) ok),
    fun log s e meets error => still e _ (guarded.fails log s e (stronger log meets) error)⟩

/-- An attempt turns either end into an answer. -/
theorem attempt {start : τ} {m : Trace E τ ε α} {post : Except ε α × τ → List E → Prop}
    (inner : Guarded guard pre m (fun a log => ∀ last, post (.ok a, last) log)
      fun e log => ∀ last, post (.error e, last) log) :
    Guarded guard pre (attempt start m : Trace E σ ε (Except ε α × τ)) post failed := by
  refine ⟨fun log _ meets => inner.allowed log start meets, fun log _ r meets ok => ?_, nofun⟩
  have same : r = ((m log start).1, (m log start).2.1) := (Except.ok.inj ok).symm
  rw [same]
  cases ended : (m log start).1 with
  | ok a => exact inner.returns log start a meets ended _
  | error e => exact inner.fails log start e meets ended _

/-- What a triple says of one run. -/
theorem run {m : Trace E σ ε α} (guarded : Guarded guard pre m post failed) {log events : List E}
    {s s' : σ} {r : Except ε α} (meets : pre log) (ran : m log s = (r, s', events)) :
    Allowed guard log events ∧ (∀ a, r = .ok a → post a (log ++ events)) ∧
      ∀ e, r = .error e → failed e (log ++ events) := by
  have allowed := guarded.allowed log s meets
  have returns := fun a => guarded.returns log s a meets
  have fails := fun e => guarded.fails log s e meets
  rw [ran] at allowed returns fails
  exact ⟨allowed, returns, fails⟩

end Guarded

end Trace

end InverterGateway.Theory

/-
# Theory.Dialogue — clients of one server, and what they may rely on

A client is a tree of calls: it has its answer, has given up, or asks one
question and goes on with the reply.  Several clients share a server; between
two calls of one client the others, and whoever else writes to the server, may
make any number of steps.

`Terms` is what one client is held to: how the server may answer it, what it may
rely on between its calls, and what each of its own calls keeps.  `Meets` is the
client's proof obligation, computed over its tree call by call, with one rule
for sequencing (`Meets.bind`).  When every client's calls are steps the others
may rely on (`Agreement`), the obligations proved for each client alone hold of
all of them together in every interleaving (`run_meets`), and so does every
relation that all the steps keep (`run_keeps`).

`Only` is for the stretches of a program where the replies do not matter: which
questions it asks and which answers it gives, whatever it is told.
-/
import InverterGateway.Theory.Runs
import Mathlib.Logic.Function.Basic

namespace InverterGateway.Theory

set_option autoImplicit false

universe u

/-- A program that talks to a server. -/
inductive Dialogue (Q : Type u) (R : Q → Type u) (ε α : Type u) : Type u
  | done (a : α)
  | fail (e : ε)
  | ask (q : Q) (next : R q → Dialogue Q R ε α)

namespace Dialogue

variable {Q : Type u} {R : Q → Type u} {ε α β W : Type u}

def bind : Dialogue Q R ε α → (α → Dialogue Q R ε β) → Dialogue Q R ε β
  | done a, f => f a
  | fail e, _ => fail e
  | ask q next, f => ask q fun r => (next r).bind f

instance : Monad (Dialogue Q R ε) where
  pure := done
  bind := bind

/-- One call. -/
def query (q : Q) : Dialogue Q R ε (R q) := ask q done

/-- Give up unless the condition holds. -/
def require (holds : Bool) (e : ε) : Dialogue Q R ε PUnit :=
  if holds then done ⟨⟩ else fail e

/-- A computation that makes no call. -/
def ofExcept : Except ε α → Dialogue Q R ε α
  | .ok a => done a
  | .error e => fail e

theorem bind_eq (d : Dialogue Q R ε α) (f : α → Dialogue Q R ε β) : d >>= f = d.bind f := rfl

end Dialogue

/-- What one client is held to: the replies the server may give it, the steps it
relies on between its calls and the steps its own calls are. -/
structure Terms (Q : Type u) (R : Q → Type u) (W : Type u) where
  serve : W → (q : Q) → R q → W → Prop
  rely : W → W → Prop
  keep : W → W → Prop
  refl : ∀ w, rely w w
  trans : ∀ {u v w}, rely u v → rely v w → rely u w

namespace Dialogue

variable {Q : Type u} {R : Q → Type u} {ε α β W : Type u}

/-- The client keeps its terms from `w` on, and `post` holds of its answer and
of every state the others make of the one it answered in. -/
def Meets (T : Terms Q R W) (post : α → W → Prop) : Dialogue Q R ε α → W → Prop
  | done a, w => ∀ v, T.rely w v → post a v
  | fail _, _ => True
  | ask q next, w =>
      ∀ v, T.rely w v → ∀ r v', T.serve v q r v' → T.keep v v' ∧ (next r).Meets T post v'

namespace Meets

variable {T : Terms Q R W} {post : α → W → Prop}

/-- The others' steps cost a client nothing. -/
theorem stable {d : Dialogue Q R ε α} {w v : W} (meets : d.Meets T post w) (others : T.rely w v) :
    d.Meets T post v := by
  cases d with
  | done a => exact fun x further => meets x (T.trans others further)
  | fail e => exact trivial
  | ask q next => exact fun x further => meets x (T.trans others further)

/-- **Sequencing.**  The rest of the program is entered in any state in which
the first part may have left it. -/
theorem bind {d : Dialogue Q R ε α} {f : α → Dialogue Q R ε β} {final : β → W → Prop} {w : W}
    (first : d.Meets T (fun a v => (f a).Meets T final v) w) : (d.bind f).Meets T final w := by
  induction d generalizing w with
  | done a => exact first w (T.refl w)
  | fail e => exact trivial
  | ask q next ih =>
      intro v others r v' served
      obtain ⟨kept, rest⟩ := first v others r v' served
      exact ⟨kept, ih r rest⟩

theorem mono {weaker : α → W → Prop} {d : Dialogue Q R ε α} {w : W}
    (weaken : ∀ a v, post a v → weaker a v) (meets : d.Meets T post w) : d.Meets T weaker w := by
  induction d generalizing w with
  | done a => exact fun v others => weaken a v (meets v others)
  | fail e => exact trivial
  | ask q next ih =>
      intro v others r v' served
      obtain ⟨kept, rest⟩ := meets v others r v' served
      exact ⟨kept, ih r rest⟩

/-- `bind` for a first part whose postcondition is known under a name. -/
theorem andThen {P : α → W → Prop} {d : Dialogue Q R ε α} {f : α → Dialogue Q R ε β}
    {final : β → W → Prop} {w : W} (first : d.Meets T P w)
    (rest : ∀ a v, P a v → (f a).Meets T final v) :
    (d >>= f).Meets T final w :=
  bind (first.mono rest)

end Meets

/-- Every question the client asks is in `A` and every answer it gives in `P`,
whatever it is told. -/
def Only (A : Q → Prop) (P : α → Prop) : Dialogue Q R ε α → Prop
  | done a => P a
  | fail _ => True
  | ask q next => A q ∧ ∀ r, (next r).Only A P

namespace Only

variable {A : Q → Prop} {P : α → Prop}

theorem bind {d : Dialogue Q R ε α} {f : α → Dialogue Q R ε β} {final : β → Prop}
    (first : d.Only A P) (rest : ∀ a, P a → (f a).Only A final) : (d >>= f).Only A final := by
  rw [bind_eq]
  induction d with
  | done a => exact rest a first
  | fail e => exact trivial
  | ask q next ih => exact ⟨first.1, fun r => ih r (first.2 r)⟩

theorem mono {weaker : α → Prop} {d : Dialogue Q R ε α} (weaken : ∀ a, P a → weaker a)
    (only : d.Only A P) : d.Only A weaker := by
  induction d with
  | done a => exact weaken a only
  | fail e => exact trivial
  | ask q next ih => exact ⟨only.1, fun r => ih r (only.2 r)⟩

theorem asks {B : Q → Prop} {d : Dialogue Q R ε α} (widen : ∀ q, A q → B q) (only : d.Only A P) :
    d.Only B P := by
  induction d with
  | done a => exact only
  | fail e => exact trivial
  | ask q next ih => exact ⟨widen q only.1, fun r => ih r (only.2 r)⟩

theorem ofExcept {x : Except ε α} (passed : ∀ a, x = .ok a → P a) :
    (Dialogue.ofExcept x : Dialogue Q R ε α).Only A P := by
  cases x with
  | ok a => exact passed a rfl
  | error e => exact trivial

/-- **Calls that keep the terms and are steps to rely on** leave the client in a
state it relies on, with an answer of the kind it gives. -/
theorem meets {T : Terms Q R W} {d : Dialogue Q R ε α} {w : W} (only : d.Only A P)
    (quiet : ∀ v q r v', A q → T.serve v q r v' → T.keep v v' ∧ T.rely v v') :
    d.Meets T (fun a v => P a ∧ T.rely w v) w := by
  have general : ∀ (d : Dialogue Q R ε α) (v : W), d.Only A P → T.rely w v →
      d.Meets T (fun a v => P a ∧ T.rely w v) v := by
    intro d
    induction d with
    | done a => exact fun v only since x others => ⟨only, T.trans since others⟩
    | fail e => exact fun _ _ _ => trivial
    | ask q next ih =>
        intro v only since x others r x' served
        obtain ⟨kept, relied⟩ := quiet x q r x' only.1 served
        exact ⟨kept, ih r x' (only.2 r) (T.trans (T.trans since others) relied)⟩
  exact general d w only (T.refl w)

end Only

/-! ## Several clients -/

section Conversation

variable {ι : Type} [DecidableEq ι] {answer : ι → Type u}

/-- The clients in any interleaving of their calls with the steps of others.  A
step is labelled by the client that makes it; `none` is someone else. -/
def conversation (serve : ι → W → (q : Q) → R q → W → Prop) (outside : W → W → Prop)
    (start : W → Prop) (jobs : (i : ι) → Dialogue Q R ε (answer i)) :
    Machine (W × ((i : ι) → Dialogue Q R ε (answer i))) (Option ι) where
  start s := start s.1 ∧ s.2 = jobs
  step s l t := match l with
    | none => outside s.1 t.1 ∧ t.2 = s.2
    | some i => ∃ q next r, s.2 i = .ask q next ∧ serve i s.1 q r t.1 ∧
        t.2 = Function.update s.2 i (next r)

/-- What each client keeps, and what the outside does, is what every other
client relies on. -/
structure Agreement (terms : ι → Terms Q R W) (outside : W → W → Prop) : Prop where
  clients : ∀ i j, i ≠ j → ∀ v w, (terms i).keep v w → (terms j).rely v w
  others : ∀ j v w, outside v w → (terms j).rely v w

variable {terms : ι → Terms Q R W} {outside : W → W → Prop} {start : W → Prop}
  {jobs : (i : ι) → Dialogue Q R ε (answer i)} {post : (i : ι) → answer i → W → Prop}
  {ok : W × ((i : ι) → Dialogue Q R ε (answer i)) → Option ι → Prop}
  {s t : W × ((i : ι) → Dialogue Q R ε (answer i))}

/-- One step keeps every client's obligation, and is one the terms allow. -/
theorem step_meets (agree : Agreement terms outside) {l : Option ι}
    (meets : ∀ i, (s.2 i).Meets (terms i) (post i) s.1)
    (step : (conversation (fun i => (terms i).serve) outside start jobs).step s l t) :
    (∀ i, (t.2 i).Meets (terms i) (post i) t.1) ∧
      (outside s.1 t.1 ∨ ∃ i, (terms i).keep s.1 t.1) := by
  cases l with
  | none =>
      obtain ⟨stepped, same⟩ := step
      rw [same]
      exact ⟨fun i => (meets i).stable (agree.others i _ _ stepped), .inl stepped⟩
  | some i =>
      obtain ⟨q, next, r, asking, served, same⟩ := step
      have asked := meets i
      rw [asking] at asked
      obtain ⟨kept, rest⟩ := asked s.1 ((terms i).refl s.1) r t.1 served
      refine ⟨fun j => ?_, .inr ⟨i, kept⟩⟩
      rw [same]
      rcases eq_or_ne j i with rfl | other
      · rw [Function.update_self]
        exact rest
      · rw [Function.update_of_ne other]
        exact (meets j).stable (agree.clients i j other.symm _ _ kept)

/-- **Every client meets its terms in every interleaving.** -/
theorem run_meets (agree : Agreement terms outside)
    (meets : ∀ i, (s.2 i).Meets (terms i) (post i) s.1)
    (run : Relation.ReflTransGen
      ((conversation (fun i => (terms i).serve) outside start jobs).Under ok) s t) :
    ∀ i, (t.2 i).Meets (terms i) (post i) t.1 := by
  induction run with
  | refl => exact meets
  | tail _ last ih =>
      obtain ⟨l, _, step⟩ := last
      exact (step_meets agree ih step).1

theorem reached_meets (agree : Agreement terms outside)
    (initially : ∀ w, start w → ∀ i, (jobs i).Meets (terms i) (post i) w)
    (reached : (conversation (fun i => (terms i).serve) outside start jobs).Reaches ok s) :
    ∀ i, (s.2 i).Meets (terms i) (post i) s.1 := by
  obtain ⟨first, ⟨started, same⟩, run⟩ := reached
  refine run_meets agree (fun i => ?_) run
  rw [same]
  exact initially first.1 started i

/-- **A preorder that every step keeps relates the states of a run.** -/
theorem run_keeps {G : W → W → Prop} (refl : ∀ w, G w w)
    (trans : ∀ {u v w}, G u v → G v w → G u w) (agree : Agreement terms outside)
    (byClients : ∀ i v w, (terms i).keep v w → G v w) (byOthers : ∀ v w, outside v w → G v w)
    (meets : ∀ i, (s.2 i).Meets (terms i) (post i) s.1)
    (run : Relation.ReflTransGen
      ((conversation (fun i => (terms i).serve) outside start jobs).Under ok) s t) :
    G s.1 t.1 := by
  induction run with
  | refl => exact refl s.1
  | tail sofar last ih =>
      obtain ⟨l, _, step⟩ := last
      refine trans ih ?_
      rcases (step_meets agree (run_meets agree meets sofar) step).2 with stepped | ⟨i, kept⟩
      · exact byOthers _ _ stepped
      · exact byClients i _ _ kept

/-- A client left alone with a server that answers each call in one way. -/
def alone (answers : W → (q : Q) → R q × W) : Dialogue Q R ε α → W → Except ε α × W
  | done a, w => (.ok a, w)
  | fail e, w => (.error e, w)
  | ask q next, w => (next (answers w q).1).alone answers (answers w q).2

/-- What a client reaches when it is left alone, the conversation reaches. -/
theorem run_alone {serve : ι → W → (q : Q) → R q → W → Prop} {i : ι}
    {answers : W → (q : Q) → R q × W}
    (served : ∀ w q, serve i w q (answers w q).1 (answers w q).2)
    (s : W × ((i : ι) → Dialogue Q R ε (answer i))) :
    ∃ t, Relation.ReflTransGen ((conversation serve outside start jobs).Under Machine.Any) s t ∧
      t.1 = ((s.2 i).alone answers s.1).2 ∧ (∀ j, j ≠ i → t.2 j = s.2 j) ∧
      ∀ a, ((s.2 i).alone answers s.1).1 = .ok a → t.2 i = .done a := by
  obtain ⟨w, clients⟩ := s
  generalize shape : clients i = d
  induction d generalizing w clients with
  | done a =>
      refine ⟨(w, clients), .refl, ?_, fun _ _ => rfl, ?_⟩
      · simp only [shape, alone]
      · simp only [shape, alone, Except.ok.injEq]
        rintro _ rfl
        rfl
  | fail e =>
      refine ⟨(w, clients), .refl, ?_, fun _ _ => rfl, ?_⟩
      · simp only [shape, alone]
      · simp only [shape, alone]
        rintro _ ⟨⟩
  | ask q next ih =>
      obtain ⟨t, run, state, others, finished⟩ := ih (answers w q).1 (answers w q).2
        (Function.update clients i (next (answers w q).1)) (Function.update_self ..)
      simp only [Function.update_self] at state finished
      refine ⟨t, .head ⟨some i, trivial, q, next, _, shape, served w q, rfl⟩ run, ?_, ?_, ?_⟩
      · simp only [shape, alone]
        exact state
      · intro j other
        rw [others j other]
        exact Function.update_of_ne other ..
      · simp only [shape, alone]
        exact finished

end Conversation

end Dialogue

end InverterGateway.Theory

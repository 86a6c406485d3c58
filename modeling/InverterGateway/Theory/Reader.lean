/-
# Theory.Reader — reading values off a sequence

A reader takes a value off the front of a sequence or refuses.  Three judgements
say what it does, each with a rule for every way of putting readers together:

* `Reads p w a`: from any input that starts with `w` the reader takes `w` and
  returns `a`.  This is what a writer's output is for.
* `Yields p P`: a value that the reader returns, and what it took for it, are
  related by `P`.  This is what may be assumed of a value that was accepted.
* `Refuses p P`: the errors that the reader gives.

`many` reads until nothing is left.
-/
import Mathlib

namespace InverterGateway.Theory

set_option autoImplicit false

universe u

/-- Take a value off the front of a sequence, or refuse. -/
abbrev Reader (β ε : Type u) : Type u → Type u := StateT (List β) (Except ε)

namespace Reader

variable {β ε α γ : Type u}

/-! ## Putting readers together -/

theorem bind_ok {p : Reader β ε α} {f : α → Reader β ε γ} {b rest : List β} {c : γ} :
    (p >>= f) b = .ok (c, rest) ↔ ∃ a mid, p b = .ok (a, mid) ∧ f a mid = .ok (c, rest) := by
  show ((p b) >>= fun x => f x.1 x.2) = _ ↔ _
  cases p b with
  | error e =>
      constructor
      · rintro ⟨⟩
      · rintro ⟨_, _, ⟨⟩, _⟩
  | ok x =>
      constructor
      · exact fun h => ⟨x.1, x.2, rfl, h⟩
      · rintro ⟨_, _, ⟨⟩, h⟩
        exact h

theorem bind_error {p : Reader β ε α} {f : α → Reader β ε γ} {b : List β} {e : ε} :
    (p >>= f) b = .error e ↔
      p b = .error e ∨ ∃ a mid, p b = .ok (a, mid) ∧ f a mid = .error e := by
  show ((p b) >>= fun x => f x.1 x.2) = _ ↔ _
  cases p b with
  | error e' =>
      constructor
      · rintro ⟨⟩
        exact .inl rfl
      · rintro (⟨⟨⟩⟩ | ⟨_, _, ⟨⟩, _⟩)
        rfl
  | ok x =>
      constructor
      · exact fun h => .inr ⟨x.1, x.2, rfl, h⟩
      · rintro (h | ⟨_, _, ⟨⟩, h⟩)
        · cases h
        · exact h

/-! ## What a reader reads -/

/-- From any input that starts with `w` the reader takes `w` and returns `a`. -/
def Reads (p : Reader β ε α) (w : List β) (a : α) : Prop :=
  ∀ rest, p (w ++ rest) = .ok (a, rest)

/-- From exactly `w` the reader returns `a` and leaves nothing. -/
def Ends (p : Reader β ε α) (w : List β) (a : α) : Prop := p w = .ok (a, [])

theorem Reads.pure (a : α) : Reads (pure a : Reader β ε α) [] a := fun _ => rfl

theorem Reads.bind {p : Reader β ε α} {f : α → Reader β ε γ} {w v : List β} {a : α} {c : γ}
    (first : Reads p w a) (second : Reads (f a) v c) : Reads (p >>= f) (w ++ v) c := by
  intro rest
  rw [List.append_assoc]
  exact bind_ok.2 ⟨a, v ++ rest, first (v ++ rest), second rest⟩

/-- A step that takes nothing. -/
theorem Reads.map {p : Reader β ε α} {f : α → Reader β ε γ} {w : List β} {a : α} {c : γ}
    (first : Reads p w a) (second : Reads (f a) [] c) : Reads (p >>= f) w c := by
  have both := first.bind second
  rwa [List.append_nil] at both

theorem Reads.ends {p : Reader β ε α} {w : List β} {a : α} (reads : Reads p w a) : Ends p w a := by
  have whole := reads []
  rwa [List.append_nil] at whole

theorem Reads.andEnds {p : Reader β ε α} {f : α → Reader β ε γ} {w v : List β} {a : α} {c : γ}
    (first : Reads p w a) (second : Ends (f a) v c) : Ends (p >>= f) (w ++ v) c :=
  bind_ok.2 ⟨a, v, first v, second⟩

theorem Ends.bind {p : Reader β ε α} {f : α → Reader β ε γ} {w : List β} {a : α} {c : γ}
    (first : Ends p w a) (second : Ends (f a) [] c) : Ends (p >>= f) w c :=
  bind_ok.2 ⟨a, [], first, second⟩

/-! ## What an accepted value is -/

/-- What the reader returns, and what it takes for it, are related by `P`. -/
def Yields (p : Reader β ε α) (P : α → List β → Prop) : Prop :=
  ∀ b a rest, p b = .ok (a, rest) → ∃ w, b = w ++ rest ∧ P a w

theorem Yields.pure {a : α} {P : α → List β → Prop} (holds : P a []) :
    Yields (pure a : Reader β ε α) P := by
  rintro b _ _ ⟨⟩
  exact ⟨[], rfl, holds⟩

theorem Yields.bind {p : Reader β ε α} {f : α → Reader β ε γ} {P : α → List β → Prop}
    {Q : γ → List β → Prop} (first : Yields p P)
    (second : ∀ a w, P a w → Yields (f a) fun c v => Q c (w ++ v)) : Yields (p >>= f) Q := by
  intro b c rest ran
  obtain ⟨a, mid, took, went⟩ := bind_ok.1 ran
  obtain ⟨w, rfl, held⟩ := first b a mid took
  obtain ⟨v, rfl, final⟩ := second a w held mid c rest went
  exact ⟨w ++ v, (List.append_assoc w v rest).symm, final⟩

theorem Yields.mono {p : Reader β ε α} {P Q : α → List β → Prop} (yields : Yields p P)
    (weaken : ∀ a w, P a w → Q a w) : Yields p Q := by
  intro b a rest ran
  obtain ⟨w, whole, held⟩ := yields b a rest ran
  exact ⟨w, whole, weaken a w held⟩

theorem Yields.fail {e : ε} {P : α → List β → Prop} : Yields (throw e : Reader β ε α) P := by
  rintro b a rest ⟨⟩

/-! ## What a reader refuses with -/

def Refuses (p : Reader β ε α) (P : ε → Prop) : Prop := ∀ b e, p b = .error e → P e

theorem Refuses.pure {a : α} {P : ε → Prop} : Refuses (pure a : Reader β ε α) P := by
  rintro b e ⟨⟩

theorem Refuses.fail {e : ε} {P : ε → Prop} (holds : P e) :
    Refuses (throw e : Reader β ε α) P := by
  rintro b _ ⟨⟩
  exact holds

theorem Refuses.bind {p : Reader β ε α} {f : α → Reader β ε γ} {P : ε → Prop}
    (first : Refuses p P) (second : ∀ a, Refuses (f a) P) : Refuses (p >>= f) P := by
  intro b e ran
  rcases bind_error.1 ran with failed | ⟨a, mid, -, failed⟩
  · exact first b e failed
  · exact second a mid e failed

/-! ## Reading until nothing is left -/

/-- `many` with a bound on the number of values. -/
def manyUpTo (p : Reader β ε α) : Nat → Reader β ε (List α)
  | 0 => pure []
  | n + 1 => fun b =>
      if b.isEmpty then .ok ([], b)
      else (do
        let a ← p
        let others ← manyUpTo p n
        return a :: others : Reader β ε (List α)) b

theorem manyUpTo_succ (p : Reader β ε α) (n : Nat) (b : List β) :
    manyUpTo p (n + 1) b =
      if b.isEmpty then .ok ([], b)
      else (p >>= fun a => manyUpTo p n >>= fun others => pure (a :: others)) b := rfl

/-- Read values until nothing is left; each must take something. -/
def many (p : Reader β ε α) : Reader β ε (List α) := fun b => manyUpTo p b.length b

/-- **A sequence of values that each take something is read back as it is.** -/
theorem many_ends {p : Reader β ε α} {write : α → List β} {values : List α}
    (reads : ∀ a ∈ values, Reads p (write a) a) (takes : ∀ a ∈ values, write a ≠ []) :
    Ends (many p) (values.flatMap write) values := by
  have general : ∀ (values : List α) (n : Nat), (∀ a ∈ values, Reads p (write a) a) →
      (∀ a ∈ values, write a ≠ []) → (values.flatMap write).length ≤ n →
      manyUpTo p n (values.flatMap write) = .ok (values, []) := by
    intro values
    induction values with
    | nil =>
        intro n _ _ _
        cases n <;> rfl
    | cons a others ih =>
        intro n reads takes bound
        rw [List.forall_mem_cons] at reads takes
        have some := List.length_pos_iff.2 takes.1
        rw [List.flatMap_cons, List.length_append] at bound
        cases n with
        | zero => omega
        | succ n =>
            have rest := ih n reads.2 takes.2 (by omega)
            have full : ¬ (List.flatMap write (a :: others)).isEmpty = true := by
              rw [List.isEmpty_iff, List.flatMap_cons, List.append_eq_nil_iff]
              exact fun none => takes.1 none.1
            rw [manyUpTo_succ, if_neg full, List.flatMap_cons]
            exact bind_ok.2 ⟨a, _, reads.1 _, bind_ok.2 ⟨others, [], rest, rfl⟩⟩
  exact general values _ reads takes (Nat.le_refl _)

/-- **Each value that was read has the properties of one reading**, and together
they are no longer than what was taken for them. -/
theorem many_yields {p : Reader β ε α} {size : α → Nat} {P : α → Prop}
    (one : Yields p fun a w => size a ≤ w.length ∧ P a) :
    Yields (many p) fun values w => (values.map size).sum ≤ w.length ∧ ∀ a ∈ values, P a := by
  have general : ∀ n, Yields (manyUpTo p n) fun values w =>
      (values.map size).sum ≤ w.length ∧ ∀ a ∈ values, P a := by
    intro n
    induction n with
    | zero => exact .pure ⟨Nat.le_refl _, fun _ found => absurd found List.not_mem_nil⟩
    | succ n ih =>
        have step : Yields (p >>= fun a => manyUpTo p n >>= fun others => pure (a :: others))
            fun values w => (values.map size).sum ≤ w.length ∧ ∀ a ∈ values, P a := by
          refine one.bind fun a w held => ih.bind fun others v rest => .pure ?_
          rw [List.append_nil, List.map_cons, List.sum_cons, List.length_append,
            List.forall_mem_cons]
          exact ⟨Nat.add_le_add held.1 rest.1, held.2, rest.2⟩
        intro b values rest ran
        rw [manyUpTo_succ] at ran
        split at ran
        · cases ran
          exact ⟨[], rfl, Nat.le_refl _, fun _ found => absurd found List.not_mem_nil⟩
        · exact step b values rest ran
  exact fun b values rest ran => general b.length b values rest ran

theorem many_ne_nil {p : Reader β ε α} {b rest : List β} {values : List α}
    (ran : many p b = .ok (values, rest)) (some : b.isEmpty = false) : values ≠ [] := by
  rw [many] at ran
  cases b with
  | nil => cases some
  | cons x b =>
      rw [List.length_cons, manyUpTo_succ, if_neg (Bool.eq_false_iff.1 some)] at ran
      obtain ⟨a, _, -, more⟩ := bind_ok.1 ran
      obtain ⟨others, _, -, done⟩ := bind_ok.1 more
      cases done
      exact List.cons_ne_nil _ _

theorem many_refuses {p : Reader β ε α} {P : ε → Prop} (one : Refuses p P) :
    Refuses (many p) P := by
  have general : ∀ n, Refuses (manyUpTo p n) P := by
    intro n
    induction n with
    | zero => exact .pure
    | succ n ih =>
        intro b e ran
        rw [manyUpTo_succ] at ran
        split at ran
        · cases ran
        · exact (one.bind fun _ => ih.bind fun _ => .pure) b e ran
  exact fun b e ran => general b.length b e ran

end Reader

end InverterGateway.Theory

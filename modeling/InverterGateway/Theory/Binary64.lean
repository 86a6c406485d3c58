/-
# Theory.Binary64 — the double-precision operations a program uses, as parameters

Arithmetic, comparison and decimal formatting of `f64` are operations of an
arbitrary carrier.  `Lawful` collects the facts about them that a proof may
need: the sign of sums, quotients and absolute values, and the digit shape of
the two decimal formats.  Nothing here fixes rounding.
-/
import InverterGateway.Theory.Text

namespace InverterGateway.Theory

set_option autoImplicit false

/-- The operations on double-precision numbers. -/
class Binary64 (F : Type) where
  /-- An unsigned integer converted, and the whole-valued literals. -/
  ofNat : Nat → F
  ofInt : Int → F
  add : F → F → F
  div : F → F → F
  abs : F → F
  isFinite : F → Bool
  eq : F → F → Bool
  lt : F → F → Bool
  le : F → F → Bool
  totalCmp : F → F → Ordering
  /-- Fixed-point text with the given number of fraction digits. -/
  fixed : F → Nat → String
  /-- Scientific text with the given number of fraction digits. -/
  scientific : F → Nat → String
  /-- The shortest text that reads back as the number. -/
  shortest : F → String

namespace Binary64

open Text (Digits)

/-- What follows the whole digits: nothing, or a point and exactly `digits` digits. -/
def FractionText (digits : Nat) (s : String) : Prop :=
  if digits = 0 then s = ""
  else ∃ fraction, s = "." ++ fraction ∧ Digits fraction ∧ fraction.toList.length = digits

/-- Fixed-point text of a number in `[0, 10^9)`. -/
def FixedText (digits : Nat) (s : String) : Prop :=
  ∃ whole fraction, s = whole ++ fraction ∧ Digits whole ∧ whole.toList.length ≤ 10 ∧
    FractionText digits fraction

/-- Scientific text of a finite number of at least `10^9`. -/
def ScientificText (digits : Nat) (s : String) : Prop :=
  ∃ lead fraction exponent, s = lead ++ fraction ++ "e" ++ exponent ∧ Digits lead ∧
    lead.toList.length = 1 ∧ FractionText digits fraction ∧ Digits exponent ∧
    exponent.toList.length ≤ 3

/-- A positive number, or the literal zero (so not the negative one). -/
def Unsigned {F : Type} [Binary64 F] (x : F) : Prop :=
  x = ofNat 0 ∨ lt (ofNat 0) x = true

/-- The facts about the operations that proofs rely on. -/
class Lawful (F : Type) [Binary64 F] : Prop where
  isFinite_zero : isFinite (ofNat 0 : F) = true
  le_zero : le (ofNat 0 : F) (ofNat 0) = true
  pos_of_le : ∀ x : F, le (ofNat 0) x = true → eq x (ofNat 0) = false → lt (ofNat 0) x = true
  add_nonneg : ∀ x y : F, le (ofNat 0) x = true → le (ofNat 0) y = true →
    le (ofNat 0) (add x y) = true
  div_thousand : ∀ x : F, isFinite x = true → le (ofNat 1000) x = true →
    isFinite (div x (ofNat 1000)) = true ∧ lt (ofNat 0) (div x (ofNat 1000)) = true
  abs_pos : ∀ x : F, isFinite x = true → eq x (ofNat 0) = false →
    isFinite (abs x) = true ∧ lt (ofNat 0) (abs x) = true
  fixed_text : ∀ (x : F) (digits : Nat), isFinite x = true → Unsigned x →
    le (ofNat 1000000000) x = false → FixedText digits (fixed x digits)
  scientific_text : ∀ (x : F) (digits : Nat), isFinite x = true →
    le (ofNat 1000000000) x = true → ScientificText digits (scientific x digits)

/-- A finite number added to zero is finite and equal to itself. -/
class AddZero (F : Type) [Binary64 F] : Prop where
  isFinite_zero_add : ∀ x : F, isFinite x = true → isFinite (add (ofNat 0) x) = true
  zero_add_eq : ∀ x : F, isFinite x = true → eq (add (ofNat 0) x) x = true

/-- How comparisons see zero: equal numbers compare alike, and only its sign is
told apart from a finite number by the total order. -/
class Ordered (F : Type) [Binary64 F] : Prop where
  le_congr : ∀ x y z : F, eq x y = true → le z x = le z y
  thousand_zero : le (ofNat 1000 : F) (ofNat 0) = false
  ne_of_pos : ∀ x : F, lt (ofNat 0) x = true → eq x (ofNat 0) = false
  totalCmp_pos : ∀ x : F, isFinite x = true → eq x (ofNat 0) = false →
    (totalCmp x (ofNat 0) = .gt ↔ lt (ofNat 0) x = true)

/-- A number equals at most one of the small whole literals. -/
class Literals (F : Type) [Binary64 F] : Prop where
  literal_unique : ∀ (x : F) (m n : Nat), m < 2 ^ 53 → n < 2 ^ 53 → eq x (ofNat m) = true →
    eq x (ofNat n) = true → m = n

/-- Numbers of at most one hundred: adding one to zero keeps it there, and its
fixed-point text has at most three whole digits. -/
class Hundred (F : Type) [Binary64 F] : Prop where
  zero_le_hundred : le (ofNat 0 : F) (ofNat 100) = true
  zero_add_le : ∀ x : F, isFinite x = true → le x (ofNat 100) = true →
    le (add (ofNat 0) x) (ofNat 100) = true
  hundred_small : ∀ x : F, le x (ofNat 100) = true → le (ofNat 1000000000) x = false
  fixed_hundred : ∀ (x : F) (digits : Nat), isFinite x = true → Unsigned x →
    le x (ofNat 100) = true → ∃ whole fraction, fixed x digits = whole ++ fraction ∧
      Digits whole ∧ whole.toList.length ≤ 3 ∧ FractionText digits fraction

/-- A finite number that is not negative, whichever zero it is. -/
def Presentable {F : Type} [Binary64 F] (x : F) : Prop :=
  isFinite x = true ∧ (eq x (ofNat 0) = true ∨ lt (ofNat 0) x = true)

/-- A zero of either sign replaced by the literal one. -/
def normalizeZero {F : Type} [Binary64 F] (x : F) : F :=
  if eq x (ofNat 0) then ofNat 0 else x

section Laws

variable {F : Type} [Binary64 F] [Lawful F]

theorem Presentable.of_le {x : F} (finite : isFinite x = true) (nonneg : le (ofNat 0) x = true) :
    Presentable x := by
  refine ⟨finite, ?_⟩
  cases zero : eq x (ofNat 0) with
  | true => exact Or.inl rfl
  | false => exact Or.inr (Lawful.pos_of_le x nonneg zero)

theorem Presentable.normalizeZero {x : F} (present : Presentable x) :
    isFinite (normalizeZero x) = true ∧ Unsigned (normalizeZero x) := by
  unfold Binary64.normalizeZero
  split
  · exact ⟨Lawful.isFinite_zero, Or.inl rfl⟩
  · rename_i notZero
    exact ⟨present.1, Or.inr (present.2.resolve_left notZero)⟩

end Laws

/-! ## Whole numbers

The integers of up to 200 digits satisfy the laws, with truncating division and
scientific notation.  They are doubles that hold whole values only. -/

section Whole

/-- The digits after the point of a scientific text. -/
def wholeFraction (ds : List Char) (digits : Nat) : String :=
  if digits = 0 then ""
  else "." ++ String.ofList ((ds.drop 1 ++ List.replicate digits '0').take digits)

instance : Binary64 Int where
  ofNat n := n
  ofInt i := i
  add x y := x + y
  div x y := x.tdiv y
  abs x := x.natAbs
  isFinite x := decide (x.natAbs < 10 ^ 200)
  eq x y := decide (x = y)
  lt x y := decide (x < y)
  le x y := decide (x ≤ y)
  totalCmp x y := compare x y
  fixed x digits :=
    if 0 ≤ x then toString x.natAbs ++ wholeFraction [] digits
    else "-" ++ (toString x.natAbs ++ wholeFraction [] digits)
  scientific x digits :=
    String.ofList ((Nat.toDigits 10 x.natAbs).take 1) ++
      wholeFraction (Nat.toDigits 10 x.natAbs) digits ++ "e" ++
      toString ((Nat.toDigits 10 x.natAbs).length - 1)
  shortest x := toString x ++ ".0"

theorem wholeFraction_text (ds : List Char) (digits : Nat)
    (all : ∀ c ∈ ds, Text.isDigit c = true) : FractionText digits (wholeFraction ds digits) := by
  unfold FractionText wholeFraction
  split
  · rfl
  · rename_i some
    refine ⟨_, rfl, ⟨?_, fun c found => ?_⟩, ?_⟩
    · rw [String.toList_ofList]
      intro none
      have length := congrArg List.length none
      simp only [List.length_take, List.length_append, List.length_replicate, List.length_nil] at length
      omega
    · rw [String.toList_ofList] at found
      have member := List.mem_of_mem_take found
      rw [List.mem_append] at member
      rcases member with digit | zero
      · exact all c (List.mem_of_mem_drop digit)
      · rw [List.eq_of_mem_replicate zero]
        decide
    · simp only [String.toList_ofList, List.length_take, List.length_append, List.length_replicate]
      omega

theorem length_toString_le {n k : Nat} (small : n < 10 ^ k) (some : 0 < k) :
    (toString n).toList.length ≤ k := by
  rw [Nat.toString_eq_repr, Nat.toList_repr]
  exact (Nat.length_toDigits_le_iff (by omega) some).2 small

instance : Lawful Int where
  isFinite_zero := by
    show decide ((0 : Int).natAbs < 10 ^ 200) = true
    rw [decide_eq_true_eq]
    exact Nat.pow_pos (by omega)
  le_zero := by decide
  pos_of_le x := by
    intro nonneg notZero
    have h₁ : (0 : Int) ≤ x := of_decide_eq_true nonneg
    have h₂ : ¬ x = 0 := of_decide_eq_false notZero
    exact decide_eq_true (show (0 : Int) < x by omega)
  add_nonneg x y := by
    intro left right
    have h₁ : (0 : Int) ≤ x := of_decide_eq_true left
    have h₂ : (0 : Int) ≤ y := of_decide_eq_true right
    exact decide_eq_true (show (0 : Int) ≤ x + y by omega)
  div_thousand x := by
    intro finite large
    have h₁ : x.natAbs < 10 ^ 200 := of_decide_eq_true finite
    have h₂ : (1000 : Int) ≤ x := of_decide_eq_true large
    have quotient : x.tdiv 1000 = x / 1000 := Int.tdiv_eq_ediv_of_nonneg (by omega)
    refine ⟨decide_eq_true (show (x.tdiv 1000).natAbs < 10 ^ 200 from ?_),
      decide_eq_true (show (0 : Int) < x.tdiv 1000 from ?_)⟩
    · refine lt_of_le_of_lt ?_ h₁
      rw [quotient]
      omega
    · rw [quotient]
      omega
  abs_pos x := by
    intro finite notZero
    have h₁ : x.natAbs < 10 ^ 200 := of_decide_eq_true finite
    have h₂ : ¬ x = 0 := of_decide_eq_false notZero
    exact ⟨decide_eq_true (show ((x.natAbs : Int)).natAbs < 10 ^ 200 by rwa [Int.natAbs_natCast]),
      decide_eq_true (show (0 : Int) < (x.natAbs : Int) by omega)⟩
  fixed_text x digits := by
    intro _ unsigned small
    have h₂ : ¬ (1000000000 : Int) ≤ x := of_decide_eq_false small
    have nonneg : 0 ≤ x := by
      rcases unsigned with zero | pos
      · have h₁ : x = 0 := zero
        omega
      · have h₁ : (0 : Int) < x := of_decide_eq_true pos
        omega
    refine ⟨toString x.natAbs, wholeFraction [] digits, ?_, Text.digits_toString _, ?_,
      wholeFraction_text [] digits (by simp)⟩
    · show (if 0 ≤ x then _ else _) = _
      rw [if_pos nonneg]
    · exact length_toString_le (by omega) (by omega)
  scientific_text x digits := by
    intro finite _
    have h₁ : x.natAbs < 10 ^ 200 := of_decide_eq_true finite
    have all : ∀ c ∈ Nat.toDigits 10 x.natAbs, Text.isDigit c = true := fun c found =>
      Text.isDigit_of_mem_toDigits found
    have some : Nat.toDigits 10 x.natAbs ≠ [] := Nat.toDigits_ne_nil
    have long : (Nat.toDigits 10 x.natAbs).length ≤ 200 :=
      (Nat.length_toDigits_le_iff (by omega) (by omega)).2 h₁
    refine ⟨String.ofList ((Nat.toDigits 10 x.natAbs).take 1), _, _, rfl, ⟨?_, ?_⟩, ?_,
      wholeFraction_text _ digits all, Text.digits_toString _, ?_⟩
    · rw [String.toList_ofList]
      intro none
      rw [List.take_eq_nil_iff] at none
      rcases none with bad | bad
      · omega
      · exact some bad
    · intro c found
      rw [String.toList_ofList] at found
      exact all c (List.mem_of_mem_take found)
    · rw [String.toList_ofList, List.length_take]
      have pos := List.length_pos_iff.2 some
      omega
    · exact length_toString_le (by omega) (by omega)

instance : AddZero Int where
  isFinite_zero_add x finite := by
    show decide ((0 + x).natAbs < 10 ^ 200) = true
    rw [Int.zero_add]
    exact finite
  zero_add_eq x _ := by
    show decide (0 + x = x) = true
    rw [Int.zero_add, decide_eq_true rfl]

instance : Literals Int where
  literal_unique x m n _ _ left right := by
    have h₁ : x = (m : Int) := of_decide_eq_true left
    have h₂ : x = (n : Int) := of_decide_eq_true right
    omega

instance : Hundred Int where
  zero_le_hundred := by decide
  zero_add_le x _ most := by
    show decide (0 + x ≤ 100) = true
    rw [Int.zero_add]
    exact most
  hundred_small x most := by
    have h₁ : x ≤ 100 := of_decide_eq_true most
    exact decide_eq_false (show ¬ (1000000000 : Int) ≤ x by omega)
  fixed_hundred x digits _ unsigned most := by
    have h₁ : x ≤ 100 := of_decide_eq_true most
    have nonneg : 0 ≤ x := by
      rcases unsigned with zero | pos
      · have h₂ : x = 0 := zero
        omega
      · have h₂ : (0 : Int) < x := of_decide_eq_true pos
        omega
    refine ⟨toString x.natAbs, wholeFraction [] digits, ?_, Text.digits_toString _, ?_,
      wholeFraction_text [] digits (by simp)⟩
    · show (if 0 ≤ x then _ else _) = _
      rw [if_pos nonneg]
    · exact length_toString_le (by omega) (by omega)

instance : Ordered Int where
  le_congr x y z same := by
    have equal : x = y := of_decide_eq_true same
    rw [equal]
  thousand_zero := by decide
  ne_of_pos x pos := by
    have above : (0 : Int) < x := of_decide_eq_true pos
    exact decide_eq_false (show ¬ x = 0 by omega)
  totalCmp_pos x _ _ := by
    show compare x 0 = .gt ↔ decide (0 < x) = true
    rw [compare_gt_iff_gt, decide_eq_true_eq]

end Whole

end Binary64

end InverterGateway.Theory

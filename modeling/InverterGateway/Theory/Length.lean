/-
# Theory.Length — texts of bounded length

`Fits n s` bounds the characters of a text, and its rules follow the ways a text
is put together: literals, appending, joining, choosing from a table, trimming.
-/
import InverterGateway.Theory.Binary64

namespace InverterGateway.Theory.Text

set_option autoImplicit false

/-- A text of at most `n` characters. -/
def Fits (n : Nat) (s : String) : Prop := s.length ≤ n

theorem fits_iff {n : Nat} {s : String} : Fits n s ↔ s.toList.length ≤ n := by
  rw [Fits, String.length_toList]

theorem Fits.mono {m n : Nat} {s : String} (fits : Fits m s) (more : m ≤ n) : Fits n s :=
  Nat.le_trans fits more

/-- A literal fits its characters. -/
theorem fits_literal {n : Nat} {s : String} {cs : List Char} (literal : s = String.ofList cs)
    (short : cs.length.ble n = true) : Fits n s := by
  rw [literal, Fits, String.length_ofList]
  exact Nat.le_of_ble_eq_true short

theorem Fits.append {m n : Nat} {s t : String} (left : Fits m s) (right : Fits n t) :
    Fits (m + n) (s ++ t) := by
  have whole := String.length_append s t
  unfold Fits at left right ⊢
  omega

theorem fits_ite {p : Prop} [Decidable p] {m n : Nat} {s t : String} (left : Fits m s)
    (right : Fits n t) : Fits (max m n) (if p then s else t) := by
  split
  · exact left.mono (Nat.le_max_left m n)
  · exact right.mono (Nat.le_max_right m n)

theorem fits_three {n : Nat} {a b c : String} (first : Fits n a) (second : Fits n b)
    (third : Fits n c) : ∀ s ∈ [a, b, c], Fits n s := by
  simp only [List.forall_mem_cons, List.not_mem_nil, false_implies, implies_true, and_true]
  exact ⟨first, second, third⟩

theorem fits_getD {n : Nat} {table : List String} (all : ∀ s ∈ table, Fits n s) (i : Nat) :
    Fits n (table.getD i "") := by
  rw [List.getD_eq_getElem?_getD]
  cases found : table[i]? with
  | none => exact fits_literal rfl (Nat.ble_eq_true_of_le (Nat.zero_le n))
  | some s => exact all s (List.mem_of_getElem? found)

theorem fits_trimEndMatches {n : Nat} {s : String} (fits : Fits n s) (c : Char) :
    Fits n (trimEndMatches s c) := by
  have kept := ( trimEndMatches_prefix s c).length_le
  rw [fits_iff] at fits ⊢
  omega

/-- A rendered number below `10 ^ k`. -/
theorem fits_toString {n k : Nat} (small : n < 10 ^ k) (some : 0 < k) : Fits k (toString n) :=
  fits_iff.2 (Binary64.length_toString_le small some)

/-! ## Joined texts -/

/-- The room for texts with a separator each. -/
def room (parts : List String) : Nat := (parts.map fun s => s.length + 1).sum

@[simp] theorem room_nil : room [] = 0 := rfl

@[simp] theorem room_cons (s : String) (parts : List String) :
    room (s :: parts) = s.length + 1 + room parts := by
  rw [room, List.map_cons, List.sum_cons, room]

@[simp] theorem room_append (parts others : List String) :
    room (parts ++ others) = room parts + room others := by
  rw [room, List.map_append, List.sum_append, room, room]

/-- Texts that all fit. -/
theorem room_le {n : Nat} {parts : List String} (all : ∀ s ∈ parts, Fits n s) :
    room parts ≤ parts.length * (n + 1) := by
  induction parts with
  | nil => exact Nat.zero_le _
  | cons s rest ih =>
      obtain ⟨first, others⟩ := List.forall_mem_cons.1 all
      have later := ih others
      unfold Fits at first
      rw [room_cons, List.length_cons, Nat.succ_mul]
      omega

/-- A joined text takes its room, but for the last separator. -/
theorem fits_joinSpace (parts : List String) : Fits (room parts - 1) (joinSpace parts) := by
  induction parts with
  | nil => exact Nat.le_refl 0
  | cons s rest ih =>
      cases rest with
      | nil =>
          rw [joinSpace, Fits, room_cons, room_nil]
          omega
      | cons t rest =>
          have space : Fits 1 " " := fits_literal rfl rfl
          refine ((Fits.append s.length.le_refl space).append ih).mono ?_
          rw [room_cons s, room_cons t]
          omega

end InverterGateway.Theory.Text

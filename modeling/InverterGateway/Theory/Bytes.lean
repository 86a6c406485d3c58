/-
# Theory.Bytes — big-endian bytes as a number, and its bit length

`ofBE` reads big-endian bytes as a natural number.  Leading zero bytes do not
change it, and `bitLength_eq` says that the bit length counted from the first
nonzero byte is the size of that number.
-/
import Mathlib.Algebra.Group.Nat.Defs
import Mathlib.Data.Nat.Size
import Mathlib.Data.List.Induction

namespace InverterGateway.Theory.Bytes

set_option autoImplicit false

/-- Big-endian bytes as a number. -/
def ofBE (bytes : List UInt8) : Nat :=
  bytes.foldl (fun acc b => acc * 256 + b.toNat) 0

/-- `u8::leading_zeros`. -/
def leadingZeros (b : UInt8) : Nat := 8 - b.toNat.size

/-- The bytes from the first nonzero one. -/
def trimZeros (bytes : List UInt8) : List UInt8 := bytes.dropWhile (· == 0)

/-- The bits from the first one that is set. -/
def bitLength (bytes : List UInt8) : Nat :=
  match trimZeros bytes with
  | [] => 0
  | first :: rest => (first :: rest).length * 8 - leadingZeros first

theorem ofBE_append (bytes : List UInt8) (b : UInt8) :
    ofBE (bytes ++ [b]) = ofBE bytes * 256 + b.toNat := by
  simp [ofBE, List.foldl_append]

@[simp] theorem ofBE_zero_cons (bytes : List UInt8) : ofBE (0 :: bytes) = ofBE bytes := by
  simp [ofBE]

/-- Leading zero bytes do not change the number. -/
theorem ofBE_trimZeros (bytes : List UInt8) : ofBE (trimZeros bytes) = ofBE bytes := by
  induction bytes with
  | nil => rfl
  | cons b rest ih =>
      by_cases zero : b = 0
      · subst zero
        rw [ofBE_zero_cons, ← ih]
        rfl
      · have kept : trimZeros (b :: rest) = b :: rest := by
          simp [trimZeros, zero]
        rw [kept]

theorem ofBE_replicate_append (zeros : Nat) (bytes : List UInt8) :
    ofBE (List.replicate zeros 0 ++ bytes) = ofBE bytes := by
  induction zeros with
  | zero => rfl
  | succ zeros ih => rw [List.replicate_succ, List.cons_append, ofBE_zero_cons, ih]

theorem trimZeros_head {bytes rest : List UInt8} {first : UInt8}
    (trimmed : trimZeros bytes = first :: rest) : first ≠ 0 := by
  have head := List.head?_dropWhile_not (· == 0) bytes
  unfold trimZeros at trimmed
  rw [trimmed] at head
  simpa using head

/-- A byte string after its first byte is worth less than one unit of the first. -/
theorem ofBE_bounds (first : UInt8) (rest : List UInt8) :
    first.toNat * 2 ^ (8 * rest.length) ≤ ofBE (first :: rest) ∧
      ofBE (first :: rest) < (first.toNat + 1) * 2 ^ (8 * rest.length) := by
  induction rest using List.reverseRecOn with
  | nil => simp [ofBE]
  | append_singleton rest b ih =>
      obtain ⟨lower, upper⟩ := ih
      have value := ofBE_append (first :: rest) b
      have below : b.toNat < 256 := b.toNat_lt
      have shift : 2 ^ (8 * (rest ++ [b]).length) = 2 ^ (8 * rest.length) * 256 := by
        rw [List.length_append, List.length_singleton, Nat.mul_add, Nat.pow_add]
      rw [List.cons_append] at value
      rw [value, shift, ← Nat.mul_assoc, ← Nat.mul_assoc]
      omega

theorem ofBE_lt (bytes : List UInt8) : ofBE bytes < 2 ^ (8 * bytes.length) := by
  have padded := (ofBE_bounds 0 bytes).2
  rw [ofBE_zero_cons] at padded
  simpa using padded

/-- The bit length of bytes is the size of their number. -/
theorem bitLength_eq (bytes : List UInt8) : bitLength bytes = (ofBE bytes).size := by
  rw [← ofBE_trimZeros bytes]
  unfold bitLength
  cases trimmed : trimZeros bytes with
  | nil => rfl
  | cons first rest =>
      have some : first.toNat ≠ 0 := fun zero =>
        trimZeros_head trimmed (UInt8.toNat_inj.1 zero)
      obtain ⟨lower, upper⟩ := ofBE_bounds first rest
      have positive : 0 < first.toNat.size := Nat.size_pos.2 (Nat.pos_of_ne_zero some)
      have short : first.toNat.size ≤ 8 := Nat.size_le.2 first.toNat_lt
      -- the first byte decides the highest bit
      have low : 2 ^ (first.toNat.size - 1) ≤ first.toNat := Nat.lt_size.1 (by omega)
      have high : first.toNat + 1 ≤ 2 ^ first.toNat.size := Nat.lt_size_self _
      have same : (first :: rest).length * 8 - leadingZeros first =
          first.toNat.size + 8 * rest.length := by
        rw [leadingZeros, List.length_cons]
        omega
      dsimp only
      rw [same]
      apply Nat.le_antisymm
      · have last : first.toNat.size + 8 * rest.length =
            (first.toNat.size - 1 + 8 * rest.length) + 1 := by omega
        rw [last]
        refine Nat.succ_le_of_lt (Nat.lt_size.2 ?_)
        rw [Nat.pow_add]
        exact Nat.le_trans (Nat.mul_le_mul_right _ low) lower
      · rw [Nat.size_le, Nat.pow_add]
        exact Nat.lt_of_lt_of_le upper (Nat.mul_le_mul_right _ high)

/-- At least `n + 1` bits are at least `2 ^ n`. -/
theorem lt_bitLength_iff {n : Nat} {bytes : List UInt8} :
    n < bitLength bytes ↔ 2 ^ n ≤ ofBE bytes := by
  rw [bitLength_eq, Nat.lt_size]

end InverterGateway.Theory.Bytes

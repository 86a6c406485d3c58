/-
# Gateway.Operations — histories of the shared state

One `SharedOp` per public operation of `Shared` that writes under the lock, plus
the coming and going of event subscribers.  `runOps` runs a timed list of them.
The step lemmas say what each operation does to the connection flag, the
generation and the readiness flag; every later history result starts from them.
-/
import InverterGateway.Gateway.Telemetry

namespace InverterGateway.Gateway

open InverterGateway.Theory

set_option autoImplicit false

variable {F : Type}

inductive SharedOp (F : Type) where
  | setConnected (connected : Bool)
  | update (u : ParsedUpdate F)
  | updateInverter (value : Value F)
  | updateSetpointOverride (value : Value F)
  | broadcastSnapshot
  | subscribe
  | unsubscribe

/-- An operation and the time it ran at. -/
abbrev TimedOp (F : Type) := Instant × SharedOp F

namespace Shared

def apply (s : Shared F) (timed : TimedOp F) : Shared F :=
  match timed.2 with
  | .setConnected connected => s.setConnected connected
  | .update u => s.update timed.1 u
  | .updateInverter value => s.updateInverter timed.1 value
  | .updateSetpointOverride value => s.updateSetpointOverride value
  | .broadcastSnapshot => s.broadcastSnapshot timed.1
  | .subscribe => { s with sse := s.sse.subscribe.1 }
  | .unsubscribe => { s with sse := s.sse.unsubscribe }

def runOps (s : Shared F) (ops : List (TimedOp F)) : Shared F :=
  ops.foldl apply s

@[simp] theorem runOps_nil (s : Shared F) : s.runOps [] = s := rfl

@[simp] theorem runOps_cons (s : Shared F) (op : TimedOp F) (ops : List (TimedOp F)) :
    s.runOps (op :: ops) = (s.apply op).runOps ops := rfl

theorem runOps_append (s : Shared F) (ops ops' : List (TimedOp F)) :
    s.runOps (ops ++ ops') = (s.runOps ops).runOps ops' :=
  List.foldl_append

/-- **Invariant rule for histories.** -/
theorem runOps_invariant {P : Shared F → Prop} {s : Shared F} (initial : P s)
    (kept : ∀ s op, P s → P (s.apply op)) (ops : List (TimedOp F)) : P (s.runOps ops) := by
  induction ops generalizing s with
  | nil => exact initial
  | cons op ops ih => exact ih (kept s op initial)

end Shared

/-! ## What an operation does to the flags -/

namespace Telemetry

@[simp] theorem setConnected_connected (t : Telemetry F) (connected : Bool) :
    (t.setConnected connected).connected = connected := by
  unfold setConnected
  split
  · assumption
  · split <;> simp_all

theorem setConnected_generation (t : Telemetry F) (connected : Bool) :
    (t.setConnected connected).generation =
      t.generation + if t.connected && !connected then 1 else 0 := by
  unfold setConnected
  cases h : t.connected <;> cases connected <;> simp

theorem setConnected_same (t : Telemetry F) : t.setConnected t.connected = t := by
  simp [setConnected]

@[simp] theorem updateInverter_connected (t : Telemetry F) (receivers : Nat) (now : Instant)
    (value : Value F) : (t.updateInverter receivers now value).connected = t.connected := by
  unfold updateInverter; split <;> [rfl; split <;> rfl]

@[simp] theorem updateInverter_generation (t : Telemetry F) (receivers : Nat) (now : Instant)
    (value : Value F) : (t.updateInverter receivers now value).generation = t.generation := by
  unfold updateInverter; split <;> [rfl; split <;> rfl]

@[simp] theorem updateSetpointOverride_connected (t : Telemetry F) (receivers : Nat)
    (value : Value F) : (t.updateSetpointOverride receivers value).connected = t.connected := by
  unfold updateSetpointOverride; split <;> rfl

@[simp] theorem updateSetpointOverride_generation (t : Telemetry F) (receivers : Nat)
    (value : Value F) : (t.updateSetpointOverride receivers value).generation = t.generation := by
  unfold updateSetpointOverride; split <;> rfl

/-- An update that the store does not accept changes nothing. -/
theorem update_rejected (t : Telemetry F) (receivers : Nat) (now : Instant) (u : ParsedUpdate F)
    (rejected : t.connected = false ∨ (u.removesDevice = false ∧ pathKeep u.service u.path = false)) :
    t.update receivers now u = t := by
  unfold update
  rcases rejected with down | ⟨leaf, dropped⟩
  · simp [down]
  · simp [leaf, dropped]

theorem update_removes (t : Telemetry F) (receivers : Nat) (now : Instant) (u : ParsedUpdate F)
    (up : t.connected = true) (removes : u.removesDevice = true) :
    t.update receivers now u = { t.removeDevice u with dirty := decide (0 < receivers) } := by
  simp [update, up, removes]

theorem update_stores (t : Telemetry F) (receivers : Nat) (now : Instant) (u : ParsedUpdate F)
    (up : t.connected = true) (leaf : u.removesDevice = false)
    (kept : pathKeep u.service u.path = true) :
    t.update receivers now u = { t.storeLeaf now u with dirty := decide (0 < receivers) } := by
  simp [update, up, leaf, kept]

/-- The three things an update can do. -/
theorem update_cases (t : Telemetry F) (receivers : Nat) (now : Instant) (u : ParsedUpdate F) :
    t.update receivers now u = t ∨
      (t.connected = true ∧ u.removesDevice = true ∧
        t.update receivers now u = { t.removeDevice u with dirty := decide (0 < receivers) }) ∨
      (t.connected = true ∧ u.removesDevice = false ∧ pathKeep u.service u.path = true ∧
        t.update receivers now u = { t.storeLeaf now u with dirty := decide (0 < receivers) }) := by
  cases up : t.connected with
  | false => exact Or.inl (t.update_rejected receivers now u (Or.inl up))
  | true =>
      cases removes : u.removesDevice with
      | true => exact Or.inr (Or.inl ⟨rfl, rfl, t.update_removes receivers now u up removes⟩)
      | false =>
          cases kept : pathKeep u.service u.path with
          | true => exact Or.inr (Or.inr ⟨rfl, rfl, rfl, t.update_stores receivers now u up removes kept⟩)
          | false => exact Or.inl (t.update_rejected receivers now u (Or.inr ⟨removes, kept⟩))

@[simp] theorem update_connected (t : Telemetry F) (receivers : Nat) (now : Instant)
    (u : ParsedUpdate F) : (t.update receivers now u).connected = t.connected := by
  rcases t.update_cases receivers now u with h | ⟨_, _, h⟩ | ⟨_, _, _, h⟩ <;> rw [h] <;> rfl

@[simp] theorem update_generation (t : Telemetry F) (receivers : Nat) (now : Instant)
    (u : ParsedUpdate F) : (t.update receivers now u).generation = t.generation := by
  rcases t.update_cases receivers now u with h | ⟨_, _, h⟩ | ⟨_, _, _, h⟩ <;> rw [h] <;> rfl

@[simp] theorem expire_connected (t : Telemetry F) (receivers : Nat) (now : Instant) :
    (t.expire receivers now).connected = t.connected := by
  unfold expire; split <;> rfl

@[simp] theorem expire_generation (t : Telemetry F) (receivers : Nat) (now : Instant) :
    (t.expire receivers now).generation = t.generation := by
  unfold expire; split <;> rfl

end Telemetry

namespace Shared

/-- What a broadcast does to the telemetry: expiry, and at most the dirty flag. -/
theorem broadcastSnapshot_telemetry (s : Shared F) (now : Instant) :
    ∃ dirty, (s.broadcastSnapshot now).telemetry =
      { s.telemetry.expire s.sse.receivers now with dirty := dirty } := by
  simp only [broadcastSnapshot]
  split
  · exact ⟨_, rfl⟩
  · exact ⟨false, rfl⟩

@[simp] theorem broadcastSnapshot_connected (s : Shared F) (now : Instant) :
    (s.broadcastSnapshot now).telemetry.connected = s.telemetry.connected := by
  obtain ⟨dirty, same⟩ := s.broadcastSnapshot_telemetry now
  rw [same]
  exact s.telemetry.expire_connected _ _

@[simp] theorem broadcastSnapshot_generation (s : Shared F) (now : Instant) :
    (s.broadcastSnapshot now).telemetry.generation = s.telemetry.generation := by
  obtain ⟨dirty, same⟩ := s.broadcastSnapshot_telemetry now
  rw [same]
  exact s.telemetry.expire_generation _ _

/-- Whether an operation is a disconnection of this state. -/
def Disconnects (s : Shared F) (op : SharedOp F) : Bool :=
  match op with
  | .setConnected false => s.telemetry.connected
  | _ => false

theorem apply_generation (s : Shared F) (timed : TimedOp F) :
    (s.apply timed).telemetry.generation =
      s.telemetry.generation + if s.Disconnects timed.2 then 1 else 0 := by
  obtain ⟨now, op⟩ := timed
  cases op with
  | setConnected connected =>
      simp only [apply, setConnected, Telemetry.setConnected_generation]
      cases connected with
      | true => simp [Disconnects]
      | false => simp only [Bool.not_false, Bool.and_true, Disconnects]; rfl
  | _ => simp [apply, update, updateInverter, updateSetpointOverride, Disconnects]

theorem apply_connected (s : Shared F) (timed : TimedOp F) :
    (s.apply timed).telemetry.connected =
      match timed.2 with
      | .setConnected connected => connected
      | _ => s.telemetry.connected := by
  obtain ⟨now, op⟩ := timed
  cases op <;> simp [apply, setConnected, update, updateInverter, updateSetpointOverride]

theorem generation_le_runOps (s : Shared F) (ops : List (TimedOp F)) :
    s.telemetry.generation ≤ (s.runOps ops).telemetry.generation := by
  induction ops generalizing s with
  | nil => exact le_rfl
  | cons op ops ih =>
      have first := s.apply_generation op
      have rest := ih (s.apply op)
      simp only [runOps_cons]
      omega

/-- From a connected state, the generation is unchanged exactly when no
operation of the history disconnects. -/
theorem generation_runOps_iff {s : Shared F} (up : s.telemetry.connected = true)
    (ops : List (TimedOp F)) :
    s.telemetry.generation = (s.runOps ops).telemetry.generation ↔
      ∀ op ∈ ops, op.2 ≠ .setConnected false := by
  induction ops generalizing s with
  | nil => simp
  | cons op ops ih =>
      have first := s.apply_generation op
      have rest := (s.apply op).generation_le_runOps ops
      simp only [runOps_cons, List.forall_mem_cons]
      by_cases drop : op.2 = .setConnected false
      · have bump : s.Disconnects op.2 = true := by rw [drop]; exact up
        rw [bump] at first
        simp only [if_true] at first
        simp only [drop, ne_eq, not_true_eq_false, false_and, iff_false]
        omega
      · have still : s.Disconnects op.2 = false := by
          unfold Disconnects; split
          · rename_i same; exact absurd same drop
          · rfl
        have up' : (s.apply op).telemetry.connected = true := by
          rw [s.apply_connected]
          split
          · rename_i connected same
            cases connected with
            | false => exact absurd same drop
            | true => rfl
          · exact up
        rw [still] at first
        simp only [Bool.false_eq_true, if_false, Nat.add_zero] at first
        rw [← first, ih up']
        simp [drop]

end Shared

end InverterGateway.Gateway

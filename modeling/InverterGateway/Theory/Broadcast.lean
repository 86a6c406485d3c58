/-
# Theory.Broadcast — a bounded broadcast channel

The channel keeps its last `capacity` events; `sent` is the whole history, which
only receivers that fell behind can tell from the kept part.  A receiver is the
index of the next event it will read: it gets every event sent after it
subscribed, in order, or learns that it lost some.
-/
import Mathlib.Data.List.Basic

namespace InverterGateway.Theory

set_option autoImplicit false

universe u

/-- A broadcast channel: every event sent so far, oldest first, and the live receivers. -/
structure Broadcast (α : Type u) where
  capacity : Nat
  sent : List α
  receivers : Nat

/-- What a receiver gets from one look at the channel. -/
inductive Received (α : Type u) where
  | item (event : α)
  | lagged (missed : Nat)
  | pending

namespace Broadcast

variable {α : Type u}

def new (capacity : Nat) : Broadcast α := ⟨capacity, [], 0⟩

/-- An event sent to nobody is not kept. -/
def send (b : Broadcast α) (event : α) : Broadcast α :=
  if 0 < b.receivers then { b with sent := b.sent ++ [event] } else b

/-- A new receiver, and the index of the first event it will see. -/
def subscribe (b : Broadcast α) : Broadcast α × Nat :=
  ({ b with receivers := b.receivers + 1 }, b.sent.length)

def unsubscribe (b : Broadcast α) : Broadcast α :=
  { b with receivers := b.receivers - 1 }

/-- One receive at index `next`: overwritten events are reported and skipped. -/
def recv (b : Broadcast α) (next : Nat) : Received α × Nat :=
  if next + b.capacity < b.sent.length then
    (.lagged (b.sent.length - b.capacity - next), b.sent.length - b.capacity)
  else
    match b.sent[next]? with
    | some event => (.item event, next + 1)
    | none => (.pending, next)

@[simp] theorem send_receivers (b : Broadcast α) (event : α) :
    (b.send event).receivers = b.receivers := by
  unfold send; split <;> rfl

theorem send_sent (b : Broadcast α) (event : α) (listening : 0 < b.receivers) :
    (b.send event).sent = b.sent ++ [event] := by
  simp [send, listening]

/-- A received item is the event at the receiver's index. -/
theorem recv_item {b : Broadcast α} {next after : Nat} {event : α}
    (received : b.recv next = (.item event, after)) : b.sent[next]? = some event ∧ after = next + 1 := by
  unfold recv at received
  split at received
  · cases received
  · split at received
    · rename_i e found
      cases received
      exact ⟨found, rfl⟩
    · cases received

/-- A receiver never gets ahead of the channel. -/
theorem recv_le (b : Broadcast α) {next : Nat} (within : next ≤ b.sent.length) :
    (b.recv next).2 ≤ b.sent.length := by
  unfold recv
  split
  · exact Nat.sub_le _ _
  · split
    · rename_i event found
      exact (List.getElem?_eq_some_iff.1 found).1
    · exact within

/-- A receiver that has seen every event waits; any other gets something. -/
theorem recv_pending_iff {b : Broadcast α} {next : Nat} :
    (b.recv next).1 = .pending ↔ b.sent.length ≤ next := by
  unfold recv
  split
  · rename_i behind
    simp only [reduceCtorEq, false_iff]
    omega
  · cases found : b.sent[next]? with
    | none => simpa using List.getElem?_eq_none_iff.1 found
    | some event =>
        have within := (List.getElem?_eq_some_iff.1 found).1
        simp only [reduceCtorEq, false_iff]
        omega

end Broadcast

end InverterGateway.Theory

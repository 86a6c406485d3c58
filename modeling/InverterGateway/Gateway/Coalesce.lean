/-
# Gateway.Coalesce — a coalesced broadcast loses no final state

Operations mark the telemetry dirty when somebody listens, and the broadcast task
sends the latest snapshot when it finds the mark.  The controller state expires
without any operation; the broadcast that notices it is what marks the change.

`Follows` is what a subscriber can rely on at any time: the last event it was
sent shows the stored state of some earlier moment, and what is stored is still
that state unless the mark is set.  `Owed` says that the next broadcast sends, or
an earlier one already did.  Both are kept by every action of a run in which the
subscriber stays and the connection holds.
-/
import InverterGateway.Gateway.Events

namespace InverterGateway.Gateway

open InverterGateway.Theory

set_option autoImplicit false

variable {F : Type}

/-! ## Expiry as time passes -/

namespace Telemetry

/-- The controller state has expired and is still held. -/
def expiryDue (t : Telemetry F) (now : Instant) : Bool :=
  t.snapshot.inverter.isSome && t.inverterExpired now

theorem inverterExpired_mono {t : Telemetry F} {now later : Instant}
    (expired : t.inverterExpired now = true) (passed : now ≤ later) :
    t.inverterExpired later = true := by
  unfold inverterExpired elapsed at *
  split
  · rfl
  · rename_i received known
    rw [known] at expired
    simp only [decide_eq_true_eq] at expired ⊢
    exact lt_of_lt_of_le expired (Nat.sub_le_sub_right passed received)

theorem expiryDue_mono {t : Telemetry F} {now later : Instant} (due : t.expiryDue now = true)
    (passed : now ≤ later) : t.expiryDue later = true := by
  unfold expiryDue at *
  rw [Bool.and_eq_true] at *
  exact ⟨due.1, inverterExpired_mono due.2 passed⟩

/-- Time alone changes what is shown only by an expiry. -/
theorem currentSnapshot_passed {t : Telemetry F} {now later : Instant}
    (fresh : t.expiryDue later = false) (passed : now ≤ later) :
    t.currentSnapshot later = t.currentSnapshot now := by
  cases held : t.snapshot.inverter with
  | none => simp [currentSnapshot, held]
  | some m =>
      have live : t.inverterExpired later = false := by
        simpa [expiryDue, held] using fresh
      have before : t.inverterExpired now = false := by
        rw [← Bool.not_eq_true] at live ⊢
        exact fun expired => live (inverterExpired_mono expired passed)
      simp [currentSnapshot, live, before]

end Telemetry

/-! ## What an operation owes the subscribers -/

/-- An operation that the store accepts as an update. -/
def SharedOp.accepted (s : Shared F) : SharedOp F → Bool
  | .update u => s.telemetry.connected && (u.removesDevice || pathKeep u.service u.path)
  | .updateInverter value => s.telemetry.connected && (value.isObject || value.isNull)
  | .updateSetpointOverride _ => s.telemetry.connected
  | _ => false

namespace Shared

theorem apply_accepted {s : Shared F} {timed : TimedOp F} (accepted : timed.2.accepted s = true)
    (listening : 0 < s.sse.receivers) :
    (s.apply timed).telemetry.dirty = true ∧ (s.apply timed).sse = s.sse := by
  obtain ⟨now, op⟩ := timed
  cases op with
  | update u =>
      simp only [SharedOp.accepted, Bool.and_eq_true, Bool.or_eq_true] at accepted
      obtain ⟨up, taken⟩ := accepted
      refine ⟨?_, rfl⟩
      simp only [apply, update]
      cases removes : u.removesDevice with
      | true => simp [Telemetry.update_removes _ _ _ _ up removes, listening]
      | false =>
          have kept : pathKeep u.service u.path = true := by simpa [removes] using taken
          simp [Telemetry.update_stores _ _ _ _ up removes kept, listening]
  | updateInverter value =>
      simp only [SharedOp.accepted, Bool.and_eq_true, Bool.or_eq_true] at accepted
      obtain ⟨up, shape⟩ := accepted
      refine ⟨?_, rfl⟩
      rcases shape with shape | shape <;>
        simp [apply, updateInverter, Telemetry.updateInverter, up, shape, listening]
  | updateSetpointOverride value =>
      have up : s.telemetry.connected = true := accepted
      exact ⟨by simp [apply, updateSetpointOverride, Telemetry.updateSetpointOverride, up, listening],
        rfl⟩
  | setConnected connected => cases accepted
  | broadcastSnapshot => cases accepted
  | subscribe => cases accepted
  | unsubscribe => cases accepted

/-- An operation that is not accepted, nor a disconnection or a broadcast. -/
theorem apply_unaccepted {s : Shared F} {timed : TimedOp F} (up : s.telemetry.connected = true)
    (stays : timed.2 ≠ .setConnected false) (silent : timed.2 ≠ .broadcastSnapshot)
    (rejected : timed.2.accepted s = false) :
    (s.apply timed).telemetry = s.telemetry ∧ (s.apply timed).sse.sent = s.sse.sent := by
  obtain ⟨now, op⟩ := timed
  cases op with
  | update u =>
      simp only [SharedOp.accepted, up, Bool.true_and, Bool.or_eq_false_iff] at rejected
      exact ⟨Telemetry.update_rejected _ _ _ _ (Or.inr rejected), rfl⟩
  | updateInverter value =>
      simp only [SharedOp.accepted, up, Bool.true_and, Bool.or_eq_false_iff] at rejected
      exact ⟨by simp [apply, updateInverter, Telemetry.updateInverter, rejected], rfl⟩
  | updateSetpointOverride value =>
      have rejected : s.telemetry.connected = false := rejected
      rw [up] at rejected
      cases rejected
  | setConnected connected =>
      cases connected with
      | false => exact absurd rfl stays
      | true =>
          constructor
          · simp [apply, setConnected, Telemetry.setConnected, up]
          · simp [apply, setConnected]
  | broadcastSnapshot => exact absurd rfl silent
  | subscribe => exact ⟨rfl, rfl⟩
  | unsubscribe => exact ⟨rfl, rfl⟩

/-- A broadcast with something to say sends it to whoever listens. -/
theorem broadcast_sends {s : Shared F} {now : Instant} (up : s.telemetry.connected = true)
    (listening : 0 < s.sse.receivers)
    (owed : s.telemetry.dirty = true ∨ s.telemetry.expiryDue now = true) :
    (s.broadcastSnapshot now).sse.sent =
      s.sse.sent ++ [⟨s.telemetry.generation, some (s.telemetry.currentSnapshot now)⟩] := by
  have marked : (s.telemetry.expire s.sse.receivers now).dirty = true := by
    rw [Telemetry.expire]
    split
    · simpa using listening
    · rename_i fresh
      exact owed.resolve_right fresh
  rw [broadcastSnapshot]
  simp only [Telemetry.expire_connected, up, marked, Bool.not_true, Bool.or_self,
    Bool.false_eq_true, if_false, Telemetry.expire_generation,
    Telemetry.expire_currentSnapshot]
  exact Broadcast.send_sent _ _ listening

/-- A broadcast with nothing to say changes nothing. -/
theorem broadcast_quiet {s : Shared F} {now : Instant} (clean : s.telemetry.dirty = false)
    (fresh : s.telemetry.expiryDue now = false) : s.broadcastSnapshot now = s := by
  have kept : s.telemetry.expire s.sse.receivers now = s.telemetry := by
    rw [Telemetry.expire]
    refine if_neg ?_
    rw [Bool.not_eq_true]
    exact fresh
  rw [broadcastSnapshot]
  simp [kept, clean]

theorem broadcast_clean {s : Shared F} {now : Instant} (up : s.telemetry.connected = true) :
    (s.broadcastSnapshot now).telemetry.dirty = false := by
  rw [broadcastSnapshot]
  simp only [Telemetry.expire_connected, up, Bool.not_true, Bool.false_or]
  split
  · rename_i clean
    simpa using clean
  · rfl

/-- While the connection is down nothing is marked and no controller state is held. -/
def Blank (s : Shared F) : Prop :=
  s.telemetry.connected = false → s.telemetry.dirty = false ∧ s.telemetry.snapshot.inverter = none

/-- While the connection is down, an operation other than its change does nothing. -/
theorem apply_down {s : Shared F} (blank : s.Blank) (down : s.telemetry.connected = false)
    {timed : TimedOp F} (other : ∀ connected, timed.2 ≠ .setConnected connected) :
    (s.apply timed).telemetry = s.telemetry := by
  obtain ⟨now, op⟩ := timed
  cases op with
  | update u => exact Telemetry.update_rejected _ _ _ _ (Or.inl down)
  | updateInverter value => simp [apply, updateInverter, Telemetry.updateInverter, down]
  | updateSetpointOverride value =>
      simp [apply, updateSetpointOverride, Telemetry.updateSetpointOverride, down]
  | setConnected connected => exact absurd rfl (other connected)
  | broadcastSnapshot => simp [apply, broadcastSnapshot, Telemetry.expire, (blank down).2, down]
  | subscribe => rfl
  | unsubscribe => rfl

theorem apply_blank {s : Shared F} (blank : s.Blank) (timed : TimedOp F) :
    (s.apply timed).Blank := by
  intro down
  by_cases change : ∃ connected, timed.2 = .setConnected connected
  · obtain ⟨now, op⟩ := timed
    obtain ⟨connected, rfl⟩ := change
    rw [apply_connected] at down
    obtain rfl : connected = false := down
    cases up : s.telemetry.connected with
    | true => simp [apply, setConnected, Telemetry.setConnected, up]
    | false =>
        have same : (s.apply (now, .setConnected false)).telemetry = s.telemetry := by
          simp [apply, setConnected, Telemetry.setConnected, up]
        rw [same]
        exact blank up
  · have other : ∀ connected, timed.2 ≠ .setConnected connected := fun connected same =>
      change ⟨connected, same⟩
    have before : s.telemetry.connected = false := by
      rw [apply_connected] at down
      split at down
      · rename_i connected same
        exact absurd same (other connected)
      · exact down
    rw [apply_down blank before other]
    exact blank before

/-- **Every broadcast leaves the mark off**, and an operation that is not accepted
leaves it so. -/
theorem apply_clean {s : Shared F} (blank : s.Blank) {timed : TimedOp F}
    (settles : timed.2 = .broadcastSnapshot ∨
      timed.2.accepted s = false ∧ s.telemetry.dirty = false) :
    (s.apply timed).telemetry.dirty = false := by
  obtain ⟨now, op⟩ := timed
  cases up : s.telemetry.connected with
  | true =>
      by_cases broadcasts : op = .broadcastSnapshot
      · subst broadcasts
        exact broadcast_clean up
      · obtain ⟨rejected, clean⟩ := settles.resolve_left broadcasts
        by_cases drops : op = .setConnected false
        · subst drops
          simp [apply, setConnected, Telemetry.setConnected, up]
        · rw [(apply_unaccepted up drops broadcasts rejected).1, clean]
  | false =>
      obtain ⟨clean, -⟩ := blank up
      by_cases change : ∃ connected, op = .setConnected connected
      · obtain ⟨connected, rfl⟩ := change
        cases connected with
        | true => simp [apply, setConnected, Telemetry.setConnected, up, clean]
        | false => simp [apply, setConnected, Telemetry.setConnected, up, clean]
      · have other : ∀ connected, op ≠ .setConnected connected := fun connected same =>
          change ⟨connected, same⟩
        rw [apply_down blank up other, clean]

/-- A broadcast keeps what a snapshot of its moment shows. -/
theorem broadcast_currentSnapshot (s : Shared F) (now : Instant) :
    (s.broadcastSnapshot now).telemetry.currentSnapshot now = s.telemetry.currentSnapshot now := by
  obtain ⟨dirty, same⟩ := s.broadcastSnapshot_telemetry now
  rw [same]
  exact s.telemetry.expire_currentSnapshot s.sse.receivers now

end Shared

/-! ## A subscriber in a run -/

/-- The action leaves subscriber `i` subscribed and the connection up. -/
def Action.Stays (i : Nat) : Action F → Prop
  | .run timed => timed.2 ≠ .setConnected false
  | .close _ j => j ≠ i
  | _ => True

/-- The time an action runs at, if it reads the clock. -/
def Action.time : Action F → Option Instant
  | .run timed => some timed.1
  | .events now => some now
  | .close now _ => some now
  | _ => none

namespace Live

/-- What an action does to the shared state: at most one operation. -/
theorem act_shared (l : Live F) (action : Action F) :
    (l.act action).shared = l.shared ∨
      ∃ timed, (l.act action).shared = l.shared.apply timed ∧ action.time = some timed.1 ∧
        (action = .run timed ∨ timed.2 = .subscribe ∨ timed.2 = .unsubscribe) := by
  cases action with
  | run timed =>
      simp only [act]
      split
      · exact Or.inr ⟨timed, rfl, rfl, Or.inl rfl⟩
      · exact Or.inl rfl
  | events now =>
      simp only [act]
      split
      · exact Or.inl rfl
      · exact Or.inr ⟨(now, .subscribe), rfl, rfl, Or.inr (Or.inl rfl)⟩
  | receive i => exact Or.inl rfl
  | decide i => exact Or.inl rfl
  | close now i =>
      simp only [act]
      split
      · exact Or.inl rfl
      · split
        · exact Or.inl rfl
        · exact Or.inr ⟨(now, .unsubscribe), rfl, rfl, Or.inr (Or.inr rfl)⟩

/-- Subscriber `i` is subscribed. -/
def Watched (i : Nat) (l : Live F) : Prop :=
  ∃ st, l.streams[i]? = some st ∧ st.closed = false

theorem Watched.listening {i : Nat} {l : Live F} (watched : Watched i l) (inv : l.Inv) :
    0 < l.shared.sse.receivers := by
  obtain ⟨st, here, isOpen⟩ := watched
  rw [inv.receivers]
  exact open_pos (List.mem_of_getElem? here) isOpen

theorem Watched.act {i : Nat} {l : Live F} (watched : Watched i l) {action : Action F}
    (stays : action.Stays i) : Watched i (l.act action) := by
  obtain ⟨st, here, isOpen⟩ := watched
  have modified : ∀ (f : Stream F → Stream F) (j : Nat), (f st).closed = st.closed →
      ∃ st', (l.streams.modify j f)[i]? = some st' ∧ st'.closed = false := by
    intro f j same
    rw [List.getElem?_modify, here]
    by_cases hit : j = i
    · exact ⟨f st, by simp [hit], by rw [same, isOpen]⟩
    · exact ⟨st, by simp [hit], isOpen⟩
  cases action with
  | run timed =>
      refine ⟨st, ?_, isOpen⟩
      simp only [Live.act]
      split <;> exact here
  | events now =>
      refine ⟨st, ?_, isOpen⟩
      simp only [Live.act]
      split
      · exact here
      · obtain ⟨within, -⟩ := List.getElem?_eq_some_iff.1 here
        show (l.streams ++ _)[i]? = some st
        rw [List.getElem?_append_left within, here]
  | receive j =>
      refine modified _ j ?_
      unfold Stream.receive
      split
      · rfl
      · split <;> rfl
  | decide j =>
      refine modified _ j ?_
      unfold Stream.decide
      split
      · rfl
      · split
        · rfl
        · split <;> rfl
  | close now j =>
      refine ⟨st, ?_, isOpen⟩
      simp only [Live.act]
      split
      · exact here
      · split
        · exact here
        · show (l.streams.set j _)[i]? = some st
          rw [List.getElem?_set_ne stays, here]

/-- What a subscriber that joined at event `start`, when the store held `base₀` at
time `t₀`, can rely on: the last event it was sent shows the store of some
moment, which is still what is stored unless the mark is set. -/
structure Follows (i g start : Nat) (base₀ : Telemetry F) (t₀ : Instant) (l : Live F)
    (now : Instant) : Prop where
  inv : l.Inv
  watched : Watched i l
  up : l.shared.telemetry.connected = true
  ready : l.shared.telemetry.ready = true
  generation : l.shared.telemetry.generation = g
  within : start ≤ l.shared.sse.sent.length
  synced : ∃ base t, t ≤ now ∧
    ((l.shared.sse.sent.length ≤ start ∧ base = base₀ ∧ t = t₀) ∨
      (l.shared.sse.sent.drop start).getLast? = some ⟨g, some (base.currentSnapshot t)⟩) ∧
    (l.shared.telemetry.dirty = true ∨ SameContent l.shared.telemetry base)

/-- The next broadcast sends something, or an earlier one already did. -/
def Owed (start : Nat) (l : Live F) (now : Instant) : Prop :=
  l.shared.telemetry.dirty = true ∨ start < l.shared.sse.sent.length ∨
    l.shared.telemetry.expiryDue now = true

theorem Owed.later {start : Nat} {l : Live F} {now later : Instant} (owed : Owed start l now)
    (passed : now ≤ later) : Owed start l later := by
  rcases owed with marked | told | due
  · exact Or.inl marked
  · exact Or.inr (Or.inl told)
  · exact Or.inr (Or.inr (Telemetry.expiryDue_mono due passed))

section Step

variable {i g start : Nat} {base₀ : Telemetry F} {t₀ : Instant} {l : Live F} {now : Instant}

theorem Follows.later {later : Instant} (follows : Follows i g start base₀ t₀ l now)
    (passed : now ≤ later) : Follows i g start base₀ t₀ l later := by
  obtain ⟨inv, watched, up, ready, generation, within, base, t, before, rest⟩ := follows
  exact ⟨inv, watched, up, ready, generation, within, base, t, before.trans passed, rest⟩

/-- One action of a run in which the subscriber stays. -/
theorem Follows.act (follows : Follows i g start base₀ t₀ l now) {action : Action F}
    (stays : action.Stays i) (passed : ∀ t, action.time = some t → now ≤ t) :
    Follows i g start base₀ t₀ (l.act action) (action.time.getD now) ∧
      (Owed start l now → Owed start (l.act action) (action.time.getD now)) := by
  have inv := act_inv follows.inv action
  have watched := follows.watched.act stays
  have listening := follows.watched.listening follows.inv
  have later : now ≤ action.time.getD now := by
    cases clock : action.time with
    | none => exact le_rfl
    | some t => exact passed t clock
  have aged := follows.later later
  -- an action that changes neither the telemetry nor the events sent
  have idle (telemetry : (l.act action).shared.telemetry = l.shared.telemetry)
      (sent : (l.act action).shared.sse.sent = l.shared.sse.sent) :
      Follows i g start base₀ t₀ (l.act action) (action.time.getD now) ∧
        (Owed start l now → Owed start (l.act action) (action.time.getD now)) := by
    refine ⟨⟨inv, watched, by rw [telemetry, follows.up], by rw [telemetry, follows.ready],
      by rw [telemetry, follows.generation], by rw [sent]; exact follows.within,
      by rw [telemetry, sent]; exact aged.synced⟩, fun owed => ?_⟩
    have owed := owed.later later
    unfold Owed at owed ⊢
    rw [telemetry, sent]
    exact owed
  rcases l.act_shared action with same | ⟨timed, same, clock, origin⟩
  · exact idle (by rw [same]) (by rw [same])
  · have lives : timed.2 ≠ .setConnected false := by
      rcases origin with rfl | joins | leaves
      · exact stays
      · rw [joins]; intro h; cases h
      · rw [leaves]; intro h; cases h
    have up : (l.act action).shared.telemetry.connected = true := by
      rw [same, Shared.apply_connected]
      split
      · rename_i connected drop
        cases connected with
        | true => rfl
        | false => exact absurd drop lives
      · exact follows.up
    have ready : (l.act action).shared.telemetry.ready = true := by
      rw [same, Shared.apply_ready _ _ follows.up lives, follows.ready, Bool.true_or]
    have generation : (l.act action).shared.telemetry.generation = g := by
      have still : l.shared.Disconnects timed.2 = false := by
        unfold Shared.Disconnects
        split
        · rename_i drop; exact absurd drop lives
        · rfl
      rw [same, Shared.apply_generation, still, follows.generation]
      rfl
    cases accepted : timed.2.accepted l.shared with
    | true =>
        obtain ⟨marked, sse⟩ := Shared.apply_accepted accepted listening
        rw [← same] at marked sse
        obtain ⟨base, t, before, told, -⟩ := aged.synced
        refine ⟨⟨inv, watched, up, ready, generation, by rw [sse]; exact follows.within, base, t,
          before, by rw [sse]; exact told, Or.inl marked⟩, fun _ => Or.inl marked⟩
    | false =>
        by_cases broadcasts : timed.2 = .broadcastSnapshot
        · have run : l.shared.apply timed = l.shared.broadcastSnapshot timed.1 := by
            rw [Shared.apply, broadcasts]
          rw [run] at same
          by_cases marked : l.shared.telemetry.dirty = true ∨
              l.shared.telemetry.expiryDue timed.1 = true
          · have sent := Shared.broadcast_sends follows.up listening marked
            rw [← same, follows.generation] at sent
            refine ⟨⟨inv, watched, up, ready, generation, ?_, (l.act action).shared.telemetry,
              timed.1, ?_, Or.inr ?_, Or.inr (SameContent.refl _)⟩, fun _ => Or.inr (Or.inl ?_)⟩
            · have within := follows.within
              rw [sent, List.length_append]
              omega
            · rw [clock]
              exact le_rfl
            · rw [sent, List.drop_append_of_le_length follows.within, List.getLast?_concat, same,
                Shared.broadcast_currentSnapshot]
            · have within := follows.within
              rw [sent, List.length_append, List.length_singleton]
              omega
          · rw [not_or, Bool.not_eq_true, Bool.not_eq_true] at marked
            rw [Shared.broadcast_quiet marked.1 marked.2] at same
            exact idle (by rw [same]) (by rw [same])
        · obtain ⟨telemetry, sent⟩ := Shared.apply_unaccepted follows.up lives broadcasts accepted
          exact idle (by rw [same, telemetry]) (by rw [same, sent])

/-- A run in which the subscriber stays, up to any later time. -/
theorem Follows.run (actions : List (Action F)) (follows : Follows i g start base₀ t₀ l now)
    (stays : ∀ action ∈ actions, action.Stays i)
    (ordered : (now :: actions.filterMap Action.time).Pairwise (· ≤ ·)) {later : Instant}
    (passed : ∀ t ∈ now :: actions.filterMap Action.time, t ≤ later) :
    Follows i g start base₀ t₀ (l.run actions) later ∧
      (Owed start l now → Owed start (l.run actions) later) := by
  induction actions generalizing l now with
  | nil =>
      have reached : now ≤ later := passed now List.mem_cons_self
      exact ⟨follows.later reached, fun owed => owed.later reached⟩
  | cons action rest ih =>
      obtain ⟨here, there⟩ := List.forall_mem_cons.1 stays
      cases clock : action.time with
      | none =>
          obtain ⟨next, owes⟩ := follows.act here (by simp [clock])
          rw [clock] at next owes
          rw [List.filterMap_cons_none clock] at ordered passed
          obtain ⟨last, kept⟩ := ih next there ordered passed
          exact ⟨last, fun owed => kept (owes owed)⟩
      | some t =>
          rw [List.filterMap_cons_some clock] at ordered passed
          obtain ⟨first, ordered⟩ := List.pairwise_cons.1 ordered
          have forward : ∀ t', action.time = some t' → now ≤ t' := by
            intro t' same
            rw [clock] at same
            cases same
            exact first t List.mem_cons_self
          obtain ⟨next, owes⟩ := follows.act here forward
          rw [clock] at next owes
          obtain ⟨last, kept⟩ := ih next there ordered fun t' found =>
            passed t' (List.mem_cons_of_mem _ found)
          exact ⟨last, fun owed => kept (owes owed)⟩

/-- A broadcast that is owed leaves the subscriber with the current snapshot. -/
theorem Follows.broadcast (follows : Follows i g start base₀ t₀ l now) (owed : Owed start l now) :
    ((l.shared.broadcastSnapshot now).sse.sent.drop start).getLast? =
      some ⟨g, (l.shared.broadcastSnapshot now).snapshot now⟩ := by
  have listening := follows.watched.listening follows.inv
  have within := follows.within
  have shown : (l.shared.broadcastSnapshot now).snapshot now =
      some (l.shared.telemetry.currentSnapshot now) := by
    have ready : (l.shared.broadcastSnapshot now).telemetry.ready = true := by
      have kept := Shared.apply_ready l.shared (now, .broadcastSnapshot) follows.up (by simp)
      rw [follows.ready, Bool.true_or] at kept
      exact kept
    rw [Shared.snapshot, Shared.broadcastSnapshot_connected, follows.up, ready,
      Shared.broadcast_currentSnapshot]
    rfl
  rw [shown]
  by_cases marked : l.shared.telemetry.dirty = true ∨ l.shared.telemetry.expiryDue now = true
  · rw [Shared.broadcast_sends follows.up listening marked,
      List.drop_append_of_le_length within, List.getLast?_concat, follows.generation]
  · rw [not_or, Bool.not_eq_true, Bool.not_eq_true] at marked
    obtain ⟨clean, fresh⟩ := marked
    obtain ⟨base, t, before, told, stored⟩ := follows.synced
    have content : SameContent l.shared.telemetry base := by
      refine stored.resolve_left fun dirty => ?_
      rw [clean] at dirty
      cases dirty
    rw [Shared.broadcast_quiet clean fresh]
    rcases told with ⟨nothing, -⟩ | told
    · rcases owed with dirty | told | due
      · rw [clean] at dirty
        cases dirty
      · omega
      · rw [fresh] at due
        cases due
    · rw [told, Telemetry.currentSnapshot_passed fresh before, content.currentSnapshot t]

/-- What is shown differs from what was shown at the start: a change is owed. -/
theorem Follows.owed (follows : Follows i g start base₀ t₀ l now)
    (changed : l.shared.telemetry.currentSnapshot now ≠ base₀.currentSnapshot t₀) :
    Owed start l now := by
  obtain ⟨base, t, before, told, stored⟩ := follows.synced
  rcases stored with dirty | content
  · exact Or.inl dirty
  · rcases told with ⟨nothing, rfl, rfl⟩ | told
    · right; right
      by_contra fresh
      rw [Bool.not_eq_true] at fresh
      exact changed (by
        rw [Telemetry.currentSnapshot_passed fresh before, content.currentSnapshot t])
    · right; left
      by_contra short
      rw [List.drop_eq_nil_of_le (by omega)] at told
      cases told

end Step

end Live

/-! ## Broadcasts after a change, and without one -/

/-- A subscriber: the run before it, and what `subscribe` gave it. -/
structure Subscription (F : Type) where
  before : List (Action F)
  since : Instant
  generation : Nat
  start : Nat
  opened : (({} : Live F).run before).shared.subscribe = some (generation, start)

namespace Subscription

variable (sub : Subscription F)

/-- The stream of the subscriber. -/
def index : Nat := (({} : Live F).run sub.before).streams.length

/-- The state just after it subscribed. -/
def joined : Live F := ({} : Live F).run (sub.before ++ [.events sub.since])

theorem follows : Live.Follows sub.index sub.generation sub.start sub.joined.shared.telemetry
    sub.since sub.joined sub.since := by
  have inv : sub.joined.Inv := Live.run_inv _
  have opened := sub.opened
  have grown : sub.joined = (({} : Live F).run sub.before).act (.events sub.since) := by
    rw [joined, Live.run, List.foldl_append]
    rfl
  have here : sub.joined = {
      log := (sub.since, .subscribe) :: (({} : Live F).run sub.before).log
      shared := (({} : Live F).run sub.before).shared.apply (sub.since, .subscribe)
      streams := (({} : Live F).run sub.before).streams ++
        [{ generation := sub.generation, next := sub.start }] } := by
    rw [grown, Live.act, opened]
  have fresh : sub.generation = (({} : Live F).run sub.before).shared.telemetry.generation ∧
      sub.start = (({} : Live F).run sub.before).shared.sse.sent.length ∧
      (({} : Live F).run sub.before).shared.telemetry.connected = true ∧
      (({} : Live F).run sub.before).shared.telemetry.ready = true := by
    unfold Shared.subscribe at opened
    split at opened
    · rename_i live
      rw [Bool.and_eq_true] at live
      rw [Option.some.injEq, Prod.mk.injEq] at opened
      exact ⟨opened.1.symm, opened.2.symm, live.1, live.2⟩
    · cases opened
  have shared : sub.joined.shared =
      (({} : Live F).run sub.before).shared.apply (sub.since, .subscribe) := by rw [here]
  have telemetry : sub.joined.shared.telemetry =
      (({} : Live F).run sub.before).shared.telemetry := by rw [shared]; rfl
  have sent : sub.joined.shared.sse.sent =
      (({} : Live F).run sub.before).shared.sse.sent := by rw [shared]; rfl
  refine ⟨inv, ⟨{ generation := sub.generation, next := sub.start }, ?_, rfl⟩,
    by rw [telemetry, fresh.2.2.1], by rw [telemetry, fresh.2.2.2], by rw [telemetry, fresh.1],
    by rw [sent, fresh.2.1], sub.joined.shared.telemetry, sub.since, le_rfl,
    Or.inl ⟨by rw [sent, fresh.2.1], rfl, rfl⟩, Or.inr (SameContent.refl _)⟩
  rw [here, index]
  exact List.getElem?_concat_length

end Subscription

/-- The times of a run that starts at `t₀` and is looked at until `now`. -/
def Chronological (t₀ : Instant) (actions : List (Action F)) (now : Instant) : Prop :=
  (t₀ :: (actions.filterMap Action.time ++ [now])).Pairwise (· ≤ ·)

/-- The time `τ` falls between the actions `done` and the rest of a run. -/
def Moment (t₀ : Instant) (actions : List (Action F)) (now : Instant) (done : List (Action F))
    (τ : Instant) : Prop :=
  ∃ rest, actions = done ++ rest ∧ (∀ t ∈ t₀ :: done.filterMap Action.time, t ≤ τ) ∧
    ∀ t ∈ rest.filterMap Action.time ++ [now], τ ≤ t

/-- The broadcast at `now`. -/
def broadcastAt (now : Instant) : Action F := .run (now, .broadcastSnapshot)

/-- No update of the run is accepted. -/
def NoneAccepted (l : Live F) : List (Action F) → Prop
  | [] => True
  | action :: rest =>
      (∀ timed, action = .run timed → timed.2.accepted l.shared = false) ∧ NoneAccepted (l.act action) rest

namespace Live

theorem act_blank {l : Live F} (blank : l.shared.Blank) (action : Action F) :
    (l.act action).shared.Blank := by
  rcases l.act_shared action with same | ⟨timed, same, -⟩
  · rwa [same]
  · rw [same]
    exact Shared.apply_blank blank timed

/-- The store is blank whenever the connection is down, in every run. -/
theorem run_blank {l : Live F} (blank : l.shared.Blank) (actions : List (Action F)) :
    (l.run actions).shared.Blank := by
  induction actions generalizing l with
  | nil => exact blank
  | cons action rest ih => exact ih (act_blank blank action)

/-- Without accepted updates the mark stays off. -/
theorem run_clean {l : Live F} (blank : l.shared.Blank) (actions : List (Action F))
    (quiet : NoneAccepted l actions) (clean : l.shared.telemetry.dirty = false) :
    (l.run actions).shared.telemetry.dirty = false := by
  induction actions generalizing l with
  | nil => exact clean
  | cons action rest ih =>
      obtain ⟨rejected, calm⟩ := quiet
      refine ih (act_blank blank action) calm ?_
      rcases l.act_shared action with same | ⟨timed, same, -, origin⟩
      · rw [same, clean]
      · have unaccepted : timed.2.accepted l.shared = false := by
          rcases origin with own | joins | leaves
          · exact rejected timed own
          · rw [joins]; rfl
          · rw [leaves]; rfl
        rw [same]
        exact Shared.apply_clean blank (Or.inr ⟨unaccepted, clean⟩)

theorem run_append (l : Live F) (actions actions' : List (Action F)) :
    l.run (actions ++ actions') = (l.run actions).run actions' :=
  List.foldl_append

end Live

/-- **Coalescing loses no final state.**  While a subscriber stays and the connection
holds: once what a snapshot shows has changed, every broadcast leaves it with the
current snapshot as the last event it was sent; and an earlier broadcast of the run,
before or after it joined, since which no update was accepted and nothing expired
makes the next one send nothing. -/
theorem coalescing_keeps_final_state (sub : Subscription F) (actions : List (Action F))
    (now : Instant) (stays : ∀ action ∈ actions, action.Stays sub.index)
    (ordered : Chronological sub.since actions now) :
    ((∃ done τ, Moment sub.since actions now done τ ∧
        (sub.joined.run done).shared.snapshot τ ≠ sub.joined.shared.snapshot sub.since) →
      ((sub.joined.run (actions ++ [broadcastAt now])).shared.sse.sent.drop sub.start).getLast? =
        some ⟨sub.generation,
          (sub.joined.run (actions ++ [broadcastAt now])).shared.snapshot now⟩) ∧
    ∀ earlier t later,
      sub.before ++ .events sub.since :: actions = earlier ++ broadcastAt t :: later →
      NoneAccepted (({} : Live F).run (earlier ++ [broadcastAt t])) later →
      (sub.joined.run actions).shared.telemetry.expiryDue now = false →
      (sub.joined.run (actions ++ [broadcastAt now])).shared.sse =
        (sub.joined.run actions).shared.sse := by
  obtain ⟨early, ordered⟩ := List.pairwise_cons.1 ordered
  obtain ⟨within, -, last⟩ := List.pairwise_append.1 ordered
  have last : ∀ t ∈ actions.filterMap Action.time, t ≤ now := fun t found =>
    last t found now (List.mem_singleton.2 rfl)
  have start : sub.since ≤ now := early now (List.mem_append_right _ (List.mem_singleton.2 rfl))
  have front : ∀ t ∈ actions.filterMap Action.time, sub.since ≤ t := fun t found =>
    early t (List.mem_append_left _ found)
  have final : (sub.joined.run (actions ++ [broadcastAt now])).shared =
      (sub.joined.run actions).shared.broadcastSnapshot now := by
    rw [Live.run_append]
    rfl
  rw [final]
  constructor
  · rintro ⟨done, τ, ⟨rest, split, past, future⟩, changed⟩
    rw [split, List.filterMap_append] at within last front
    obtain ⟨doneOrder, restOrder, -⟩ := List.pairwise_append.1 within
    have doneStays : ∀ action ∈ done, action.Stays sub.index := fun action found =>
      stays action (by rw [split]; exact List.mem_append_left _ found)
    have restStays : ∀ action ∈ rest, action.Stays sub.index := fun action found =>
      stays action (by rw [split]; exact List.mem_append_right _ found)
    obtain ⟨there, -⟩ := sub.follows.run done doneStays
      (List.pairwise_cons.2 ⟨fun t found => front t (List.mem_append_left _ found), doneOrder⟩) past
    have differs : (sub.joined.run done).shared.telemetry.currentSnapshot τ ≠
        sub.joined.shared.telemetry.currentSnapshot sub.since := by
      intro same
      apply changed
      rw [Shared.snapshot, Shared.snapshot, there.up, there.ready, sub.follows.up,
        sub.follows.ready, same]
    obtain ⟨ends, owes⟩ := there.run rest restStays
      (List.pairwise_cons.2 ⟨fun t found => future t (List.mem_append_left _ found), restOrder⟩)
      (List.forall_mem_cons.2 ⟨future now (List.mem_append_right _ (List.mem_singleton.2 rfl)),
        fun t found => last t (List.mem_append_right _ found)⟩)
    rw [← Live.run_append, ← split] at ends owes
    exact ends.broadcast (owes (there.owed differs))
  · intro earlier t later split quiet fresh
    have initial : (({} : Live F).run earlier).shared.Blank :=
      Live.run_blank (fun _ => ⟨rfl, rfl⟩) earlier
    have broadcast : ({} : Live F).run (earlier ++ [broadcastAt t]) =
        (({} : Live F).run earlier).act (broadcastAt t) := Live.run_append _ _ _
    have clean :
        (({} : Live F).run (earlier ++ [broadcastAt t])).shared.telemetry.dirty = false := by
      rw [broadcast]
      exact Shared.apply_clean initial (Or.inl rfl)
    have kept := Live.run_clean (Live.run_blank (fun _ => ⟨rfl, rfl⟩) _) later quiet clean
    -- the run since that broadcast is the rest of the run of the subscriber
    have whole : (({} : Live F).run (earlier ++ [broadcastAt t])).run later =
        sub.joined.run actions := by
      rw [← Live.run_append, Subscription.joined, ← Live.run_append, List.append_assoc,
        List.append_assoc, List.singleton_append, List.singleton_append, split]
    rw [whole] at kept
    rw [Shared.broadcast_quiet kept fresh]

/-- A subscriber to a controller without an acknowledgement. -/
def acknowledgedLater : Subscription Unit where
  before := [.run (0, .setConnected true), .run (0, .updateInverter (.object [])), broadcastAt 0]
  since := 0
  generation := 0
  start := 0
  opened := rfl

/-- The first broadcast after it joined has nothing to send; the next one after the
acknowledgement tells it of that. -/
theorem coalescing_keeps_final_state_override :
    (acknowledgedLater.joined.run ([] ++ [broadcastAt 1])).shared.sse =
        (acknowledgedLater.joined.run []).shared.sse ∧
      ((acknowledgedLater.joined.run ([.run (1, .updateSetpointOverride (.object []))] ++
        [broadcastAt 2])).shared.sse.sent.drop 0).getLast? =
          some ⟨0, (acknowledgedLater.joined.run ([.run (1, .updateSetpointOverride (.object []))] ++
            [broadcastAt 2])).shared.snapshot 2⟩ := by
  constructor
  · refine (coalescing_keeps_final_state acknowledgedLater [] 1 ?_ ?_).2
      [.run (0, .setConnected true), .run (0, .updateInverter (.object []))] 0 [.events 0] rfl ?_ rfl
    · intro action found
      cases found
    · show List.Pairwise (· ≤ ·) [0, 1]
      decide
    · exact ⟨(fun timed other => by cases other), trivial⟩
  · refine (coalescing_keeps_final_state acknowledgedLater
      [.run (1, .updateSetpointOverride (.object []))] 2 ?_ ?_).1
      ⟨[.run (1, .updateSetpointOverride (.object []))], 1, ⟨[], rfl, ?_, ?_⟩, ?_⟩
    · intro action found
      rw [List.mem_singleton.1 found]
      intro drop
      cases drop
    · show List.Pairwise (· ≤ ·) [0, 1, 2]
      decide
    · show ∀ t ∈ [0, 1], t ≤ 1
      decide
    · show ∀ t ∈ [2], 1 ≤ t
      decide
    · intro same
      have shown := congrArg (fun snap => (snap.bind Snapshot.inverter).bind fun m =>
        Entries.get m "setpoint_override") same
      cases shown

end InverterGateway.Gateway

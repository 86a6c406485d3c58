/-
# Gateway.Events — event streams of one connection generation

A stream is opened with the generation it belongs to and a receiver of the
event channel.  A poll takes an event from the channel and then decides, on the
live telemetry, whether the stream goes on; anything may run between the two,
so they are two actions here.  `Live.run` interleaves the operations of the
shared state with the polls of any number of streams.

The log of a `Live` state is its history, latest operation first.  A snapshot a
stream yields is the one broadcast at some point of the log, and
`onConnection` rebuilds it from the operations accepted in the stream's
generation alone.
-/
import InverterGateway.Gateway.History

namespace InverterGateway.Gateway

open InverterGateway.Theory

set_option autoImplicit false

variable {F : Type}

/-! ## Generations of a history -/

/-- How many disconnections a history holds. -/
def generationAfter : List (TimedOp F) → Nat
  | [] => 0
  | op :: earlier =>
      generationAfter earlier +
        if op.2 matches .setConnected false && connectedAfter earlier then 1 else 0

/-- The operations that ran while connected with generation `g`. -/
def acceptedIn (g : Nat) : List (TimedOp F) → List (TimedOp F)
  | [] => []
  | op :: earlier =>
      if connectedAfter earlier ∧ generationAfter earlier = g then op :: acceptedIn g earlier
      else acceptedIn g earlier

/-- A gateway that connected once and saw only these operations. -/
def onConnection (ops : List (TimedOp F)) : Shared F :=
  ops.foldr (fun op s => s.apply op) ((Shared.new : Shared F).setConnected true)

namespace Shared

theorem after_generation (history : List (TimedOp F)) :
    (after history).telemetry.generation = generationAfter history := by
  induction history with
  | nil => rfl
  | cons op earlier ih =>
      have flag := after_connected earlier
      obtain ⟨now, op⟩ := op
      rw [after, apply_generation, ih, generationAfter]
      cases op with
      | setConnected connected => cases connected <;> simp [Disconnects, flag]
      | _ => simp [Disconnects]

end Shared

theorem generationAfter_cons_stays {op : TimedOp F} {earlier : List (TimedOp F)}
    (stays : op.2 ≠ .setConnected false ∨ connectedAfter earlier = false) :
    generationAfter (op :: earlier) = generationAfter earlier := by
  obtain ⟨now, op⟩ := op
  rcases stays with other | down
  · cases op with
    | setConnected connected =>
        cases connected with
        | false => exact absurd rfl other
        | true => simp [generationAfter]
    | _ => simp [generationAfter]
  · simp [generationAfter, down]

/-- No operation ran in a generation that has not begun. -/
theorem acceptedIn_future {g : Nat} {history : List (TimedOp F)}
    (future : generationAfter history < g) : acceptedIn g history = [] := by
  induction history with
  | nil => rfl
  | cons op earlier ih =>
      have below : generationAfter earlier < g := by
        simp only [generationAfter] at future
        omega
      have different : ¬(connectedAfter earlier = true ∧ generationAfter earlier = g) := by
        rintro ⟨-, same⟩
        omega
      rw [acceptedIn, if_neg different, ih below]

/-- Expiry changes nothing a snapshot of that moment shows. -/
theorem Telemetry.expire_currentSnapshot (t : Telemetry F) (receivers : Nat) (now : Instant) :
    (t.expire receivers now).currentSnapshot now = t.currentSnapshot now := by
  unfold Telemetry.expire
  split
  · rename_i expired
    simp only [Bool.and_eq_true] at expired
    have cleared : ({ t with
        snapshot := { t.snapshot with inverter := none }
        inverterReceivedAt := none
        dirty := decide (0 < receivers) } : Telemetry F).inverterExpired now = true := rfl
    simp only [Telemetry.currentSnapshot, expired.2, cleared, if_true]
  · rfl

/-! ## A snapshot depends on its own generation only -/

/-- The parts of the telemetry that a published snapshot shows. -/
structure SameContent (t t' : Telemetry F) : Prop where
  snapshot : t.snapshot = t'.snapshot
  received : t.inverterReceivedAt = t'.inverterReceivedAt
  override : t.setpointOverride = t'.setpointOverride

namespace SameContent

variable {t t' : Telemetry F}

theorem refl (t : Telemetry F) : SameContent t t := ⟨rfl, rfl, rfl⟩

theorem trans {t'' : Telemetry F} (first : SameContent t t') (second : SameContent t' t'') :
    SameContent t t'' :=
  ⟨first.snapshot.trans second.snapshot, first.received.trans second.received,
    first.override.trans second.override⟩

theorem inverterExpired (same : SameContent t t') (now : Instant) :
    t.inverterExpired now = t'.inverterExpired now := by
  unfold Telemetry.inverterExpired
  rw [same.received]

theorem currentSnapshot (same : SameContent t t') (now : Instant) :
    t.currentSnapshot now = t'.currentSnapshot now := by
  unfold Telemetry.currentSnapshot
  rw [same.inverterExpired now, same.snapshot, same.override]

/-- Operations of two live connections keep equal contents equal. -/
theorem apply {s s' : Shared F} (same : SameContent s.telemetry s'.telemetry)
    (up : s.telemetry.connected = true) (up' : s'.telemetry.connected = true)
    (timed : TimedOp F) : SameContent (s.apply timed).telemetry (s'.apply timed).telemetry := by
  obtain ⟨now, op⟩ := timed
  have snapshot := same.snapshot
  have received := same.received
  have override := same.override
  cases op with
  | setConnected connected =>
      simp only [Shared.apply, Shared.setConnected, Telemetry.setConnected, up, up']
      cases connected with
      | true => exact same
      | false => exact ⟨rfl, rfl, rfl⟩
  | update u =>
      simp only [Shared.apply, Shared.update, Telemetry.update, up, up']
      cases removes : u.removesDevice <;> cases kept : pathKeep u.service u.path
      · exact same
      · exact ⟨by simp [Telemetry.storeLeaf, snapshot], received, override⟩
      · exact ⟨by simp [Telemetry.removeDevice, snapshot], received, override⟩
      · exact ⟨by simp [Telemetry.removeDevice, snapshot], received, override⟩
  | updateInverter value =>
      simp only [Shared.apply, Shared.updateInverter, Telemetry.updateInverter, up, up']
      split
      · exact same
      · exact ⟨by simp [snapshot], by simp, by simp [override]⟩
  | updateSetpointOverride value =>
      simp only [Shared.apply, Shared.updateSetpointOverride, Telemetry.updateSetpointOverride,
        up, up']
      exact ⟨snapshot, received, rfl⟩
  | broadcastSnapshot =>
      obtain ⟨dirty, expired⟩ := s.broadcastSnapshot_telemetry now
      obtain ⟨dirty', expired'⟩ := s'.broadcastSnapshot_telemetry now
      simp only [Shared.apply, expired, expired', Telemetry.expire, same.inverterExpired now,
        snapshot]
      split
      · exact ⟨rfl, rfl, override⟩
      · exact ⟨snapshot, received, override⟩
  | subscribe => exact same
  | unsubscribe => exact same

end SameContent

namespace Shared

/-- Without a connection no operation changes what a snapshot would show. -/
theorem apply_down_content (s : Shared F) (timed : TimedOp F)
    (empty : SameContent s.telemetry {}) (down : s.telemetry.connected = false) :
    SameContent (s.apply timed).telemetry {} := by
  obtain ⟨now, op⟩ := timed
  cases op with
  | setConnected connected =>
      simp only [apply, setConnected, Telemetry.setConnected, down]
      cases connected with
      | true => exact ⟨empty.snapshot, empty.received, empty.override⟩
      | false => exact empty
  | update u =>
      simp only [apply, update, Telemetry.update_rejected _ _ _ _ (Or.inl down)]
      exact empty
  | updateInverter value =>
      simp only [apply, updateInverter, Telemetry.updateInverter, down]
      simpa using empty
  | updateSetpointOverride value =>
      simp only [apply, updateSetpointOverride, Telemetry.updateSetpointOverride, down]
      exact empty
  | broadcastSnapshot =>
      obtain ⟨dirty, same⟩ := s.broadcastSnapshot_telemetry now
      simp only [apply, same, Telemetry.expire, empty.snapshot]
      exact ⟨empty.snapshot, empty.received, empty.override⟩
  | subscribe => exact empty
  | unsubscribe => exact empty

end Shared

theorem acceptedIn_down {history : List (TimedOp F)} (down : connectedAfter history = false) :
    acceptedIn (generationAfter history) history = [] := by
  induction history with
  | nil => rfl
  | cons op earlier ih =>
      cases up : connectedAfter earlier with
      | true =>
          -- only the disconnection itself leads here
          have drop : op.2 = .setConnected false := by
            obtain ⟨now, op⟩ := op
            cases op <;> simp_all [connectedAfter]
          have later : generationAfter earlier < generationAfter (op :: earlier) := by
            simp [generationAfter, drop, up]
          have different :
              ¬(connectedAfter earlier = true ∧
                generationAfter earlier = generationAfter (op :: earlier)) := by
            rintro ⟨-, same⟩
            omega
          rw [acceptedIn, if_neg different, acceptedIn_future later]
      | false =>
          rw [acceptedIn, generationAfter_cons_stays (Or.inr up)]
          simp [up, ih up]

theorem onConnection_connected {ops : List (TimedOp F)}
    (stays : ∀ op ∈ ops, op.2 ≠ .setConnected false) :
    (onConnection ops).telemetry.connected = true := by
  induction ops with
  | nil => rfl
  | cons op ops ih =>
      obtain ⟨here, rest⟩ := List.forall_mem_cons.1 stays
      have up := ih rest
      simp only [onConnection, List.foldr_cons] at up ⊢
      rw [Shared.apply_connected]
      split
      · rename_i connected same
        cases connected with
        | true => rfl
        | false => exact absurd same here
      · exact up

/-- The operations of the current connection hold no disconnection. -/
theorem acceptedIn_stays (history : List (TimedOp F)) :
    ∀ op ∈ acceptedIn (generationAfter history) history, op.2 ≠ .setConnected false := by
  induction history with
  | nil => simp [acceptedIn]
  | cons op earlier ih =>
      by_cases drops : op.2 = .setConnected false ∧ connectedAfter earlier = true
      · have down : connectedAfter (op :: earlier) = false := by
          obtain ⟨now, op⟩ := op
          obtain ⟨rfl, -⟩ := drops
          rfl
        rw [acceptedIn_down down]
        simp
      · have stays : op.2 ≠ .setConnected false ∨ connectedAfter earlier = false := by
          rw [← Bool.not_eq_true]
          tauto
        rw [generationAfter_cons_stays stays, acceptedIn]
        split
        · rename_i up
          refine List.forall_mem_cons.2 ⟨fun same => drops ⟨same, up.1⟩, ih⟩
        · exact ih

/-- **What is stored comes from the current generation.** -/
theorem content_after (history : List (TimedOp F)) :
    SameContent (Shared.after history).telemetry
      (onConnection (acceptedIn (generationAfter history) history)).telemetry := by
  induction history with
  | nil => exact ⟨rfl, rfl, rfl⟩
  | cons op earlier ih =>
      have flag := Shared.after_connected earlier
      cases up : connectedAfter earlier with
      | true =>
          rw [up] at flag
          by_cases drop : op.2 = .setConnected false
          · have down : connectedAfter (op :: earlier) = false := by
              obtain ⟨now, op⟩ := op
              obtain rfl := drop
              rfl
            rw [acceptedIn_down down, Shared.after]
            simp only [Shared.apply, drop, Shared.setConnected, Telemetry.setConnected, flag]
            exact ⟨rfl, rfl, rfl⟩
          · rw [generationAfter_cons_stays (Or.inl drop), acceptedIn, if_pos ⟨up, rfl⟩]
            exact ih.apply flag (onConnection_connected (acceptedIn_stays earlier)) op
      | false =>
          rw [up] at flag
          rw [acceptedIn_down up] at ih
          have still : acceptedIn (generationAfter (op :: earlier)) (op :: earlier) = [] := by
            rw [generationAfter_cons_stays (Or.inr up), acceptedIn, acceptedIn_down up]
            simp [up]
          rw [still]
          have fresh : SameContent (onConnection ([] : List (TimedOp F))).telemetry {} :=
            ⟨rfl, rfl, rfl⟩
          exact (Shared.apply_down_content _ op (ih.trans fresh) flag).trans ⟨rfl, rfl, rfl⟩

/-! ## Streams -/

/-- One event stream: its generation, the index of the next event of its
receiver, and what it received but has not decided on. -/
structure Stream (F : Type) where
  generation : Nat
  next : Nat
  held : Option (Received (SnapshotEvent F)) := none
  done : Bool := false
  closed : Bool := false
  yielded : List (Snapshot F) := []

/-- The shared state with its history and its streams. -/
structure Live (F : Type) where
  log : List (TimedOp F) := []
  shared : Shared F := .new
  streams : List (Stream F) := []

inductive Action (F : Type) where
  /-- An operation of the bridge or of the broadcast task. -/
  | run (timed : TimedOp F)
  /-- A client opens a stream. -/
  | events (now : Instant)
  /-- The first half of a poll: look at the channel. -/
  | receive (stream : Nat)
  /-- The second half: decide on what was received. -/
  | decide (stream : Nat)
  /-- The client goes away, or its ended response is dropped. -/
  | close (now : Instant) (stream : Nat)

namespace Shared

/-- `subscribe`: refused streams drop their receiver at once. -/
def subscribe (s : Shared F) : Option (Nat × Nat) :=
  if s.telemetry.connected && s.telemetry.ready then
    some (s.telemetry.generation, s.sse.subscribe.2)
  else none

def generationIsConnected (s : Shared F) (generation : Nat) : Bool :=
  s.telemetry.connected && s.telemetry.generation == generation

end Shared

/-- Opening and closing receivers is left to the streams. -/
def SharedOp.isWrite : SharedOp F → Bool
  | .subscribe | .unsubscribe => false
  | _ => true

namespace Stream

/-- Whether `take_while` lets a received event through, and the snapshot it maps to. -/
def passes (s : Shared F) (generation : Nat) : Received (SnapshotEvent F) → Option (Snapshot F)
  | .item event =>
      if s.generationIsConnected generation && event.generation == generation then
        event.snapshot
      else none
  | _ => none

/-- Take the next event from the channel, unless there is none. -/
def receive (sse : Broadcast (SnapshotEvent F)) (st : Stream F) : Stream F :=
  if st.done || st.closed || st.held.isSome then st
  else
    match sse.recv st.next with
    | (.pending, _) => st
    | (received, next) => { st with held := some received, next := next }

/-- Yield the snapshot received, or end for good. -/
def decide (s : Shared F) (st : Stream F) : Stream F :=
  if st.done || st.closed then st
  else
    match st.held with
    | none => st
    | some received =>
        match passes s st.generation received with
        | some snapshot => { st with held := none, yielded := st.yielded ++ [snapshot] }
        | none => { st with held := none, done := true }

end Stream

namespace Live

def act (l : Live F) : Action F → Live F
  | .run timed =>
      if timed.2.isWrite then { l with log := timed :: l.log, shared := l.shared.apply timed } else l
  | .events now =>
      match l.shared.subscribe with
      | none => l
      | some (generation, next) =>
          { log := (now, .subscribe) :: l.log
            shared := l.shared.apply (now, .subscribe)
            streams := l.streams ++ [{ generation, next }] }
  | .receive i => { l with streams := l.streams.modify i (Stream.receive l.shared.sse) }
  | .decide i => { l with streams := l.streams.modify i (Stream.decide l.shared) }
  | .close now i =>
      match l.streams[i]? with
      | none => l
      | some st =>
          if st.closed then l
          else
            { log := (now, .unsubscribe) :: l.log
              shared := l.shared.apply (now, .unsubscribe)
              streams := l.streams.set i { st with closed := true } }

def run (l : Live F) (actions : List (Action F)) : Live F :=
  actions.foldl act l

/-- The number of receivers the streams hold. -/
def openStreams (l : Live F) : Nat := l.streams.countP fun st => !st.closed

end Live

/-! ## What an operation sends -/

namespace Shared

/-- The events of the channel after an operation: the same, one without a
snapshot, or the snapshot of a connected generation. -/
theorem apply_sent (s : Shared F) (timed : TimedOp F) :
    (s.apply timed).sse.sent = s.sse.sent ∨
      ∃ event, (s.apply timed).sse.sent = s.sse.sent ++ [event] ∧
        (event.snapshot = none ∨
          timed.2 = .broadcastSnapshot ∧ s.telemetry.connected = true ∧
            event = ⟨s.telemetry.generation, some (s.telemetry.currentSnapshot timed.1)⟩) := by
  have sending : ∀ event : SnapshotEvent F, (s.sse.send event).sent = s.sse.sent ∨
      (s.sse.send event).sent = s.sse.sent ++ [event] := by
    intro event
    unfold Broadcast.send
    split
    · exact Or.inr rfl
    · exact Or.inl rfl
  obtain ⟨now, op⟩ := timed
  cases op with
  | setConnected connected =>
      simp only [apply, setConnected]
      split
      · rcases sending ⟨s.telemetry.generation + 1, none⟩ with same | added
        · exact Or.inl same
        · exact Or.inr ⟨_, added, Or.inl rfl⟩
      · exact Or.inl rfl
  | broadcastSnapshot =>
      simp only [apply, broadcastSnapshot, Telemetry.expire_connected]
      split
      · exact Or.inl rfl
      · rename_i live
        have up : s.telemetry.connected = true := by
          cases h : s.telemetry.connected <;> simp_all
        rcases sending ⟨s.telemetry.generation, some (s.telemetry.currentSnapshot now)⟩ with
          same | added
        · left
          rw [Telemetry.expire_generation, s.telemetry.expire_currentSnapshot]
          exact same
        · right
          rw [Telemetry.expire_generation, s.telemetry.expire_currentSnapshot]
          exact ⟨_, added, Or.inr ⟨trivial, up, rfl⟩⟩
  | update u => exact Or.inl rfl
  | updateInverter value => exact Or.inl rfl
  | updateSetpointOverride value => exact Or.inl rfl
  | subscribe => exact Or.inl rfl
  | unsubscribe => exact Or.inl rfl

theorem apply_receivers (s : Shared F) {timed : TimedOp F} (write : timed.2.isWrite = true) :
    (s.apply timed).sse.receivers = s.sse.receivers := by
  obtain ⟨now, op⟩ := timed
  cases op with
  | setConnected connected =>
      simp only [apply, setConnected]
      split <;> simp
  | broadcastSnapshot =>
      simp only [apply, broadcastSnapshot]
      split <;> simp
  | subscribe => cases write
  | unsubscribe => cases write
  | _ => rfl

/-- A generation ends by an event that every receiver still has before it. -/
theorem apply_generationIsConnected (s : Shared F) (timed : TimedOp F) {generation : Nat}
    (live : s.generationIsConnected generation = true) (listening : 0 < s.sse.receivers) :
    (s.apply timed).generationIsConnected generation = true ∨
      (s.apply timed).sse.sent.length = s.sse.sent.length + 1 := by
  simp only [generationIsConnected, Bool.and_eq_true, beq_iff_eq] at live ⊢
  by_cases drop : timed.2 = .setConnected false
  · right
    simp [apply, drop, setConnected, live.1, Broadcast.send_sent _ _ listening]
  · left
    have still : s.Disconnects timed.2 = false := by
      unfold Disconnects
      split
      · rename_i same; exact absurd same drop
      · rfl
    rw [s.apply_generation, still, s.apply_connected]
    refine ⟨?_, live.2⟩
    split
    · rename_i connected same
      cases connected with
      | true => rfl
      | false => exact absurd same drop
    · exact live.1

end Shared

/-! ## The invariant of the streams -/

/-- A snapshot that was broadcast in generation `g`, and shows only what was
accepted in `g` before its broadcast. -/
def BroadcastIn (log : List (TimedOp F)) (g : Nat) (snap : Snapshot F) : Prop :=
  ∃ now earlier, ((now, .broadcastSnapshot) :: earlier) <:+ log ∧
    connectedAfter earlier = true ∧ generationAfter earlier = g ∧
    snap = (onConnection (acceptedIn g earlier)).telemetry.currentSnapshot now

theorem BroadcastIn.later {log log' : List (TimedOp F)} {g : Nat} {snap : Snapshot F}
    (sent : BroadcastIn log g snap) (grown : log <:+ log') : BroadcastIn log' g snap := by
  obtain ⟨now, earlier, suffix, rest⟩ := sent
  exact ⟨now, earlier, suffix.trans grown, rest⟩

/-- Every event of the channel that carries a snapshot. -/
def SentInv (log : List (TimedOp F)) (sse : Broadcast (SnapshotEvent F)) : Prop :=
  ∀ event ∈ sse.sent, ∀ snap, event.snapshot = some snap → BroadcastIn log event.generation snap

/-- A live stream of an ended generation has something left to receive. -/
structure StreamInv (log : List (TimedOp F)) (s : Shared F) (st : Stream F) : Prop where
  next_le : st.next ≤ s.sse.sent.length
  held_sent : ∀ event, st.held = some (.item event) → event ∈ s.sse.sent
  yielded : ∀ snap ∈ st.yielded, BroadcastIn log st.generation snap
  awake : st.closed = false → st.done = false → st.held = none →
    s.generationIsConnected st.generation = true ∨ st.next < s.sse.sent.length

structure Live.Inv (l : Live F) : Prop where
  history : l.shared = Shared.after l.log
  receivers : l.shared.sse.receivers = l.openStreams
  sent : SentInv l.log l.shared.sse
  streams : ∀ st ∈ l.streams, StreamInv l.log l.shared st

/-- An operation keeps what the channel holds accounted for. -/
theorem SentInv.apply {log : List (TimedOp F)} (sent : SentInv log (Shared.after log).sse)
    (timed : TimedOp F) : SentInv (timed :: log) ((Shared.after log).apply timed).sse := by
  have old : ∀ event ∈ (Shared.after log).sse.sent, ∀ snap, event.snapshot = some snap →
      BroadcastIn (timed :: log) event.generation snap := fun event found snap shown =>
    (sent event found snap shown).later (List.suffix_cons _ _)
  intro event found snap shown
  rcases (Shared.after log).apply_sent timed with same | ⟨event', added, content⟩
  · rw [same] at found
    exact old event found snap shown
  · rw [added, List.mem_append, List.mem_singleton] at found
    rcases found with earlier | rfl
    · exact old event earlier snap shown
    · rcases content with empty | ⟨broadcasts, up, rfl⟩
      · rw [empty] at shown
        cases shown
      · cases shown
        obtain ⟨now, op⟩ := timed
        obtain rfl := broadcasts
        rw [Shared.after_connected] at up
        refine ⟨now, log, List.suffix_rfl, up, (Shared.after_generation log).symm, ?_⟩
        rw [Shared.after_generation]
        exact (content_after log).currentSnapshot now

/-- An operation keeps a stream that is not touched by it. -/
theorem StreamInv.apply {log : List (TimedOp F)} {s : Shared F} {st : Stream F}
    (inv : StreamInv log s st) (timed : TimedOp F)
    (listening : st.closed = false → 0 < s.sse.receivers) :
    StreamInv (timed :: log) (s.apply timed) st := by
  have grown : s.sse.sent <+: (s.apply timed).sse.sent := by
    rcases s.apply_sent timed with same | ⟨event, added, -⟩
    · rw [same]
    · rw [added]; exact List.prefix_append _ _
  have longer := grown.length_le
  have before := inv.next_le
  refine ⟨by omega, fun event found => grown.subset (inv.held_sent event found), fun snap found =>
    (inv.yielded snap found).later (List.suffix_cons _ _), fun isOpen going waiting => ?_⟩
  rcases inv.awake isOpen going waiting with live | behind
  · rcases s.apply_generationIsConnected timed live (listening isOpen) with still | ended
    · exact Or.inl still
    · right; omega
  · right; omega

namespace Stream

theorem receive_inv {log : List (TimedOp F)} {s : Shared F} {st : Stream F}
    (inv : StreamInv log s st) : StreamInv log s (st.receive s.sse) := by
  unfold receive
  split
  · exact inv
  · split
    · exact inv
    · rename_i received next isPending taken
      have before := inv.next_le
      refine ⟨?_, fun event found => ?_, inv.yielded, fun _ _ waiting => ?_⟩
      · show next ≤ s.sse.sent.length
        have bound := s.sse.recv_le before
        rw [taken] at bound
        exact bound
      · obtain rfl := Option.some.inj found
        exact List.mem_of_getElem? (Broadcast.recv_item taken).1
      · cases waiting

theorem decide_inv {log : List (TimedOp F)} {s : Shared F} {st : Stream F}
    (sent : SentInv log s.sse) (inv : StreamInv log s st) : StreamInv log s (st.decide s) := by
  unfold decide
  split
  · exact inv
  split
  · exact inv
  rename_i received holds
  split
  · rename_i snap passed
    cases received with
    | lagged missed => cases passed
    | pending => cases passed
    | item event =>
        simp only [passes] at passed
        split at passed
        · rename_i current
          simp only [Bool.and_eq_true, beq_iff_eq] at current
          refine ⟨inv.next_le, by simp, fun snap' found => ?_, fun _ _ _ => Or.inl current.1⟩
          rw [List.mem_append, List.mem_singleton] at found
          rcases found with old | rfl
          · exact inv.yielded snap' old
          · have origin := sent event (inv.held_sent event holds) snap' passed
            rw [current.2] at origin
            exact origin
        · cases passed
  · exact ⟨inv.next_le, by simp, inv.yielded, fun _ going => by cases going⟩

end Stream

namespace Live

theorem forall_mem_modify {P : Stream F → Prop} {streams : List (Stream F)} {i : Nat}
    {f : Stream F → Stream F} (all : ∀ st ∈ streams, P st) (kept : ∀ st, P st → P (f st)) :
    ∀ st ∈ streams.modify i f, P st := by
  intro st found
  obtain ⟨j, here⟩ := List.getElem?_of_mem found
  rw [List.getElem?_modify] at here
  cases old : streams[j]? with
  | none => rw [old] at here; cases here
  | some st' =>
      rw [old] at here
      have before := all st' (List.mem_of_getElem? old)
      split at here
      · cases here; exact kept st' before
      · cases here; exact before

/-- A poll opens and closes nothing. -/
theorem countP_modify {p : Stream F → Bool} {f : Stream F → Stream F}
    (same : ∀ st, p (f st) = p st) (streams : List (Stream F)) (i : Nat) :
    (streams.modify i f).countP p = streams.countP p := by
  induction streams generalizing i with
  | nil => simp
  | cons st rest ih =>
      cases i with
      | zero => simp [List.countP_cons, same]
      | succ i => simp [List.countP_cons, ih]

theorem open_pos {l : Live F} {st : Stream F} (found : st ∈ l.streams) (isOpen : st.closed = false) :
    0 < l.openStreams :=
  List.countP_pos_iff.2 ⟨st, found, by simp [isOpen]⟩

theorem act_inv {l : Live F} (inv : l.Inv) (action : Action F) : (l.act action).Inv := by
  have listening : ∀ st ∈ l.streams, st.closed = false → 0 < l.shared.sse.receivers := by
    intro st found isOpen
    rw [inv.receivers]
    exact open_pos found isOpen
  have sentAfter : ∀ timed, SentInv (timed :: l.log) (l.shared.apply timed).sse := by
    intro timed
    have sent := inv.sent
    rw [inv.history] at sent ⊢
    exact sent.apply timed
  have streamsAfter : ∀ timed, ∀ st ∈ l.streams,
      StreamInv (timed :: l.log) (l.shared.apply timed) st := fun timed st found =>
    (inv.streams st found).apply timed (listening st found)
  cases action with
  | run timed =>
      simp only [act]
      split
      · rename_i write
        exact ⟨by rw [inv.history]; rfl, by rw [Shared.apply_receivers _ write]; exact inv.receivers,
          sentAfter timed, streamsAfter timed⟩
      · exact inv
  | events now =>
      simp only [act]
      split
      · exact inv
      · rename_i generation next opened
        have fresh : generation = l.shared.telemetry.generation ∧
            next = l.shared.sse.sent.length ∧ l.shared.telemetry.connected = true := by
          unfold Shared.subscribe at opened
          split at opened
          · rename_i live
            simp only [Bool.and_eq_true] at live
            cases opened
            exact ⟨rfl, rfl, live.1⟩
          · cases opened
        refine ⟨by rw [inv.history]; rfl, ?_, sentAfter _, fun st found => ?_⟩
        · have counted := inv.receivers
          simp only [openStreams, List.countP_append, List.countP_cons, List.countP_nil] at counted ⊢
          simp [Shared.apply, Broadcast.subscribe, counted]
        · rw [List.mem_append, List.mem_singleton] at found
          rcases found with old | rfl
          · exact streamsAfter _ st old
          · refine ⟨?_, by simp, by simp, fun _ _ _ => Or.inl ?_⟩
            · show next ≤ _
              rw [fresh.2.1]
              exact le_rfl
            · show Shared.generationIsConnected _ generation = true
              rw [fresh.1]
              simp [Shared.generationIsConnected, Shared.apply, fresh.2.2]
  | receive i =>
      refine ⟨inv.history, ?_, inv.sent, forall_mem_modify inv.streams fun st => Stream.receive_inv⟩
      rw [openStreams, act, countP_modify]
      · exact inv.receivers
      · intro st
        unfold Stream.receive
        split
        · rfl
        · split <;> rfl
  | decide i =>
      refine ⟨inv.history, ?_, inv.sent,
        forall_mem_modify inv.streams fun st => Stream.decide_inv inv.sent⟩
      rw [openStreams, act, countP_modify]
      · exact inv.receivers
      · intro st
        unfold Stream.decide
        split
        · rfl
        · split
          · rfl
          · split <;> rfl
  | close now i =>
      simp only [act]
      split
      · exact inv
      · rename_i st here
        split
        · exact inv
        · rename_i isOpen
          have found := List.mem_of_getElem? here
          refine ⟨by rw [inv.history]; rfl, ?_, sentAfter _, fun st' found' => ?_⟩
          · have counted := inv.receivers
            obtain ⟨within, same⟩ := List.getElem?_eq_some_iff.1 here
            have closes := List.countP_set (p := fun st : Stream F => !st.closed)
              (a := { st with closed := true }) within
            rw [same] at closes
            simp only [isOpen, Bool.not_false, Bool.not_true, if_true, Bool.false_eq_true,
              if_false, Nat.add_zero] at closes
            simp only [openStreams] at counted ⊢
            rw [closes, ← counted]
            rfl
          · rcases List.mem_or_eq_of_mem_set found' with old | rfl
            · exact streamsAfter _ st' old
            · have kept := streamsAfter (now, .unsubscribe) st found
              exact ⟨kept.next_le, kept.held_sent, kept.yielded, fun shut => by cases shut⟩

theorem run_inv (actions : List (Action F)) : (({} : Live F).run actions).Inv := by
  have start : ({} : Live F).Inv :=
    ⟨rfl, rfl, (fun _ found => by cases found), (fun _ found => by cases found)⟩
  have every : ∀ l : Live F, l.Inv → (l.run actions).Inv := by
    induction actions with
    | nil => exact fun _ inv => inv
    | cons action rest ih => exact fun l inv => ih _ (act_inv inv action)
  exact every _ start

/-! ## Streams that end -/

/-- What an ended stream keeps: its generation and what it yielded. -/
def Silent (st st' : Stream F) : Prop :=
  st'.generation = st.generation ∧ st'.yielded = st.yielded ∧ (st.done = true → st'.done = true)

theorem generation_le_act (l : Live F) (action : Action F) :
    l.shared.telemetry.generation ≤ (l.act action).shared.telemetry.generation := by
  have grows : ∀ timed, l.shared.telemetry.generation ≤
      (l.shared.apply timed).telemetry.generation := fun timed =>
    l.shared.generation_le_runOps [timed]
  cases action with
  | run timed =>
      simp only [act]
      split
      · exact grows timed
      · exact le_rfl
  | events now =>
      simp only [act]
      split
      · exact le_rfl
      · exact grows _
  | receive i => exact le_rfl
  | decide i => exact le_rfl
  | close now i =>
      simp only [act]
      split
      · exact le_rfl
      · split
        · exact le_rfl
        · exact grows _

theorem generationIsConnected_ended {s : Shared F} {g : Nat}
    (later : g < s.telemetry.generation) : s.generationIsConnected g = false := by
  have ended : (s.telemetry.generation == g) = false := by
    rw [beq_eq_false_iff_ne]
    omega
  rw [Shared.generationIsConnected, ended, Bool.and_false]

theorem passes_ended {s : Shared F} {g : Nat} (later : g < s.telemetry.generation)
    (received : Received (SnapshotEvent F)) : Stream.passes s g received = none := by
  cases received with
  | lagged missed => rfl
  | pending => rfl
  | item event => simp [Stream.passes, generationIsConnected_ended later]

theorem decide_silent {s : Shared F} {st : Stream F}
    (ended : st.done = true ∨ st.generation < s.telemetry.generation) :
    Silent st (st.decide s) := by
  unfold Stream.decide
  split
  · exact ⟨rfl, rfl, id⟩
  · rename_i going
    simp only [Bool.or_eq_true, not_or] at going
    have later : st.generation < s.telemetry.generation := ended.resolve_left going.1
    split
    · exact ⟨rfl, rfl, id⟩
    · rw [passes_ended later]
      exact ⟨rfl, rfl, fun _ => rfl⟩

theorem receive_silent (sse : Broadcast (SnapshotEvent F)) (st : Stream F) :
    Silent st (st.receive sse) := by
  unfold Stream.receive
  split
  · exact ⟨rfl, rfl, id⟩
  · split <;> exact ⟨rfl, rfl, id⟩

/-- An ended stream, or one of an ended generation, yields nothing more. -/
theorem act_silent {l : Live F} {i : Nat} {st : Stream F} (here : l.streams[i]? = some st)
    (ended : st.done = true ∨ st.generation < l.shared.telemetry.generation)
    (action : Action F) : ∃ st', (l.act action).streams[i]? = some st' ∧ Silent st st' := by
  have same : Silent st st := ⟨rfl, rfl, id⟩
  have modified : ∀ (f : Stream F → Stream F) (j : Nat), Silent st (f st) →
      ∃ st', (l.streams.modify j f)[i]? = some st' ∧ Silent st st' := by
    intro f j silent
    rw [List.getElem?_modify, here]
    by_cases hit : j = i
    · exact ⟨f st, by simp [hit], silent⟩
    · exact ⟨st, by simp [hit], same⟩
  cases action with
  | run timed =>
      refine ⟨st, ?_, same⟩
      simp only [act]
      split <;> exact here
  | events now =>
      refine ⟨st, ?_, same⟩
      simp only [act]
      split
      · exact here
      · show (l.streams ++ _)[i]? = some st
        obtain ⟨within, -⟩ := List.getElem?_eq_some_iff.1 here
        rw [List.getElem?_append_left within, here]
  | receive j => exact modified _ j (receive_silent _ st)
  | decide j => exact modified _ j (decide_silent ended)
  | close now j =>
      simp only [act]
      split
      · exact ⟨st, here, same⟩
      · rename_i other there
        split
        · exact ⟨st, here, same⟩
        · show ∃ st', (l.streams.set j _)[i]? = some st' ∧ Silent st st'
          by_cases hit : j = i
          · subst hit
            rw [here] at there
            cases there
            obtain ⟨within, -⟩ := List.getElem?_eq_some_iff.1 here
            exact ⟨_, List.getElem?_set_self within, rfl, rfl, id⟩
          · rw [List.getElem?_set_ne hit]
            exact ⟨st, here, same⟩

theorem run_silent (actions : List (Action F)) {l : Live F} {i : Nat} {st : Stream F}
    (here : l.streams[i]? = some st)
    (ended : st.done = true ∨ st.generation < l.shared.telemetry.generation) :
    ∃ st', (l.run actions).streams[i]? = some st' ∧ Silent st st' := by
  induction actions generalizing l st with
  | nil => exact ⟨st, here, rfl, rfl, id⟩
  | cons action rest ih =>
      obtain ⟨st₁, here₁, same₁, kept₁, done₁⟩ := act_silent here ended action
      have ended₁ : st₁.done = true ∨
          st₁.generation < (l.act action).shared.telemetry.generation := by
        rcases ended with done | later
        · exact Or.inl (done₁ done)
        · have grown := l.generation_le_act action
          right; omega
      obtain ⟨st₂, here₂, same₂, kept₂, done₂⟩ := ih here₁ ended₁
      exact ⟨st₂, here₂, same₂.trans same₁, kept₂.trans kept₁, done₂ ∘ done₁⟩

/-- The channel overwrote an event the stream has not received, or told it so. -/
def Lost (s : Shared F) (st : Stream F) : Prop :=
  (∃ missed, st.held = some (.lagged missed)) ∨
    st.held = none ∧ st.next + s.sse.capacity < s.sse.sent.length

/-- One poll ends a stream whose generation ended, or that lost an event. -/
theorem poll_ends {log : List (TimedOp F)} {s : Shared F} {st : Stream F}
    (inv : StreamInv log s st) (isOpen : st.closed = false)
    (ended : st.generation < s.telemetry.generation ∨ Lost s st) :
    ((st.receive s.sse).decide s).done = true := by
  cases going : st.done with
  | true => simp [Stream.receive, Stream.decide, going]
  | false =>
      cases holds : st.held with
      | some received =>
          have refused : Stream.passes s st.generation received = none := by
            rcases ended with later | ⟨missed, lagged⟩ | ⟨nothing, -⟩
            · exact passes_ended later _
            · rw [holds] at lagged
              cases lagged
              rfl
            · rw [holds] at nothing
              cases nothing
          simp [Stream.receive, Stream.decide, going, isOpen, holds, refused]
      | none =>
          have behind : st.next < s.sse.sent.length := by
            rcases ended with later | lost
            · rcases inv.awake isOpen going holds with live | behind
              · rw [generationIsConnected_ended later] at live
                cases live
              · exact behind
            · rcases lost with ⟨missed, lagged⟩ | ⟨-, beyond⟩
              · rw [holds] at lagged
                cases lagged
              · omega
          have notPending : (s.sse.recv st.next).1 ≠ .pending := by
            rw [ne_eq, Broadcast.recv_pending_iff]
            omega
          have refused : Stream.passes s st.generation (s.sse.recv st.next).1 = none := by
            rcases ended with later | lost
            · exact passes_ended later _
            · rcases lost with ⟨missed, lagged⟩ | ⟨-, beyond⟩
              · rw [holds] at lagged
                cases lagged
              · rw [Broadcast.recv, if_pos beyond]
                rfl
          rcases taken : s.sse.recv st.next with ⟨received, after⟩
          rw [taken] at notPending refused
          have takes : st.receive s.sse = { st with held := some received, next := after } := by
            cases received with
            | pending => exact absurd rfl notPending
            | lagged missed => simp [Stream.receive, going, isOpen, holds, taken]
            | item event => simp [Stream.receive, going, isOpen, holds, taken]
          rw [takes]
          simp only [Stream.decide, going, isOpen, Bool.or_false, Bool.false_eq_true, if_false,
            refused]

/-- **Streams are isolated by generation.**  Whatever the interleaving, every
snapshot a stream yielded was broadcast in its own generation and is what the
operations accepted in that generation alone produce.  Once a disconnection
ended the generation, or the stream ended, it never yields again; and it ends at
the first poll after that disconnection or after it lost an event. -/
theorem stream_isolated (actions : List (Action F)) (i : Nat) (st : Stream F)
    (opened : (({} : Live F).run actions).streams[i]? = some st) :
    (∀ snap ∈ st.yielded, BroadcastIn (({} : Live F).run actions).log st.generation snap) ∧
    (st.done = true ∨ st.generation < generationAfter (({} : Live F).run actions).log →
      ∀ later, ∃ st', ((({} : Live F).run actions).run later).streams[i]? = some st' ∧
        Silent st st') ∧
    (st.closed = false →
      st.generation < generationAfter (({} : Live F).run actions).log ∨
        Lost (({} : Live F).run actions).shared st →
      ∃ st', ((({} : Live F).run actions).run [.receive i, .decide i]).streams[i]? = some st' ∧
        st'.done = true) := by
  have inv := run_inv actions
  have streamInv := inv.streams st (List.mem_of_getElem? opened)
  have generation : (({} : Live F).run actions).shared.telemetry.generation =
      generationAfter (({} : Live F).run actions).log := by
    rw [inv.history, Shared.after_generation]
  rw [← generation]
  refine ⟨streamInv.yielded, fun ended later => run_silent later opened ended,
    fun isOpen ended => ?_⟩
  refine ⟨(st.receive (({} : Live F).run actions).shared.sse).decide
    (({} : Live F).run actions).shared, ?_, poll_ends streamInv isOpen ended⟩
  show (((({} : Live F).run actions).streams.modify i _).modify i _)[i]? = _
  rw [List.getElem?_modify, List.getElem?_modify, opened]
  simp only [if_true]
  rfl

/-- A stream over one leaf: it yields once, its connection drops, and the next
poll ends it. -/
theorem stream_isolated_drop :
    ∃ st', ((({} : Live Unit).run [.run (0, .setConnected true),
        .run (0, .update ⟨"battery", "1/Soc", .number (.posInt 80), by decide⟩), .events 0,
        .run (1, .update ⟨"battery", "1/Soc", .number (.posInt 81), by decide⟩),
        .run (2, .broadcastSnapshot), .receive 0, .decide 0,
        .run (3, .setConnected false)]).run [.receive 0, .decide 0]).streams[0]? = some st' ∧
      st'.done = true :=
  (stream_isolated [.run (0, .setConnected true),
      .run (0, .update ⟨"battery", "1/Soc", .number (.posInt 80), by decide⟩), .events 0,
      .run (1, .update ⟨"battery", "1/Soc", .number (.posInt 81), by decide⟩),
      .run (2, .broadcastSnapshot), .receive 0, .decide 0,
      .run (3, .setConnected false)] 0 _ rfl).2.2 (by decide) (Or.inl (by decide))

end Live

end InverterGateway.Gateway

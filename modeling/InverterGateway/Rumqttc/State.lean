/-
# Rumqttc.State — the session state of the MQTT client

What a session remembers between packets: the publishes that wait for an
acknowledgement, in a table indexed by packet identifier, one publish that met a
taken identifier (`collision`), and the events not yet yielded.  A handler
returns the new state together with the packet to put on the network, and the
state keeps its changes when the handler fails.

`clean` empties the tables when the connection is lost.  It keeps `collision` and
`events`; with the tables empty a kept collision is inert (`handleIncoming_idle`),
because no acknowledgement is accepted any more.
-/
import InverterGateway.Rumqttc.Packet

namespace InverterGateway.Rumqttc

set_option autoImplicit false

structure MqttState where
  awaitPingresp : Bool
  collisionPingCount : Nat
  lastPkid : Nat
  lastPuback : Nat
  inflight : Nat
  maxInflight : Nat
  /-- Slot 0 is unused: 0 is not a packet identifier. -/
  outgoingPub : List (Option Publish)
  outgoingRel : Nat → Bool
  incomingPub : Nat → Bool
  collision : Option Publish
  events : List Event
  manualAcks : Bool

inductive StateError where
  | unsolicited (pkid : Nat)
  | awaitPingResp
  | wrongPacket
  | collisionTimeout
  | emptySubscription
  deriving DecidableEq

/-- What a handler answers: an error, or the packet to send, if any. -/
abbrev Outcome := Except StateError (Option Packet)

namespace Outcome

/-- The packets an outcome puts on the network. -/
def packets : Outcome → List Packet
  | .ok (some packet) => [packet]
  | _ => []

@[simp] theorem packets_some (packet : Packet) : packets (.ok (some packet)) = [packet] := rfl

@[simp] theorem packets_none : packets (.ok none) = [] := rfl

@[simp] theorem packets_error (e : StateError) : packets (.error e) = [] := rfl

end Outcome

namespace MqttState

def new (maxInflight : Nat) (manualAcks : Bool) : MqttState where
  awaitPingresp := false
  collisionPingCount := 0
  lastPkid := 0
  lastPuback := 0
  inflight := 0
  maxInflight := maxInflight
  outgoingPub := List.replicate (maxInflight + 1) none
  outgoingRel := fun _ => false
  incomingPub := fun _ => false
  collision := none
  events := []
  manualAcks := manualAcks

/-! ## Losing the connection -/

/-- The packet identifiers whose release is not confirmed, in order. -/
def releases (s : MqttState) : List Nat :=
  (List.range (s.maxInflight + 1)).filter s.outgoingRel

/-- The unacknowledged publishes, from the last acknowledged identifier on, then
the unconfirmed releases: what `clean` returns. -/
def unacknowledged (s : MqttState) : List Request :=
  ((s.outgoingPub.drop (s.lastPuback + 1) ++ s.outgoingPub.take (s.lastPuback + 1)).filterMap
    fun slot => slot.map Request.publish) ++ s.releases.map Request.pubRel

/-- `MqttState::clean`: the state it leaves. -/
def clean (s : MqttState) : MqttState :=
  { s with
    outgoingPub := s.outgoingPub.map fun _ => none
    outgoingRel := fun _ => false
    incomingPub := fun _ => false
    awaitPingresp := false
    collisionPingCount := 0
    inflight := 0 }

/-! ## Sending -/

/-- Note what is sent, and send it. -/
def emit (s : MqttState) (note : Outgoing) (packet : Packet) : MqttState × Outcome :=
  ({ s with events := s.events ++ [.outgoing note] }, .ok (some packet))

/-- `next_pkid`: identifiers run up to `maxInflight` and start again. -/
def nextPkid (s : MqttState) : MqttState × Nat :=
  ({ s with lastPkid := if s.lastPkid + 1 = s.maxInflight then 0 else s.lastPkid + 1 },
    s.lastPkid + 1)

/-- Keep an identifier, or draw one for 0. -/
def assignPkid (s : MqttState) (pkid : Nat) : MqttState × Nat :=
  if pkid = 0 then s.nextPkid else (s, pkid)

def outgoingPublish (s : MqttState) (publish : Publish) : MqttState × Outcome :=
  if publish.qos = .atMostOnce then s.emit (.publish publish.pkid) (.publish publish)
  else
    let assigned := s.assignPkid publish.pkid
    let s := assigned.1
    let publish := { publish with pkid := assigned.2 }
    match s.outgoingPub[publish.pkid]? with
    | none => (s, .error (.unsolicited publish.pkid))
    | some (some _) =>
        ({ s with
            collision := some publish
            events := s.events ++ [.outgoing (.awaitAck publish.pkid)] }, .ok none)
    | some none =>
        emit
          { s with
            outgoingPub := s.outgoingPub.set publish.pkid (some publish)
            inflight := s.inflight + 1 }
          (.publish publish.pkid) (.publish publish)

/-- `save_pubrel` and `outgoing_pubrel`. -/
def outgoingPubrel (s : MqttState) (pkid : Nat) : MqttState × Outcome :=
  let assigned := s.assignPkid pkid
  emit
    { assigned.1 with
      outgoingRel := fun n => n == assigned.2 || assigned.1.outgoingRel n
      inflight := assigned.1.inflight + 1 }
    (.pubRel assigned.2) (.pubRel assigned.2)

/-- Pings sent while a collision waits are counted. -/
def countCollisionPing (s : MqttState) : MqttState :=
  if s.collision.isSome then { s with collisionPingCount := s.collisionPingCount + 1 } else s

def outgoingPing (s : MqttState) : MqttState × Outcome :=
  let s := s.countCollisionPing
  if s.collision.isSome && decide (2 ≤ s.collisionPingCount) then (s, .error .collisionTimeout)
  else if s.awaitPingresp then (s, .error .awaitPingResp)
  else emit { s with awaitPingresp := true } .pingReq .pingReq

def outgoingSubscribe (s : MqttState) (subscription : Subscribe) : MqttState × Outcome :=
  if subscription.filters.isEmpty then (s, .error .emptySubscription)
  else
    s.nextPkid.1.emit (.subscribe s.nextPkid.2) (.subscribe { subscription with pkid := s.nextPkid.2 })

def outgoingUnsubscribe (s : MqttState) (unsub : Unsubscribe) : MqttState × Outcome :=
  s.nextPkid.1.emit (.unsubscribe s.nextPkid.2) (.unsubscribe { unsub with pkid := s.nextPkid.2 })

/-- `handle_outgoing_packet`. -/
def handleOutgoing (s : MqttState) : Request → MqttState × Outcome
  | .publish publish => s.outgoingPublish publish
  | .pubRel pkid => s.outgoingPubrel pkid
  | .subscribe subscription => s.outgoingSubscribe subscription
  | .unsubscribe unsub => s.outgoingUnsubscribe unsub
  | .pingReq => s.outgoingPing
  | .disconnect => s.emit .disconnect .disconnect
  | .pubAck pkid => s.emit (.pubAck pkid) (.pubAck pkid)
  | .pubRec pkid => s.emit (.pubRec pkid) (.pubRec pkid)

/-! ## Receiving -/

def handleIncomingPublish (s : MqttState) (publish : Publish) : MqttState × Outcome :=
  match publish.qos with
  | .atMostOnce => (s, .ok none)
  | .atLeastOnce =>
      if s.manualAcks then (s, .ok none) else s.emit (.pubAck publish.pkid) (.pubAck publish.pkid)
  | .exactlyOnce =>
      let s := { s with incomingPub := fun n => n == publish.pkid || s.incomingPub n }
      if s.manualAcks then (s, .ok none) else s.emit (.pubRec publish.pkid) (.pubRec publish.pkid)

/-- `check_collision`: the collided publish, when this identifier was its own. -/
def checkCollision (s : MqttState) (pkid : Nat) : Option Publish :=
  s.collision.filter fun publish => publish.pkid == pkid

def handleIncomingPuback (s : MqttState) (pkid : Nat) : MqttState × Outcome :=
  match s.outgoingPub[pkid]? with
  | none => (s, .error (.unsolicited pkid))
  | some none => ({ s with lastPuback := pkid }, .error (.unsolicited pkid))
  | some (some _) =>
      let s :=
        { s with
          lastPuback := pkid
          outgoingPub := s.outgoingPub.set pkid none
          inflight := s.inflight - 1 }
      match s.checkCollision pkid with
      | none => (s, .ok none)
      | some publish =>
          emit
            { s with
              collision := none
              collisionPingCount := 0
              outgoingPub := s.outgoingPub.set publish.pkid (some publish)
              inflight := s.inflight + 1 }
            (.publish publish.pkid) (.publish publish)

def handleIncomingPubrec (s : MqttState) (pkid : Nat) : MqttState × Outcome :=
  match s.outgoingPub[pkid]? with
  | some (some _) =>
      emit
        { s with
          outgoingPub := s.outgoingPub.set pkid none
          outgoingRel := fun n => n == pkid || s.outgoingRel n }
        (.pubRel pkid) (.pubRel pkid)
  | _ => (s, .error (.unsolicited pkid))

def handleIncomingPubrel (s : MqttState) (pkid : Nat) : MqttState × Outcome :=
  if s.incomingPub pkid then
    emit { s with incomingPub := fun n => n != pkid && s.incomingPub n } (.pubComp pkid) (.pubComp pkid)
  else (s, .error (.unsolicited pkid))

/-- The collided publish is sent here without entering the table. -/
def handleIncomingPubcomp (s : MqttState) (pkid : Nat) : MqttState × Outcome :=
  if s.outgoingRel pkid then
    let s :=
      { s with
        outgoingRel := fun n => n != pkid && s.outgoingRel n
        inflight := s.inflight - 1 }
    match s.checkCollision pkid with
    | none => (s, .ok none)
    | some publish =>
        emit { s with collision := none, collisionPingCount := 0 } (.publish publish.pkid)
          (.publish publish)
  else (s, .error (.unsolicited pkid))

/-- The handlers behind `handle_incoming_packet`, by packet. -/
def react (s : MqttState) : Packet → MqttState × Outcome
  | .pingResp => ({ s with awaitPingresp := false }, .ok none)
  | .publish publish => s.handleIncomingPublish publish
  | .subAck => (s, .ok none)
  | .unsubAck => (s, .ok none)
  | .pubAck pkid => s.handleIncomingPuback pkid
  | .pubRec pkid => s.handleIncomingPubrec pkid
  | .pubRel pkid => s.handleIncomingPubrel pkid
  | .pubComp pkid => s.handleIncomingPubcomp pkid
  | _ => (s, .error .wrongPacket)

/-- `handle_incoming_packet`: the packet becomes an event before it is handled. -/
def handleIncoming (s : MqttState) (packet : Packet) : MqttState × Outcome :=
  react { s with events := s.events ++ [.incoming packet] } packet

/-! ## What drawing an identifier and counting a ping keep -/

@[simp] theorem assignPkid_events (s : MqttState) (pkid : Nat) :
    (s.assignPkid pkid).1.events = s.events := by
  unfold assignPkid; split <;> rfl

@[simp] theorem assignPkid_collision (s : MqttState) (pkid : Nat) :
    (s.assignPkid pkid).1.collision = s.collision := by
  unfold assignPkid; split <;> rfl

@[simp] theorem assignPkid_outgoingPub (s : MqttState) (pkid : Nat) :
    (s.assignPkid pkid).1.outgoingPub = s.outgoingPub := by
  unfold assignPkid; split <;> rfl

@[simp] theorem countCollisionPing_events (s : MqttState) :
    s.countCollisionPing.events = s.events := by
  unfold countCollisionPing; split <;> rfl

@[simp] theorem countCollisionPing_collision (s : MqttState) :
    s.countCollisionPing.collision = s.collision := by
  unfold countCollisionPing; split <;> rfl

/-! ## Events -/

/-- The state only added notes to its events. -/
def Noted (s s' : MqttState) : Prop :=
  ∃ notes : List Outgoing, s'.events = s.events ++ notes.map Event.outgoing

theorem Noted.rfl {s s' : MqttState} (same : s'.events = s.events) : Noted s s' :=
  ⟨[], by simpa using same⟩

theorem Noted.one {s s' : MqttState} (note : Outgoing)
    (added : s'.events = s.events ++ [.outgoing note]) : Noted s s' :=
  ⟨[note], added⟩

theorem outgoingPublish_noted (s : MqttState) (publish : Publish) :
    Noted s (s.outgoingPublish publish).1 := by
  unfold outgoingPublish
  split
  · exact .one _ rfl
  · dsimp only
    split
    · exact .rfl (s.assignPkid_events _)
    · exact .one (.awaitAck (s.assignPkid publish.pkid).2) (by rw [assignPkid_events])
    · exact .one (.publish (s.assignPkid publish.pkid).2) (by simp only [emit, assignPkid_events])

theorem outgoingPing_noted (s : MqttState) : Noted s s.outgoingPing.1 := by
  unfold outgoingPing
  dsimp only
  split
  · exact .rfl s.countCollisionPing_events
  split
  · exact .rfl s.countCollisionPing_events
  · exact .one .pingReq (by simp only [emit, countCollisionPing_events])

theorem handleOutgoing_noted (s : MqttState) (request : Request) :
    Noted s (s.handleOutgoing request).1 := by
  cases request with
  | publish publish => exact s.outgoingPublish_noted publish
  | pingReq => exact s.outgoingPing_noted
  | pubRel pkid =>
      exact .one (.pubRel (s.assignPkid pkid).2)
        (by simp only [handleOutgoing, outgoingPubrel, emit, assignPkid_events])
  | subscribe subscription =>
      simp only [handleOutgoing, outgoingSubscribe]
      split
      · exact .rfl rfl
      · exact .one _ rfl
  | unsubscribe unsub => exact .one _ rfl
  | disconnect => exact .one _ rfl
  | pubAck pkid => exact .one _ rfl
  | pubRec pkid => exact .one _ rfl

theorem react_noted (s : MqttState) (packet : Packet) : Noted s (s.react packet).1 := by
  cases packet with
  | publish publish =>
      simp only [react, handleIncomingPublish]
      cases publish.qos with
      | atMostOnce => exact .rfl rfl
      | atLeastOnce => dsimp only; split <;> [exact .rfl rfl; exact .one _ rfl]
      | exactlyOnce => dsimp only; split <;> [exact .rfl rfl; exact .one _ rfl]
  | pubAck pkid =>
      simp only [react, handleIncomingPuback]
      split
      · exact .rfl rfl
      · exact .rfl rfl
      · split <;> [exact .rfl rfl; exact .one _ rfl]
  | pubRec pkid =>
      simp only [react, handleIncomingPubrec]
      split <;> [exact .one _ rfl; exact .rfl rfl]
  | pubRel pkid =>
      simp only [react, handleIncomingPubrel]
      split <;> [exact .one _ rfl; exact .rfl rfl]
  | pubComp pkid =>
      simp only [react, handleIncomingPubcomp]
      split
      · split <;> [exact .rfl rfl; exact .one _ rfl]
      · exact .rfl rfl
  | _ => exact .rfl rfl

/-- A handled packet is one event, followed by notes. -/
theorem handleIncoming_events (s : MqttState) (packet : Packet) :
    ∃ notes : List Outgoing, (s.handleIncoming packet).1.events =
      s.events ++ .incoming packet :: notes.map Event.outgoing := by
  obtain ⟨notes, added⟩ := react_noted { s with events := s.events ++ [.incoming packet] } packet
  exact ⟨notes, by rw [handleIncoming, added, List.append_assoc]; rfl⟩

/-- A received publish is never an error. -/
theorem handleIncoming_publish (s : MqttState) (publish : Publish) :
    ∃ reply, (s.handleIncoming (.publish publish)).2 = .ok reply := by
  simp only [handleIncoming, react, handleIncomingPublish]
  cases publish.qos with
  | atMostOnce => exact ⟨_, rfl⟩
  | atLeastOnce => dsimp only; split <;> exact ⟨_, rfl⟩
  | exactlyOnce => dsimp only; split <;> exact ⟨_, rfl⟩

/-! ## Where a publish goes -/

/-- Sending a publish puts it on the network, makes it the collision, or fails. -/
theorem outgoingPublish_cases (s : MqttState) (publish : Publish) :
    ∃ pkid,
      ((s.outgoingPublish publish).2 = .ok (some (.publish { publish with pkid := pkid })) ∧
        (s.outgoingPublish publish).1.collision = s.collision) ∨
      ((s.outgoingPublish publish).2 = .ok none ∧
        (s.outgoingPublish publish).1.collision = some { publish with pkid := pkid }) ∨
      ((∃ e, (s.outgoingPublish publish).2 = .error e) ∧
        (s.outgoingPublish publish).1.collision = s.collision ∧
        s.outgoingPub[pkid]? = none ∧ (publish.pkid = 0 → pkid = s.lastPkid + 1)) := by
  unfold outgoingPublish
  split
  · exact ⟨publish.pkid, Or.inl ⟨rfl, rfl⟩⟩
  · refine ⟨(s.assignPkid publish.pkid).2, ?_⟩
    dsimp only
    split
    · rename_i missing
      rw [assignPkid_outgoingPub] at missing
      refine Or.inr (Or.inr ⟨⟨_, rfl⟩, s.assignPkid_collision _, missing, fun fresh => ?_⟩)
      rw [assignPkid, if_pos fresh]
      rfl
    · exact Or.inr (Or.inl ⟨rfl, rfl⟩)
    · exact Or.inl ⟨rfl, s.assignPkid_collision _⟩

/-- A request that is no publish sends none and leaves the collision alone. -/
theorem handleOutgoing_other (s : MqttState) {request : Request}
    (other : ∀ p, request ≠ .publish p) :
    (s.handleOutgoing request).1.collision = s.collision ∧
      ∀ p, .publish p ∉ (s.handleOutgoing request).2.packets := by
  cases request with
  | publish p => exact absurd rfl (other p)
  | pubRel pkid =>
      simp only [handleOutgoing, outgoingPubrel, emit]
      exact ⟨s.assignPkid_collision _, by simp⟩
  | subscribe subscription =>
      simp only [handleOutgoing, outgoingSubscribe]
      split
      · exact ⟨rfl, by simp⟩
      · exact ⟨rfl, by simp [emit]⟩
  | pingReq =>
      simp only [handleOutgoing, outgoingPing]
      split
      · exact ⟨s.countCollisionPing_collision, by simp⟩
      split
      · exact ⟨s.countCollisionPing_collision, by simp⟩
      · exact ⟨by simp only [emit, countCollisionPing_collision], by simp [emit]⟩
  | unsubscribe unsub => exact ⟨rfl, by simp [handleOutgoing, outgoingUnsubscribe, emit]⟩
  | disconnect => exact ⟨rfl, by simp [handleOutgoing, emit]⟩
  | pubAck pkid => exact ⟨rfl, by simp [handleOutgoing, emit]⟩
  | pubRec pkid => exact ⟨rfl, by simp [handleOutgoing, emit]⟩

/-- A refused request leaves the collision alone. -/
theorem handleOutgoing_rejected {s : MqttState} {request : Request} {e : StateError}
    (rejected : (s.handleOutgoing request).2 = .error e) :
    (s.handleOutgoing request).1.collision = s.collision := by
  by_cases isPublish : ∃ publish, request = .publish publish
  · obtain ⟨publish, rfl⟩ := isPublish
    simp only [handleOutgoing] at rejected ⊢
    obtain ⟨pkid, ⟨-, kept⟩ | ⟨sent, -⟩ | ⟨-, kept, -⟩⟩ := s.outgoingPublish_cases publish
    · exact kept
    · rw [sent] at rejected
      cases rejected
    · exact kept
  · exact (s.handleOutgoing_other fun p same => isPublish ⟨p, same⟩).1

theorem checkCollision_eq_some {s : MqttState} {pkid : Nat} {publish : Publish}
    (hit : s.checkCollision pkid = some publish) : s.collision = some publish :=
  (Option.filter_eq_some_iff.1 hit).1

/-- No slot waits for an acknowledgement. -/
structure Idle (s : MqttState) : Prop where
  slots : ∀ slot ∈ s.outgoingPub, slot = none
  rels : ∀ pkid, s.outgoingRel pkid = false

theorem Idle.slot {s : MqttState} (idle : s.Idle) (pkid : Nat) (p : Publish) :
    s.outgoingPub[pkid]? ≠ some (some p) := fun held =>
  absurd (idle.slots _ (List.mem_of_getElem? held)) (by simp)

/-- **What an incoming packet does to the collision**: it stays, and no publish
is sent, or it is sent, and then some slot waited for an acknowledgement. -/
theorem react_cases (s : MqttState) (packet : Packet) :
    ((s.react packet).1.collision = s.collision ∧
        ∀ p, .publish p ∉ (s.react packet).2.packets) ∨
      (¬ s.Idle ∧ ∃ p, s.collision = some p ∧ (s.react packet).1.collision = none ∧
        (s.react packet).2 = .ok (some (.publish p))) := by
  cases packet with
  | publish publish =>
      left
      simp only [react, handleIncomingPublish]
      cases publish.qos with
      | atMostOnce => exact ⟨rfl, by simp⟩
      | atLeastOnce => dsimp only; split <;> exact ⟨rfl, by simp [emit]⟩
      | exactlyOnce => dsimp only; split <;> exact ⟨rfl, by simp [emit]⟩
  | pubAck pkid =>
      simp only [react, handleIncomingPuback]
      split
      · exact Or.inl ⟨rfl, by simp⟩
      · exact Or.inl ⟨rfl, by simp⟩
      · rename_i held
        split
        · exact Or.inl ⟨rfl, by simp⟩
        · rename_i hit
          exact Or.inr ⟨fun idle => idle.slot _ _ held, _, checkCollision_eq_some hit, rfl, rfl⟩
  | pubRec pkid =>
      left
      simp only [react, handleIncomingPubrec]
      split <;> exact ⟨rfl, by simp [emit]⟩
  | pubRel pkid =>
      left
      simp only [react, handleIncomingPubrel]
      split <;> exact ⟨rfl, by simp [emit]⟩
  | pubComp pkid =>
      simp only [react, handleIncomingPubcomp]
      split
      · rename_i released
        split
        · exact Or.inl ⟨rfl, by simp⟩
        · rename_i hit
          refine Or.inr ⟨fun idle => ?_, _, checkCollision_eq_some hit, rfl, rfl⟩
          rw [idle.rels pkid] at released
          cases released
      · exact Or.inl ⟨rfl, by simp⟩
  | _ => exact Or.inl ⟨rfl, by simp [react]⟩

theorem react_idle {s : MqttState} (idle : s.Idle) (packet : Packet) : (s.react packet).1.Idle := by
  cases packet with
  | publish publish =>
      simp only [react, handleIncomingPublish]
      cases publish.qos with
      | atMostOnce => exact idle
      | atLeastOnce => dsimp only; split <;> exact ⟨idle.slots, idle.rels⟩
      | exactlyOnce => dsimp only; split <;> exact ⟨idle.slots, idle.rels⟩
  | pubAck pkid =>
      simp only [react, handleIncomingPuback]
      split
      · exact idle
      · exact ⟨idle.slots, idle.rels⟩
      · rename_i held
        exact absurd held (idle.slot _ _)
  | pubRec pkid =>
      simp only [react, handleIncomingPubrec]
      split
      · rename_i held
        exact absurd held (idle.slot _ _)
      · exact idle
  | pubRel pkid =>
      simp only [react, handleIncomingPubrel]
      split <;> exact ⟨idle.slots, idle.rels⟩
  | pubComp pkid =>
      simp only [react, handleIncomingPubcomp, idle.rels pkid]
      exact ⟨idle.slots, idle.rels⟩
  | _ => exact ⟨idle.slots, idle.rels⟩

/-- **An idle session only listens**: no acknowledgement is accepted, so the
collision stays where it is and no publish is sent. -/
theorem handleIncoming_idle {s : MqttState} (idle : s.Idle) (packet : Packet) :
    (s.handleIncoming packet).1.Idle ∧
      (s.handleIncoming packet).1.collision = s.collision ∧
      ∀ p, .publish p ∉ (s.handleIncoming packet).2.packets := by
  have idle' : Idle { s with events := s.events ++ [.incoming packet] } := ⟨idle.slots, idle.rels⟩
  refine ⟨react_idle idle' packet, ?_⟩
  rcases react_cases { s with events := s.events ++ [.incoming packet] } packet with
    kept | ⟨busy, -⟩
  · exact kept
  · exact absurd idle' busy

theorem handleIncoming_cases (s : MqttState) (packet : Packet) :
    ((s.handleIncoming packet).1.collision = s.collision ∧
        ∀ p, .publish p ∉ (s.handleIncoming packet).2.packets) ∨
      ∃ p, s.collision = some p ∧ (s.handleIncoming packet).1.collision = none ∧
        (s.handleIncoming packet).2 = .ok (some (.publish p)) := by
  rcases react_cases { s with events := s.events ++ [.incoming packet] } packet with
    kept | ⟨-, sent⟩
  · exact Or.inl kept
  · exact Or.inr sent

theorem outgoingPing_idle {s : MqttState} (idle : s.Idle) : s.outgoingPing.1.Idle := by
  unfold outgoingPing
  dsimp only
  have kept : s.countCollisionPing.Idle := by
    unfold countCollisionPing
    split
    · exact ⟨idle.slots, idle.rels⟩
    · exact idle
  split
  · exact kept
  split
  · exact kept
  · exact ⟨kept.slots, kept.rels⟩

/-! ## Identifiers stay inside the table -/

/-- The table has a slot for every identifier that can be drawn next. -/
structure Sized (s : MqttState) : Prop where
  slots : s.outgoingPub.length = s.maxInflight + 1
  next : s.lastPkid < s.maxInflight

theorem Sized.assignPkid {s : MqttState} (sized : s.Sized) (pkid : Nat) :
    (s.assignPkid pkid).1.Sized := by
  have next := sized.next
  unfold MqttState.assignPkid
  split
  · refine ⟨sized.slots, ?_⟩
    simp only [nextPkid]
    split <;> omega
  · exact sized

theorem Sized.handleOutgoing {s : MqttState} (sized : s.Sized) (request : Request) :
    (s.handleOutgoing request).1.Sized := by
  cases request with
  | publish publish =>
      simp only [MqttState.handleOutgoing, outgoingPublish]
      split
      · exact ⟨sized.slots, sized.next⟩
      · have assigned := sized.assignPkid publish.pkid
        split
        · exact assigned
        · exact ⟨assigned.slots, assigned.next⟩
        · exact ⟨by simpa [emit] using assigned.slots, assigned.next⟩
  | pubRel pkid =>
      have assigned := sized.assignPkid pkid
      exact ⟨assigned.slots, assigned.next⟩
  | pingReq =>
      have counted : s.countCollisionPing.Sized := by
        unfold countCollisionPing
        split <;> exact ⟨sized.slots, sized.next⟩
      simp only [MqttState.handleOutgoing, outgoingPing]
      split
      · exact counted
      split
      · exact counted
      · exact ⟨counted.slots, counted.next⟩
  | subscribe subscription =>
      have drawn : s.nextPkid.1.Sized := sized.assignPkid 0
      simp only [MqttState.handleOutgoing, outgoingSubscribe]
      split
      · exact sized
      · exact ⟨drawn.slots, drawn.next⟩
  | unsubscribe unsub =>
      have drawn : s.nextPkid.1.Sized := sized.assignPkid 0
      exact ⟨drawn.slots, drawn.next⟩
  | _ => exact ⟨sized.slots, sized.next⟩

theorem Sized.react {s : MqttState} (sized : s.Sized) (packet : Packet) :
    (s.react packet).1.Sized := by
  have slots := sized.slots
  cases packet with
  | publish publish =>
      simp only [MqttState.react, handleIncomingPublish]
      cases publish.qos with
      | atMostOnce => exact sized
      | atLeastOnce => dsimp only; split <;> exact ⟨slots, sized.next⟩
      | exactlyOnce => dsimp only; split <;> exact ⟨slots, sized.next⟩
  | pubAck pkid =>
      simp only [MqttState.react, handleIncomingPuback]
      split
      · exact sized
      · exact ⟨slots, sized.next⟩
      · split
        · exact ⟨by simpa using slots, sized.next⟩
        · exact ⟨by simpa [emit] using slots, sized.next⟩
  | pubRec pkid =>
      simp only [MqttState.react, handleIncomingPubrec]
      split
      · exact ⟨by simpa [emit] using slots, sized.next⟩
      · exact sized
  | pubRel pkid =>
      simp only [MqttState.react, handleIncomingPubrel]
      split <;> exact ⟨slots, sized.next⟩
  | pubComp pkid =>
      simp only [MqttState.react, handleIncomingPubcomp]
      split
      · split <;> exact ⟨slots, sized.next⟩
      · exact sized
  | _ => exact ⟨slots, sized.next⟩

theorem Sized.handleIncoming {s : MqttState} (sized : s.Sized) (packet : Packet) :
    (s.handleIncoming packet).1.Sized := by
  have sized' : Sized { s with events := s.events ++ [.incoming packet] } := ⟨sized.slots, sized.next⟩
  exact sized'.react packet

theorem Sized.clean {s : MqttState} (sized : s.Sized) : s.clean.Sized :=
  ⟨by simpa [MqttState.clean] using sized.slots, sized.next⟩

theorem new_sized {maxInflight : Nat} (some : 0 < maxInflight) (manualAcks : Bool) :
    (new maxInflight manualAcks).Sized :=
  ⟨by simp [new], some⟩

/-- **A new publish is never refused**: it is sent, or it becomes the collision. -/
theorem handleOutgoing_fresh {s : MqttState} (sized : s.Sized) {publish : Publish}
    (fresh : publish.pkid = 0) :
    ∃ pkid,
      ((s.handleOutgoing (.publish publish)).2 = .ok (some (.publish { publish with pkid := pkid })) ∧
        (s.handleOutgoing (.publish publish)).1.collision = s.collision) ∨
      ((s.handleOutgoing (.publish publish)).2 = .ok none ∧
        (s.handleOutgoing (.publish publish)).1.collision = some { publish with pkid := pkid }) := by
  obtain ⟨pkid, sent | collided | ⟨-, -, missing, drawn⟩⟩ := s.outgoingPublish_cases publish
  · exact ⟨pkid, Or.inl sent⟩
  · exact ⟨pkid, Or.inr collided⟩
  · have slots := sized.slots
    have next := sized.next
    rw [drawn fresh, List.getElem?_eq_none_iff] at missing
    omega

theorem clean_idle (s : MqttState) : s.clean.Idle where
  slots := by
    intro slot found
    obtain ⟨-, -, same⟩ := List.mem_map.1 found
    exact same.symm
  rels := fun _ => rfl

theorem new_idle (maxInflight : Nat) (manualAcks : Bool) : (new maxInflight manualAcks).Idle where
  slots := fun _ found => List.eq_of_mem_replicate found
  rels := fun _ => rfl

end MqttState

end InverterGateway.Rumqttc

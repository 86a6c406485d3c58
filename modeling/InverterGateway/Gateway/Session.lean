/-
# Gateway.Session — what a clean session leaves of the previous one

With a broker that starts every session clean, the pending list is empty while a
connection is open, and a session starts with no slot waiting.  A collision is
the one thing of a session that is kept: it blocks the request branch of every
later one, so nothing can be written over or after it.
-/
import InverterGateway.Gateway.Connection

namespace InverterGateway.Gateway

open InverterGateway.Theory InverterGateway.Rumqttc

set_option autoImplicit false

variable {F : Type}

namespace System

variable (env : Env F)

/-! ## What the composite transitions do to the queues -/

/-- A message of the given command number. -/
theorem commandPublish_eq_some {id : Nat} {request : CommandRequest} {publish : Request}
    (made : env.commandPublish id request = some publish) :
    publish = .publish (.new request.topic (env.commandQos request) request.payload.toUTF8
      (.command id)) := by
  unfold Env.commandPublish publishRequest at made
  split at made
  · exact (Option.some.inj made).symm
  · cases made

/-- The three things the producer does with a command. -/
theorem receiveCommand_cases (s : System F) (id : Nat) (request : CommandRequest) :
    s.receiveCommand env id request = s ∨
      (∃ publish, env.commandPublish id request = some publish ∧ request.isGuarded = true ∧
        s.shared.sendIfCurrent s.now request = true ∧
        s.receiveCommand env id request = s.trySend publish) ∨
      (∃ publish, env.commandPublish id request = some publish ∧ request.isGuarded = false ∧
        s.receiveCommand env id request = { s with work := [publish] }) := by
  unfold receiveCommand
  cases made : env.commandPublish id request with
  | none => exact Or.inl rfl
  | some publish =>
      cases guarded : request.isGuarded with
      | false => exact Or.inr (Or.inr ⟨publish, rfl, rfl, rfl⟩)
      | true =>
          cases current : s.shared.sendIfCurrent s.now request with
          | false => exact Or.inl rfl
          | true => exact Or.inr (Or.inl ⟨publish, rfl, rfl, rfl, rfl⟩)

theorem trySend_requests {s : System F} {request r : Request}
    (found : r ∈ (s.trySend request).eventloop.requests) :
    r ∈ s.eventloop.requests ∨ r = request := by
  unfold trySend at found
  split at found
  · exact (List.mem_append.1 found).imp_right List.mem_singleton.1
  · exact Or.inl found

/-- What handling a result leaves of the event loop: all of it, or a cleaned one. -/
theorem handle_loop (s : System F) (pulled : Bool) (result : Polled) :
    ((s.handle env pulled result).eventloop = s.eventloop ∧
        (s.handle env pulled result).work = s.work ∧
        (s.handle env pulled result).unflushed = s.unflushed) ∨
      ((s.handle env pulled result).eventloop.network = none ∧
        (s.handle env pulled result).eventloop.state = s.eventloop.state.clean ∧
        (s.handle env pulled result).eventloop.requests = [] ∧
        (s.handle env pulled result).work = (s.clean pulled).work ∧
        s.connected = true ∧ result.disconnects = true) := by
  rcases s.handle_cases env pulled result with
    ⟨opened, -, same⟩ | same | ⟨p, op, -, -, same⟩ | ⟨phase, -, disconnects, same⟩
  · rw [same]
    exact Or.inl ⟨rfl, rfl, rfl⟩
  · rw [same]
    exact Or.inl ⟨rfl, rfl, rfl⟩
  · rw [same]
    exact Or.inl ⟨rfl, rfl, rfl⟩
  · rw [same]
    unfold handleDisconnect
    split
    · rename_i connected
      exact Or.inr ⟨rfl, rfl, rfl, rfl, connected, disconnects⟩
    · exact Or.inl ⟨rfl, rfl, rfl⟩

/-- What handling a result leaves alone, and where it leaves the poller. -/
structure HandleFrame (s t : System F) : Prop where
  commands : t.commands = s.commands
  held : t.held = s.held
  accepted : t.accepted = s.accepted
  written : t.written = s.written
  transmitted : t.transmitted = s.transmitted
  out : t.phase.out = none
  away : t.phase ≠ .select true

theorem handle_frame (s : System F) (pulled : Bool) (result : Polled) :
    s.HandleFrame (s.handle env pulled result) := by
  have away : ∀ phase : Phase, phase = .poll ∨ phase = .sleep →
      phase.out = none ∧ phase ≠ .select true := by
    rintro phase (rfl | rfl)
    · exact ⟨rfl, fun same => by cases same⟩
    · exact ⟨rfl, fun same => by cases same⟩
  obtain ⟨silent, polls⟩ := away .poll (Or.inl rfl)
  rcases s.handle_cases env pulled result with
    ⟨opened, -, same⟩ | same | ⟨p, op, -, -, same⟩ | ⟨phase, place, -, same⟩
  · rw [same]
    exact ⟨rfl, rfl, rfl, rfl, rfl, silent, polls⟩
  · rw [same]
    exact ⟨rfl, rfl, rfl, rfl, rfl, silent, polls⟩
  · rw [same]
    exact ⟨rfl, rfl, rfl, rfl, rfl, silent, polls⟩
  · obtain ⟨out, left⟩ := away phase place
    rw [same]
    unfold handleDisconnect
    split <;> exact ⟨rfl, rfl, rfl, rfl, rfl, out, left⟩

/-! ## Clean sessions -/

/-- The condition: the broker starts every session clean. -/
def CleanSession (_ : System F) (l : Label F) : Prop := l ≠ .connectSucceeds true

/-- What is known of a session under that condition. -/
structure Session (s : System F) : Prop where
  pending : s.eventloop.network ≠ none → s.eventloop.pending = []
  idle : s.eventloop.network = none → s.eventloop.state.Idle
  clear : s.phase = .select true → s.eventloop.state.collision = none

theorem Session.frame {s t : System F} (session : s.Session)
    (network : t.eventloop.network = s.eventloop.network)
    (pending : t.eventloop.pending = s.eventloop.pending)
    (state : t.eventloop.state = s.eventloop.state) (phase : t.phase = s.phase) : t.Session where
  pending up := by rw [pending]; exact session.pending (by rw [← network]; exact up)
  idle down := by rw [state]; exact session.idle (by rw [← network]; exact down)
  clear selects := by rw [state]; exact session.clear (by rw [← phase]; exact selects)

/-- A cleaned event loop. -/
theorem Session.cleaned {t : System F} {state : MqttState} (network : t.eventloop.network = none)
    (cleaned : t.eventloop.state = state.clean) (phase : t.phase ≠ .select true) : t.Session where
  pending up := absurd network up
  idle _ := by rw [cleaned]; exact state.clean_idle
  clear selects := absurd selects phase

/-- Inside a session, away from the entry to `select`. -/
theorem Session.inside {s t : System F} {c : Nat} (session : s.Session)
    (up : s.eventloop.network = some c) (network : t.eventloop.network = s.eventloop.network)
    (pending : t.eventloop.pending = s.eventloop.pending) (phase : t.phase ≠ .select true) :
    t.Session where
  pending _ := by rw [pending]; exact session.pending (by rw [up]; exact nofun)
  idle down := by rw [network, up] at down; cases down
  clear selects := absurd selects phase

variable [Binary64 F]

theorem step_session {s t : System F} {l : Label F} (step : Step env s l t)
    (clean : s.CleanSession l) (linked : s.Linked) (session : s.Session) : t.Session := by
  have link := linked.link
  have apart := step_apart env step
  cases step with
  | connectFails polling down => exact ⟨session.pending, session.idle, nofun⟩
  | connectSucceeds sessionPresent polling down =>
      cases sessionPresent with
      | true => exact absurd rfl clean
      | false => exact ⟨fun _ => rfl, nofun, nofun⟩
  | yieldBuffered polling up buffered => exact session.inside up rfl rfl nofun
  | enterSelect polling up empty =>
      have none_pending := session.pending (by rw [up]; exact nofun)
      refine ⟨session.pending, session.idle, fun selects => ?_⟩
      have takes : s.eventloop.takesRequests = true := Phase.select.inj selects
      exact EventLoop.takesRequests_new none_pending takes
  | readPacket packet reads room up handled => exact session.inside up rfl rfl nofun
  | readRejected packet pulled reads room up rejected => exact .cleaned rfl rfl nofun
  | writeReply replies up => exact session.inside up rfl rfl nofun
  | endRead reads some_read =>
      rw [reads] at link
      exact session.inside link.network rfl rfl nofun
  | @takeRequest request taken packet enabled next handled =>
      rw [enabled] at link
      have up : s.Up := link
      have none_pending := session.pending (by rw [up.network]; exact nofun)
      have pending := (EventLoop.nextRequest_new none_pending next).2.trans none_pending.symm
      exact session.inside up.network (EventLoop.nextRequest_frame next).2 pending nofun
  | requestRejected pulled enabled next rejected => exact .cleaned rfl rfl nofun
  | ping selects handled =>
      rw [selects] at link
      exact session.inside link.network rfl rfl nofun
  | pingRejected pulled selects rejected => exact .cleaned rfl rfl nofun
  | write sends up => exact session.inside up rfl rfl nofun
  | writeNothing sends =>
      rw [sends] at link
      exact session.inside link.network rfl rfl nofun
  | flush flushes up buffered => exact session.inside up rfl rfl nofun
  | fail pulled selects => exact .cleaned rfl rfl nofun
  | @handle result pulled polled =>
      have phase := (s.handle_frame env pulled result).away
      rcases s.handle_loop env pulled result with ⟨loop, -⟩ | ⟨network, state, -, -⟩
      · exact ⟨by rw [loop]; exact session.pending, by rw [loop]; exact session.idle,
          fun selects => absurd selects phase⟩
      · exact .cleaned network state phase
  | wake sleeps => exact ⟨session.pending, session.idle, nofun⟩
  | connectedChanged | keepaliveTick | receiveCommand | handOver | build | send | observe | tick
  | tryDisconnect =>
      have apart := apart rfl
      exact session.frame apart.network apart.pending apart.state apart.phase
  | stop running => exact ⟨session.pending, session.idle, nofun⟩

theorem session_of_reaches {ok : System F → Label F → Prop}
    (clean : ∀ s l, ok s l → CleanSession s l) {s : System F}
    (reached : (bridge env).Reaches ok s) : s.Session :=
  Machine.Reaches.invariant (P := Session)
    (fun _ initial => by
      rw [initial]
      exact ⟨fun _ => rfl, fun _ => MqttState.new_idle _ _, nofun⟩)
    (fun _ _ _ before session meets step =>
      step_session env step (clean _ _ meets) (linked_of_reaches env before) session) reached

end System

end InverterGateway.Gateway

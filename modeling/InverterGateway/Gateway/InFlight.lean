/-
# Gateway.InFlight — the session's counters and tables over whole runs

The handlers of the MQTT session subtract from a `u16`, index a vector and set
bits of fixed-capacity sets (`Rumqttc.Checked`).  Nothing in them guards these
operations: what does is the order in which the event loop calls them.  Here the
invariant of a flight is carried through every step of the bridge, against any
broker.  A broker that starts its sessions clean cannot make the counter overrun
either, because new requests are taken only below the window (`Windowed`).
-/
import InverterGateway.Rumqttc.Checked
import InverterGateway.Gateway.Session

namespace InverterGateway.Gateway

open InverterGateway.Theory InverterGateway.Rumqttc

set_option autoImplicit false

variable {F : Type}

namespace System

/-! ## What a step makes of the session -/

/-- What one handler makes of the session in a step with this label. -/
inductive Handles (s : System F) (l : Label F) : MqttState → Prop
  | noted (events : List Event) : Handles s l { s.eventloop.state with events := events }
  | incoming (packet : Packet) (c : Nat)
      (reads : l = .readPacket packet ∨ ∃ pulled, l = .readRejected packet pulled) :
      Handles s l (s.eventloop.state.handleIncoming (packet.readOn c)).1
  | outgoing {request : Request} {taken : EventLoop} (enabled : s.phase = .select true)
      (next : s.eventloop.nextRequest = some (request, taken)) :
      Handles s l (s.eventloop.state.handleOutgoing request).1
  | ping : Handles s l (s.eventloop.state.handleOutgoing .pingReq).1

variable (env : Env F)

variable [Binary64 F]

/-- **A step runs one handler**, and may then clean the session; after a packet
that is rejected it does. -/
theorem step_handles {s t : System F} {l : Label F} (step : Step env s l t) :
    ∃ state, s.Handles l state ∧
      ((t.eventloop.state = state ∧ ∀ packet pulled, l ≠ .readRejected packet pulled) ∨
        t.eventloop.state = state.clean) := by
  have same : s.Handles l s.eventloop.state := .noted s.eventloop.state.events
  have apart := step_apart env step
  cases step with
  | yieldBuffered polling up buffered => exact ⟨_, .noted _, Or.inl ⟨rfl, nofun⟩⟩
  | flush flushes up buffered => exact ⟨_, .noted _, Or.inl ⟨rfl, nofun⟩⟩
  | readPacket packet reads room up handled =>
      exact ⟨_, .incoming packet _ (Or.inl rfl), Or.inl ⟨rfl, nofun⟩⟩
  | readRejected packet pulled reads room up rejected =>
      exact ⟨_, .incoming packet _ (Or.inr ⟨pulled, rfl⟩), Or.inr rfl⟩
  | @takeRequest request taken packet enabled next handled =>
      refine ⟨_, .outgoing enabled next, Or.inl ⟨?_, nofun⟩⟩
      show (taken.state.handleOutgoing request).1 = _
      rw [(EventLoop.nextRequest_frame next).1]
  | @requestRejected request taken e pulled enabled next rejected =>
      refine ⟨_, .outgoing enabled next, Or.inr ?_⟩
      show (taken.state.handleOutgoing request).1.clean = _
      rw [(EventLoop.nextRequest_frame next).1]
  | ping selects handled => exact ⟨_, .ping, Or.inl ⟨rfl, nofun⟩⟩
  | pingRejected pulled selects rejected => exact ⟨_, .ping, Or.inr rfl⟩
  | fail pulled selects => exact ⟨_, same, Or.inr rfl⟩
  | @handle result pulled polled =>
      rcases s.handle_loop env pulled result with ⟨loop, -⟩ | ⟨-, state, -⟩
      · exact ⟨_, same, Or.inl ⟨by rw [loop], nofun⟩⟩
      · exact ⟨_, same, Or.inr state⟩
  | connectedChanged | keepaliveTick | receiveCommand | handOver | build | send | observe | tick
  | tryDisconnect => exact ⟨_, same, Or.inl ⟨(apart rfl).state, nofun⟩⟩
  | _ => exact ⟨_, same, Or.inl ⟨rfl, nofun⟩⟩

/-! ## Requests on their way to the session -/

/-- A request of the client, which acknowledges nothing. -/
def Made (r : Request) : Prop := ∀ pkid, r ≠ .pubRel pkid

theorem Made.fits {r : Request} (made : Made r) (bound : Nat) : MqttState.Fits bound r := by
  cases r with
  | pubRel pkid => exact absurd rfl (made pkid)
  | _ => trivial

theorem Made.resends {r : Request} (made : Made r) (state : MqttState) :
    state.resends r = false := by
  cases r with
  | pubRel pkid => exact absurd rfl (made pkid)
  | _ => rfl

/-- What the client was asked for and the session has not taken. -/
def offered (s : System F) : List Request := s.eventloop.requests ++ s.work

omit [Binary64 F] in
/-- A clean makes what is offered pending, with what the session hands back. -/
theorem clean_pending {s : System F} {pulled : Bool} {r : Request}
    (found : r ∈ (s.clean pulled).eventloop.pending) :
    r ∈ s.eventloop.pending ∨ r ∈ s.eventloop.state.unacknowledged ∨ r ∈ s.offered := by
  simp only [clean, EventLoop.clean, List.mem_append, List.mem_filter] at found
  rcases found with (pending | returned) | ⟨drained | taken, -⟩
  · exact Or.inl pending
  · exact Or.inr (Or.inl returned)
  · exact Or.inr (Or.inr (List.mem_append_left _ drained))
  · refine Or.inr (Or.inr (List.mem_append_right _ ?_))
    split at taken
    · exact List.mem_of_mem_take taken
    · cases taken

omit [Binary64 F] in
theorem clean_offered {s : System F} {pulled : Bool} {r : Request}
    (found : r ∈ (s.clean pulled).offered) : r ∈ s.offered := by
  refine List.mem_append_right _ ?_
  simp only [offered, clean, EventLoop.clean, List.nil_append] at found
  split at found
  · exact List.mem_of_mem_drop found
  · exact found

omit [Binary64 F] in
/-- Handling a result changes the queues as a clean does, if at all. -/
theorem handle_queues {s : System F} (pulled : Bool) (result : Polled) {r : Request} :
    (r ∈ (s.handle env pulled result).eventloop.pending →
      r ∈ s.eventloop.pending ∨ r ∈ s.eventloop.state.unacknowledged ∨ r ∈ s.offered) ∧
      (r ∈ (s.handle env pulled result).offered → r ∈ s.offered) := by
  rcases s.handle_cases env pulled result with
    ⟨opened, -, same⟩ | same | ⟨p, op, -, -, same⟩ | ⟨phase, -, -, same⟩
  · rw [same]
    exact ⟨Or.inl, id⟩
  · rw [same]
    exact ⟨Or.inl, id⟩
  · rw [same]
    exact ⟨Or.inl, id⟩
  · rw [same]
    unfold handleDisconnect
    split
    · exact ⟨fun found => clean_pending (List.mem_filter.1 found).1, clean_offered (s := s)⟩
    · exact ⟨Or.inl, id⟩

/-- Taking a request takes it out of a queue. -/
theorem nextRequest_queues {e taken : EventLoop} {request : Request}
    (next : e.nextRequest = some (request, taken)) :
    (request ∈ e.pending ∨ (e.pending = [] ∧ request ∈ e.requests)) ∧
      (∀ r ∈ taken.pending, r ∈ e.pending) ∧ ∀ r ∈ taken.requests, r ∈ e.requests := by
  obtain ⟨state, requests, pending, network⟩ := e
  cases pending with
  | cons first rest =>
      cases next
      exact ⟨Or.inl List.mem_cons_self, fun _ => List.mem_cons_of_mem _, fun _ => id⟩
  | nil =>
      cases requests with
      | nil => cases next
      | cons first rest =>
          cases next
          exact ⟨Or.inr ⟨rfl, List.mem_cons_self⟩, fun _ => id, fun _ => List.mem_cons_of_mem _⟩

/-- **Where a pending request comes from**: it was pending or offered, or the session
handed it back. -/
theorem step_pending {s t : System F} {l : Label F} (step : Step env s l t) {r : Request}
    (found : r ∈ t.eventloop.pending) :
    r ∈ s.eventloop.pending ∨ (∃ state, s.Handles l state ∧ r ∈ state.unacknowledged) ∨
      r ∈ s.offered := by
  have same : s.Handles l s.eventloop.state := .noted s.eventloop.state.events
  have apart := step_apart env step
  cases step with
  | connectSucceeds sessionPresent polling down =>
      simp only [EventLoop.connect] at found
      split at found
      · exact Or.inl found
      · cases found
  | takeRequest enabled next handled => exact Or.inl ((nextRequest_queues next).2.1 r found)
  | readRejected packet pulled reads room up rejected =>
      exact (clean_pending found).imp_right <| Or.imp_left fun returned =>
        ⟨_, .incoming packet _ (Or.inr ⟨pulled, rfl⟩), returned⟩
  | @requestRejected request taken e pulled enabled next rejected =>
      obtain ⟨-, pending, requests⟩ := nextRequest_queues next
      rcases clean_pending found with before | returned | offered
      · exact Or.inl (pending r before)
      · refine Or.inr (Or.inl ⟨_, .outgoing enabled next, ?_⟩)
        rw [← (EventLoop.nextRequest_frame next).1]
        exact returned
      · exact Or.inr (Or.inr (List.mem_append.2 ((List.mem_append.1 offered).imp_left (requests r))))
  | pingRejected pulled selects rejected =>
      exact (clean_pending found).imp_right (Or.imp_left fun returned => ⟨_, .ping, returned⟩)
  | fail pulled selects =>
      exact (clean_pending found).imp_right (Or.imp_left fun returned => ⟨_, same, returned⟩)
  | handle pulled polled =>
      exact ((handle_queues env pulled _).1 found).imp_right
        (Or.imp_left fun returned => ⟨_, same, returned⟩)
  | receiveCommand | handOver | tryDisconnect => exact Or.inl ((apart rfl).pending ▸ found)
  | _ => exact Or.inl found

theorem publishRequest_made {topic : String} {qos : QoS} {payload : ByteArray} {origin : Origin}
    {r : Request} (request : publishRequest topic qos payload origin = some r) : Made r := by
  unfold publishRequest at request
  split at request
  · cases request
    exact nofun
  · cases request

omit [Binary64 F] in
theorem subscribePortal_made {r : Request} (found : r ∈ env.subscribePortal) : Made r := by
  obtain ⟨filter, -, request⟩ := List.mem_filterMap.1 found
  unfold subscribeRequest at request
  split at request
  · cases request
    exact nofun
  · cases request

omit [Binary64 F] in
theorem keepalive_made {r : Request} (found : r ∈ env.keepalive) : Made r := by
  unfold Env.keepalive at found
  split at found
  · cases found
  · exact publishRequest_made (Option.mem_toList.1 found)

omit [Binary64 F] in
theorem trySend_offered {s : System F} {request r : Request}
    (found : r ∈ (s.trySend request).offered) : r ∈ s.offered ∨ r = request := by
  unfold trySend at found
  split at found
  · simp only [offered, List.mem_append, List.mem_singleton] at found ⊢
    tauto
  · exact Or.inl found

/-- **What is offered was offered before, or the producer made it.** -/
theorem step_offered {s t : System F} {l : Label F} (step : Step env s l t) {r : Request}
    (found : r ∈ t.offered) : r ∈ s.offered ∨ Made r := by
  have requests : r ∈ s.eventloop.requests → r ∈ s.offered := List.mem_append_left _
  cases step with
  | takeRequest enabled next handled =>
      exact Or.inl (List.mem_append.2
        ((List.mem_append.1 found).imp_left ((nextRequest_queues next).2.2 r)))
  | requestRejected pulled enabled next rejected =>
      exact Or.inl (List.mem_append.2
        ((List.mem_append.1 (clean_offered found)).imp_left ((nextRequest_queues next).2.2 r)))
  | readRejected | pingRejected | fail => exact Or.inl (clean_offered found)
  | handle pulled polled => exact Or.inl ((handle_queues env pulled _).2 found)
  | connectedChanged runs waits seen =>
      rcases List.mem_append.1 found with queued | work
      · exact Or.inl (requests queued)
      · exact Or.inr ((List.mem_append.1 work).elim (subscribePortal_made env) (keepalive_made env))
  | keepaliveTick runs waits =>
      rcases List.mem_append.1 found with queued | work
      · exact Or.inl (requests queued)
      · exact Or.inr (keepalive_made env work)
  | @receiveCommand id request rest runs waits queued =>
      rcases receiveCommand_cases env { s with commands := rest } id request with
        unchanged | ⟨publish, made, -, -, sent⟩ | ⟨publish, made, -, given⟩
      · rw [unchanged] at found
        exact Or.inl found
      · rw [sent] at found
        rcases trySend_offered found with before | rfl
        · exact Or.inl before
        · exact Or.inr (publishRequest_made made)
      · rw [given] at found
        rcases List.mem_append.1 found with queued | work
        · exact Or.inl (requests queued)
        · rw [List.mem_singleton.1 work]
          exact Or.inr (publishRequest_made made)
  | @handOver request rest runs waiting room =>
      left
      rcases List.mem_append.1 found with queued | work
      · rcases trySend_offered (List.mem_append_left _ queued) with before | rfl
        · exact before
        · exact List.mem_append_right _ (by rw [waiting]; exact List.mem_cons_self)
      · exact List.mem_append_right _ (by rw [waiting]; exact List.mem_cons_of_mem _ work)
  | tryDisconnect =>
      rcases trySend_offered found with before | rfl
      · exact Or.inl before
      · exact Or.inr nofun
  | _ => exact Or.inl found

/-! ## The flight over runs -/

structure Flying (s : System F) : Prop where
  flight : s.eventloop.state.Flight
  size : s.eventloop.state.maxInflight = EventLoop.defaultInflight
  pending : ∀ r ∈ s.eventloop.pending, MqttState.Fits EventLoop.defaultInflight r
  made : ∀ r ∈ s.offered, Made r

omit [Binary64 F] in
theorem Flying.request {s : System F} (flying : s.Flying) {request : Request} {taken : EventLoop}
    (next : s.eventloop.nextRequest = some (request, taken)) :
    MqttState.Fits s.eventloop.state.maxInflight request := by
  rw [flying.size]
  rcases (nextRequest_queues next).1 with pending | ⟨-, queued⟩
  · exact flying.pending request pending
  · exact (flying.made request (List.mem_append_left _ queued)).fits _

omit [Binary64 F] in
theorem Flying.handles {s : System F} {l : Label F} {state : MqttState} (flying : s.Flying)
    (handles : s.Handles l state) :
    state.Flight ∧ state.maxInflight = EventLoop.defaultInflight := by
  cases handles with
  | noted events => exact ⟨(flying.flight.noted events).1, flying.size⟩
  | incoming packet c reads =>
      exact ⟨(MqttState.handleIncoming_flight flying.flight _).1,
        (MqttState.handleIncoming_maxInflight _ _).trans flying.size⟩
  | outgoing enabled next =>
      exact ⟨(MqttState.handleOutgoing_flight flying.flight (flying.request next)).1,
        (MqttState.handleOutgoing_maxInflight _ _).trans flying.size⟩
  | ping =>
      have fits : MqttState.Fits s.eventloop.state.maxInflight .pingReq := trivial
      exact ⟨(MqttState.handleOutgoing_flight flying.flight fits).1,
        (MqttState.handleOutgoing_maxInflight _ _).trans flying.size⟩

/-- **Every step keeps the flight**, whatever the broker sends. -/
theorem step_flying {s t : System F} {l : Label F} (step : Step env s l t) (flying : s.Flying) :
    t.Flying := by
  obtain ⟨state, handles, after⟩ := step_handles env step
  obtain ⟨flight, size⟩ := flying.handles handles
  have made : ∀ r ∈ t.offered, Made r := fun r found =>
    (step_offered env step found).elim (flying.made r) id
  have pending : ∀ r ∈ t.eventloop.pending, MqttState.Fits EventLoop.defaultInflight r := by
    intro r found
    rcases step_pending env step found with before | ⟨state, handles, returned⟩ | offered
    · exact flying.pending r before
    · obtain ⟨flight, size⟩ := flying.handles handles
      rw [← size]
      exact MqttState.unacknowledged_fits flight returned
    · exact (flying.made r offered).fits _
  rcases after with ⟨kept, -⟩ | cleaned
  · exact ⟨by rw [kept]; exact flight, by rw [kept]; exact size, pending, made⟩
  · exact ⟨by rw [cleaned]; exact (MqttState.clean_flight flight).1, by rw [cleaned]; exact size,
      pending, made⟩

theorem flying_of_reaches {ok : System F → Label F → Prop} {s : System F}
    (reached : (bridge env).Reaches ok s) : s.Flying :=
  Machine.Reaches.invariant (P := Flying)
    (fun _ initial => by
      rw [initial]
      exact ⟨MqttState.new_flight (by decide) (by decide) _, rfl, nofun, nofun⟩)
    (fun _ _ _ _ flying _ step => step_flying env step flying) reached

/-! ## The window -/

/-- The counter stays inside the window, and below it where a request may be taken. -/
structure Windowed (s : System F) : Prop where
  window : s.eventloop.state.inflight ≤ EventLoop.defaultInflight
  room : s.phase = .select true → s.eventloop.state.inflight < EventLoop.defaultInflight

omit [Binary64 F] in
theorem Windowed.handles {s : System F} {l : Label F} {state : MqttState} (windowed : s.Windowed)
    (flying : s.Flying) (handles : s.Handles l state) :
    state.inflight ≤ EventLoop.defaultInflight := by
  have window := windowed.window
  cases handles with
  | noted events => exact window
  | incoming packet c reads => exact (MqttState.handleIncoming_inflight flying.flight _).trans window
  | outgoing enabled next =>
      exact (MqttState.handleOutgoing_inflight _ _).trans (windowed.room enabled)
  | ping => exact (MqttState.outgoingPing_inflight _).le.trans window

/-- **A clean session keeps the window.** -/
theorem step_windowed {s t : System F} {l : Label F} (step : Step env s l t) (session : s.Session)
    (flying : s.Flying) (windowed : s.Windowed) : t.Windowed := by
  obtain ⟨state, handles, after⟩ := step_handles env step
  have window : t.eventloop.state.inflight ≤ EventLoop.defaultInflight := by
    rcases after with ⟨kept, -⟩ | cleaned
    · rw [kept]
      exact windowed.handles flying handles
    · rw [cleaned]
      exact Nat.zero_le _
  have apart := step_apart env step
  refine ⟨window, ?_⟩
  cases step with
  | enterSelect polling up empty =>
      intro selects
      have takes : s.eventloop.takesRequests = true := Phase.select.inj selects
      have none_pending := session.pending (by rw [up]; exact Option.some_ne_none _)
      simp only [EventLoop.takesRequests, none_pending, List.isEmpty_nil, Bool.not_true,
        Bool.false_or, Bool.and_eq_true, Bool.not_eq_true', decide_eq_false_iff_not,
        flying.size] at takes
      exact Nat.lt_of_not_le takes.1
  | @handle result pulled polled =>
      exact fun selects => absurd selects (s.handle_frame env pulled result).away
  | connectedChanged | keepaliveTick | receiveCommand | handOver | build | send | observe | tick
  | tryDisconnect =>
      intro selects
      rw [(apart rfl).state]
      exact windowed.room ((apart rfl).phase ▸ selects)
  | _ =>
      intro selects
      cases selects

theorem windowed_of_reaches {ok : System F → Label F → Prop}
    (clean : ∀ s l, ok s l → CleanSession s l) {s : System F}
    (reached : (bridge env).Reaches ok s) : s.Windowed :=
  Machine.Reaches.invariant (P := Windowed)
    (fun _ initial => by
      rw [initial]
      exact ⟨Nat.zero_le _, nofun⟩)
    (fun _ _ _ before windowed _ step =>
      step_windowed env step (session_of_reaches env clean before) (flying_of_reaches env before)
        windowed) reached

/-- **No handler leaves its range.**  With a broker that starts its sessions clean,
in every state of every run: whatever packet arrives, whatever request `select`
may take, a ping, and a clean after any handler: no counter of the session over-
or underruns and no table is indexed outside, so the session does exactly what
its handlers over natural numbers say. -/
theorem session_in_range {s : System F} (reached : (bridge env).Reaches CleanSession s) :
    (∀ packet : Packet, packet.Word → s.eventloop.state.handleIncomingChecked packet =
      some (s.eventloop.state.handleIncoming packet)) ∧
    (∀ request taken, s.phase = .select true → s.eventloop.nextRequest = some (request, taken) →
      taken.state.handleOutgoingChecked request = some (taken.state.handleOutgoing request)) ∧
    s.eventloop.state.handleOutgoingChecked .pingReq =
      some (s.eventloop.state.handleOutgoing .pingReq) ∧
    ∀ l state, s.Handles l state →
      state.cleanChecked = some (state.clean, state.unacknowledged) := by
  have flying := flying_of_reaches env reached
  have window := (windowed_of_reaches env (fun _ _ => id) reached).window
  have room : s.eventloop.state.inflight + 1 < u16Size :=
    Nat.lt_of_le_of_lt (Nat.succ_le_succ window) (by decide)
  refine ⟨fun packet word => ?_, fun request taken enabled next => ?_, rfl,
    fun l state handles => MqttState.cleanChecked_eq (flying.handles handles).1⟩
  · exact MqttState.handleIncomingChecked_eq flying.flight (Nat.lt_of_succ_lt room) word
  · rw [(EventLoop.nextRequest_frame next).1]
    exact MqttState.handleOutgoingChecked_eq flying.flight room (flying.request next)

/-- A gateway that selects with a command waiting for its acknowledgement, asked to
disconnect. -/
theorem session_in_range_disconnecting :
    ∃ s : System Int, (bridge ⟨⟨"N/p/", "W/p/", "inverter"⟩, fun _ => none⟩).Reaches CleanSession s ∧
      s.phase = .select true ∧ s.eventloop.state.inflight = 1 ∧
      (∃ taken, s.eventloop.nextRequest = some (.disconnect, taken) ∧
        taken.state.handleOutgoingChecked .disconnect =
          some (taken.state.handleOutgoing .disconnect)) ∧
      s.eventloop.state.handleIncomingChecked (.pubAck 1) =
        some (s.eventloop.state.handleIncoming (.pubAck 1)) := by
  have start : (bridge (F := Int) ⟨⟨"N/p/", "W/p/", "inverter"⟩, fun _ => none⟩).Reaches
      CleanSession {} := .start rfl
  have built := start.next (by exact nofun) (.build "silence_alarm" .null rfl)
  have accepted := built.next (by exact nofun) (.send 0 rfl nofun)
  have handed := (accepted.next (by exact nofun) (.receiveCommand rfl rfl rfl)).next
    (by exact nofun) (.handOver rfl rfl (by decide))
  have opened := (handed.next (by exact nofun) (.connectSucceeds false rfl rfl)).next
    (by exact nofun) (.handle false rfl)
  have taken := (opened.next (by exact nofun) (.enterSelect rfl rfl rfl)).next
    (by exact nofun) (.takeRequest rfl rfl rfl)
  have flushed := (taken.next (by exact nofun) (.write rfl rfl)).next
    (by exact nofun) (.flush rfl rfl rfl)
  have handled := flushed.next (by exact nofun) (.handle false rfl)
  have selecting := (handled.next (by exact nofun) .tryDisconnect).next (by exact nofun)
    (.enterSelect rfl rfl rfl)
  obtain ⟨receives, sends, -⟩ := session_in_range _ selecting
  exact ⟨_, selecting, rfl, rfl, ⟨_, rfl, sends _ _ rfl rfl⟩, receives (.pubAck 1) trivial⟩

/-! ## What the window counts -/

/-- The condition: the broker starts every session clean, and acknowledges no publish
whose identifier still has a release waiting. -/
def Prompt (s : System F) (l : Label F) : Prop :=
  CleanSession s l ∧ ∀ packet, l = .readPacket packet → s.eventloop.state.repeats packet = false

omit [Binary64 F] in
/-- A handler of a prompt step keeps the count. -/
theorem Handles.slack {s : System F} {l : Label F} {state : MqttState} (handles : s.Handles l state)
    (up : s.phase = .select true → s.eventloop.pending = []) (flying : s.Flying)
    (prompt : s.Prompt l) (accepted : ∀ packet pulled, l ≠ .readRejected packet pulled) :
    state.slack = s.eventloop.state.slack := by
  cases handles with
  | noted events => rfl
  | incoming packet c reads =>
      rcases reads with read | ⟨pulled, rejected⟩
      · have first : s.eventloop.state.repeats (packet.readOn c) = false := by
          rw [← prompt.2 packet read]
          cases packet <;> rfl
        rw [(MqttState.handleIncoming_flight flying.flight _).2, first]
        exact add_zero _
      · exact absurd rejected (accepted packet pulled)
  | @outgoing request taken enabled next =>
      have made : Made request := by
        rcases (nextRequest_queues next).1 with pending | ⟨-, queued⟩
        · rw [up enabled] at pending
          cases pending
        · exact flying.made request (List.mem_append_left _ queued)
      rw [(MqttState.handleOutgoing_flight flying.flight (flying.request next)).2, made.resends]
      exact add_zero _
  | ping => exact (MqttState.outgoingPing_flight flying.flight).2

theorem slack_of_reaches {s : System F} (reached : (bridge env).Reaches Prompt s) :
    s.eventloop.state.slack = 0 := by
  refine Machine.Reaches.invariant (P := fun s => s.eventloop.state.slack = 0) ?_ ?_ reached
  · intro _ initial
    rw [initial]
    rfl
  · intro s l t before counted prompt step
    have session := session_of_reaches env (fun _ _ => And.left) before
    have flying := flying_of_reaches env before
    have link := (linked_of_reaches env before).link
    obtain ⟨state, handles, ⟨kept, accepted⟩ | cleaned⟩ := step_handles env step
    · rw [kept, handles.slack ?_ flying prompt accepted, counted]
      intro enabled
      rw [enabled] at link
      exact session.pending (by rw [link.network]; exact nofun)
    · rw [cleaned]
      exact (MqttState.clean_flight (flying.handles handles).1).2

/-- **The window counts what waits.**  Against such a broker, in every state of every
run: the counter is the number of publishes and releases without their
acknowledgement, at most a hundred; each such publish stands in the slot of its
identifier; and new requests are taken exactly while fewer than a hundred wait
and none collides. -/
theorem window_counts {s : System F} (reached : (bridge env).Reaches Prompt s) :
    s.eventloop.state.inflight =
      s.eventloop.state.awaiting + s.eventloop.state.releases.length ∧
    s.eventloop.state.inflight ≤ 100 ∧
    (∀ n p, s.eventloop.state.outgoingPub[n]? = some (some p) →
      p.pkid = n ∧ n ≠ 0 ∧ p.qos ≠ .atMostOnce) ∧
    (s.eventloop.network ≠ none → (s.eventloop.takesRequests = true ↔
      s.eventloop.state.awaiting + s.eventloop.state.releases.length < 100 ∧
        s.eventloop.state.collision = none)) := by
  have flying := flying_of_reaches env reached
  have session := session_of_reaches env (fun _ _ => And.left) reached
  have counted : s.eventloop.state.inflight =
      s.eventloop.state.awaiting + s.eventloop.state.releases.length := by
    have slack := slack_of_reaches env reached
    rw [MqttState.slack] at slack
    omega
  refine ⟨counted, (windowed_of_reaches env (fun _ _ => And.left) reached).window, ?_, ?_⟩
  · intro n p held
    obtain ⟨named, tracked⟩ := flying.flight.own n p held
    exact ⟨named, named ▸ tracked.named, tracked.acked⟩
  · intro up
    rw [← counted]
    have size : s.eventloop.state.maxInflight = 100 := flying.size
    simp only [EventLoop.takesRequests, session.pending up, size, List.isEmpty_nil, Bool.not_true,
      Bool.false_or, Bool.and_eq_true, Bool.not_eq_true', decide_eq_false_iff_not, Nat.not_le,
      Option.isNone_iff_eq_none]

/-- Two commands are transmitted over the first connection, and the first of them is
acknowledged: the second waits in its slot. -/
theorem window_counts_first :
    ∃ s : System Int, (bridge ⟨⟨"N/p/", "W/p/", "inverter"⟩, fun _ => none⟩).Reaches Prompt s ∧
      s.eventloop.network = some 0 ∧ s.eventloop.state.awaiting = 1 ∧
      s.eventloop.state.inflight = 1 ∧ s.eventloop.takesRequests = true ∧
      ∃ p, s.eventloop.state.outgoingPub[2]? = some (some p) ∧ p.pkid = 2 ∧ p.qos ≠ .atMostOnce := by
  have start : (bridge (F := Int) ⟨⟨"N/p/", "W/p/", "inverter"⟩, fun _ => none⟩).Reaches
      Prompt {} := .start rfl
  have built := (start.next (by exact ⟨nofun, nofun⟩) (.build "silence_alarm" .null rfl)).next
    (by exact ⟨nofun, nofun⟩) (.build "silence_alarm" .null rfl)
  have accepted := (built.next (by exact ⟨nofun, nofun⟩) (.send 0 rfl nofun)).next
    (by exact ⟨nofun, nofun⟩) (.send 0 rfl nofun)
  have first := (accepted.next (by exact ⟨nofun, nofun⟩) (.receiveCommand rfl rfl rfl)).next
    (by exact ⟨nofun, nofun⟩) (.handOver rfl rfl (by decide))
  have second := (first.next (by exact ⟨nofun, nofun⟩) (.receiveCommand rfl rfl rfl)).next
    (by exact ⟨nofun, nofun⟩) (.handOver rfl rfl (by decide))
  have opened := (second.next (by exact ⟨nofun, nofun⟩) (.connectSucceeds false rfl rfl)).next
    (by exact ⟨nofun, nofun⟩) (.handle false rfl)
  have taken := (opened.next (by exact ⟨nofun, nofun⟩) (.enterSelect rfl rfl rfl)).next
    (by exact ⟨nofun, nofun⟩) (.takeRequest rfl rfl rfl)
  have flushed := (taken.next (by exact ⟨nofun, nofun⟩) (.write rfl rfl)).next
    (by exact ⟨nofun, nofun⟩) (.flush rfl rfl rfl)
  have handled := flushed.next (by exact ⟨nofun, nofun⟩) (.handle false rfl)
  have taken' := (handled.next (by exact ⟨nofun, nofun⟩) (.enterSelect rfl rfl rfl)).next
    (by exact ⟨nofun, nofun⟩) (.takeRequest rfl rfl rfl)
  have flushed' := (taken'.next (by exact ⟨nofun, nofun⟩) (.write rfl rfl)).next
    (by exact ⟨nofun, nofun⟩) (.flush rfl rfl rfl)
  have handled' := flushed'.next (by exact ⟨nofun, nofun⟩) (.handle false rfl)
  have selects := handled'.next (by exact ⟨nofun, nofun⟩) (.enterSelect rfl rfl rfl)
  have acked := selects.next (by exact ⟨nofun, fun packet same => by cases same; rfl⟩)
    (.readPacket (.pubAck 1) rfl (by decide) rfl rfl)
  have flushed'' := (acked.next (by exact ⟨nofun, nofun⟩) (.endRead rfl (by decide))).next
    (by exact ⟨nofun, nofun⟩) (.flush rfl rfl rfl)
  have last := flushed''.next (by exact ⟨nofun, nofun⟩) (.handle false rfl)
  obtain ⟨counted, -, slots, takes⟩ := window_counts _ last
  obtain ⟨named, -, acknowledged⟩ := slots 2 _ rfl
  exact ⟨_, last, rfl, by decide +kernel, counted, (takes nofun).2 ⟨by decide +kernel, rfl⟩,
    _, rfl, named, acknowledged⟩

end System

end InverterGateway.Gateway

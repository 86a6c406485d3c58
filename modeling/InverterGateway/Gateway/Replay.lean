/-
# Gateway.Replay — a guarded command stays on its connection

A command goes from the command channel through the producer and the client's
request channel into the session, which sends it at once or keeps it as the
collision.  `copies` counts the places one command is in, those it was written to
included: no step makes a second copy.  `Custody` says which commands may be
where: behind the generation check, a guarded command is only in places of the
connection that carries its generation, or in a collision that no session
releases any more.
-/
import InverterGateway.Gateway.Session

namespace InverterGateway.Gateway

open InverterGateway.Theory InverterGateway.Rumqttc

set_option autoImplicit false

variable {F : Type}

/-! ## Copies inside a session -/

/-- The copies of a command a session keeps as its collision. -/
def collided (state : MqttState) (k : Nat) : Nat :=
  state.collision.toList.countP fun p => p.carries k

theorem packets_ok (reply : Option Packet) : Outcome.packets (.ok reply) = reply.toList := by
  cases reply <;> rfl

theorem countP_packets_zero {outcome : Outcome} {k : Nat}
    (none_sent : ∀ p, .publish p ∉ outcome.packets) :
    outcome.packets.countP (fun packet => packet.carries k) = 0 := by
  rw [List.countP_eq_zero]
  intro packet found carries
  obtain ⟨p, rfl, -⟩ := Packet.carries_iff.1 carries
  exact none_sent p found

/-- Receiving a packet moves the collision to the network, or leaves it. -/
theorem handleIncoming_copies (state : MqttState) (packet : Packet) (k : Nat) :
    collided (state.handleIncoming packet).1 k +
        (state.handleIncoming packet).2.packets.countP (fun packet => packet.carries k) ≤
      collided state k := by
  rcases state.handleIncoming_cases packet with ⟨kept, none_sent⟩ | ⟨p, held, released, sent⟩
  · rw [countP_packets_zero none_sent, collided, kept]
    exact le_rfl
  · rw [sent]
    unfold collided
    rw [held, released]
    simp [Packet.carries]

/-- Handling a request moves its publish to the network or makes it the collision. -/
theorem handleOutgoing_copies (state : MqttState) (request : Request) (k : Nat) :
    collided (state.handleOutgoing request).1 k +
        (state.handleOutgoing request).2.packets.countP (fun packet => packet.carries k) ≤
      collided state k + [request].countP (fun r => r.carries k) := by
  by_cases isPublish : ∃ publish, request = .publish publish
  · obtain ⟨publish, rfl⟩ := isPublish
    have same : ∀ pkid, ({ publish with pkid := pkid } : Publish).carries k = publish.carries k :=
      fun _ => rfl
    have one : [Request.publish publish].countP (fun r => r.carries k) =
        [publish].countP (fun p => p.carries k) := by
      simp [List.countP_cons, Request.carries]
    simp only [MqttState.handleOutgoing]
    obtain ⟨pkid, ⟨sent, kept⟩ | ⟨sent, collision⟩ | ⟨⟨e, failed⟩, kept, -⟩⟩ :=
      state.outgoingPublish_cases publish
    · rw [sent, collided, kept, one]
      simp only [Outcome.packets_some, List.countP_singleton, Packet.carries, same]
      exact le_rfl
    · rw [sent, collided, collision, one]
      simp only [Outcome.packets_none, Option.toList_some, List.countP_singleton, List.countP_nil, same]
      omega
    · rw [failed, collided, kept]
      simp only [Outcome.packets_error, List.countP_nil]
      exact Nat.le_add_right _ _
  · obtain ⟨kept, none_sent⟩ := state.handleOutgoing_other fun p same => isPublish ⟨p, same⟩
    rw [countP_packets_zero none_sent, collided, kept]
    exact Nat.le_add_right _ _

theorem unguarded_iff {request : CommandRequest} :
    request.isGuarded = false ↔ request.guard = none := by
  unfold CommandRequest.isGuarded
  cases request.guard <;> simp

namespace System

/-! ## Copies in the system -/

/-- The places a command is in, and those it was written to. -/
def copies (s : System F) (k : Nat) : Nat :=
  s.commands.countP (fun e => e.1 == k) + s.work.countP (fun r => r.carries k) +
    s.eventloop.requests.countP (fun r => r.carries k) + collided s.eventloop.state k +
    s.phase.out.toList.countP (fun packet => packet.carries k) +
    s.written.countP (fun w => w.2.carries k)

variable (env : Env F)

/-- Neither subscriptions nor keepalives carry a command. -/
theorem subscribePortal_carries (k : Nat) : env.subscribePortal.countP (fun r => r.carries k) = 0 := by
  rw [List.countP_eq_zero]
  intro r found carries
  obtain ⟨filter, -, made⟩ := List.mem_filterMap.1 found
  unfold subscribeRequest at made
  split at made
  · cases made
    cases carries
  · cases made

theorem keepalive_carries (k : Nat) : env.keepalive.countP (fun r => r.carries k) = 0 := by
  rw [List.countP_eq_zero]
  intro r found carries
  unfold Env.keepalive at found
  split at found
  · cases found
  · rw [Option.mem_toList] at found
    unfold publishRequest at found
    split at found
    · cases found
      cases carries
    · cases found

theorem trySend_copies (s : System F) (request : Request) (k : Nat) :
    (s.trySend request).copies k ≤ s.copies k + [request].countP (fun r => r.carries k) := by
  unfold trySend
  split
  · simp only [copies, List.countP_append]
    omega
  · exact Nat.le_add_right _ _

theorem commandPublish_copies {id : Nat} {request : CommandRequest} {publish : Request}
    (made : env.commandPublish id request = some publish) (k : Nat) :
    [publish].countP (fun r => r.carries k) = if id == k then 1 else 0 := by
  rw [commandPublish_eq_some env made]
  simp [List.countP_cons, Request.carries, Publish.carries, Publish.new]

/-- A step that touches no queue. -/
theorem copies_frame {s t : System F} (k : Nat) (out : t.phase.out = s.phase.out)
    (queues : t.commands = s.commands ∧ t.work = s.work ∧
      t.eventloop.requests = s.eventloop.requests ∧
      t.eventloop.state.collision = s.eventloop.state.collision ∧ t.written = s.written) :
    t.copies k ≤ s.copies k := by
  obtain ⟨commands, work, requests, collision, written⟩ := queues
  unfold copies collided
  rw [commands, work, requests, collision, out, written]

/-- Cleaning the event loop makes no copy. -/
theorem clean_copies {s t : System F} (pulled : Bool) (k : Nat) (commands : t.commands = s.commands)
    (work : t.work = (s.clean pulled).work) (requests : t.eventloop.requests = [])
    (collision : collided t.eventloop.state k ≤ collided s.eventloop.state k)
    (out : t.phase.out = none) (written : t.written = s.written) : t.copies k ≤ s.copies k := by
  have fewer : t.work.countP (fun r => r.carries k) ≤ s.work.countP (fun r => r.carries k) := by
    rw [work]
    cases pulled with
    | false => exact le_rfl
    | true => exact (List.drop_sublist 1 s.work).countP_le
  simp only [copies, commands, requests, out, written, List.countP_nil, Option.toList_none]
  omega

variable [Binary64 F]

/-- **No step makes a second copy**; only a command that is accepted adds one. -/
theorem step_copies {s t : System F} {l : Label F} (step : Step env s l t) (linked : s.Linked)
    (session : s.Session) (k : Nat) :
    (t.accepted.length = s.accepted.length ∧ t.copies k ≤ s.copies k) ∨
      (t.accepted.length = s.accepted.length + 1 ∧
        t.copies k = s.copies k + if s.accepted.length == k then 1 else 0) := by
  have link := linked.link
  cases step with
  | @readPacket c n packet reply reads room up handled =>
      left
      refine ⟨rfl, ?_⟩
      have moved := handleIncoming_copies s.eventloop.state (packet.readOn c) k
      rw [handled, packets_ok] at moved
      simp only [copies, setState, EventLoop.setState, Phase.out]
      omega
  | @readRejected c n packet e pulled reads room up rejected =>
      left
      have moved := handleIncoming_copies s.eventloop.state (packet.readOn c) k
      refine ⟨rfl, clean_copies pulled k rfl rfl rfl ?_ rfl rfl⟩
      exact (Nat.le_add_right _ _).trans moved
  | @writeReply c n packet replies up =>
      left
      refine ⟨rfl, ?_⟩
      simp only [copies, System.write, Phase.out, replies, List.countP_append, Option.toList_some,
        Option.toList_none, List.countP_nil, List.countP_singleton]
      omega
  | @takeRequest request taken packet enabled next handled =>
      left
      refine ⟨rfl, ?_⟩
      rw [enabled] at link
      have up : s.Up := link
      have none_pending := session.pending (by rw [up.network]; exact nofun)
      have requests := (EventLoop.nextRequest_new none_pending next).1
      have state := (EventLoop.nextRequest_frame next).1
      have moved := handleOutgoing_copies taken.state request k
      rw [handled, packets_ok] at moved
      simp only [copies, EventLoop.setState, Phase.out, enabled, requests, Option.toList_none,
        List.countP_nil, List.countP_cons, ← state] at moved ⊢
      omega
  | @requestRejected request taken e pulled enabled next rejected =>
      left
      refine ⟨rfl, ?_⟩
      rw [enabled] at link
      have up : s.Up := link
      have none_pending := session.pending (by rw [up.network]; exact nofun)
      have requests := (EventLoop.nextRequest_new none_pending next).1
      have state := (EventLoop.nextRequest_frame next).1
      have moved := handleOutgoing_copies taken.state request k
      have fewer : (if pulled then s.work.drop 1 else s.work).countP (fun r => r.carries k) ≤
          s.work.countP (fun r => r.carries k) := by
        cases pulled with
        | false => exact le_rfl
        | true => exact (List.drop_sublist 1 s.work).countP_le
      have kept : collided (taken.state.handleOutgoing request).1.clean k =
          collided (taken.state.handleOutgoing request).1 k := rfl
      simp only [copies, System.fail, System.clean, EventLoop.clean, EventLoop.setState, Phase.out,
        enabled, requests, Option.toList_none, List.countP_nil, List.countP_cons, ← state,
        kept] at moved ⊢
      omega
  | ping selects handled =>
      left
      refine ⟨rfl, ?_⟩
      have moved := handleOutgoing_copies s.eventloop.state .pingReq k
      rw [handled, packets_ok] at moved
      have none_carried : [Request.pingReq].countP (fun r => r.carries k) = 0 := rfl
      simp only [copies, setState, EventLoop.setState, Phase.out, selects, Option.toList_none,
        List.countP_nil]
      omega
  | pingRejected pulled selects rejected =>
      left
      have moved := handleOutgoing_copies s.eventloop.state .pingReq k
      have none_carried : [Request.pingReq].countP (fun r => r.carries k) = 0 := rfl
      refine ⟨rfl, clean_copies pulled k rfl rfl rfl ?_ rfl rfl⟩
      show collided (s.eventloop.state.handleOutgoing .pingReq).1 k ≤ _
      omega
  | write sends up =>
      left
      refine ⟨rfl, ?_⟩
      simp only [copies, System.write, Phase.out, sends, List.countP_append, Option.toList_some,
        Option.toList_none, List.countP_nil, List.countP_singleton]
      omega
  | @handle result pulled polled =>
      left
      obtain ⟨commands, -, accepted, written, -, out, -⟩ := s.handle_frame env pulled result
      refine ⟨congrArg List.length accepted, ?_⟩
      rcases s.handle_loop env pulled result with ⟨loop, work, -⟩ | ⟨-, state, requests, work, -⟩
      · simp only [copies, commands, written, out, loop, work, Option.toList_none, List.countP_nil]
        omega
      · exact clean_copies pulled k commands work requests (by rw [state]; exact le_rfl) out written
  | connectedChanged runs waits seen =>
      left
      refine ⟨rfl, ?_⟩
      simp only [copies, List.countP_append, subscribePortal_carries, keepalive_carries]
      omega
  | keepaliveTick runs waits =>
      left
      refine ⟨rfl, ?_⟩
      simp only [copies, keepalive_carries]
      omega
  | @receiveCommand id request rest runs waits queued =>
      left
      have head : s.copies k = ({ s with commands := rest } : System F).copies k +
          if id == k then 1 else 0 := by
        simp only [copies, queued, List.countP_cons]
        omega
      rcases receiveCommand_cases env { s with commands := rest } id request with
        same | ⟨publish, made, -, -, same⟩ | ⟨publish, made, -, same⟩
      · rw [same]
        exact ⟨rfl, head ▸ Nat.le_add_right _ _⟩
      · have sent := ({ s with commands := rest } : System F).trySend_copies publish k
        rw [commandPublish_copies env made, ← head] at sent
        obtain ⟨requests, -, handed⟩ := ({ s with commands := rest } : System F).trySend_eq publish
        rw [same]
        exact ⟨by rw [handed], sent⟩
      · have one := commandPublish_copies env made k
        rw [same]
        refine ⟨rfl, ?_⟩
        rw [head]
        simp only [copies, waits, one, List.countP_nil]
        omega
  | @handOver request rest runs waiting room =>
      left
      have sent := ({ s with work := rest } : System F).trySend_copies request k
      have head : s.copies k = ({ s with work := rest } : System F).copies k +
          [request].countP (fun r => r.carries k) := by
        simp only [copies, waiting, List.countP_cons, List.countP_nil]
        omega
      rw [← head] at sent
      have same : ({ s.trySend request with work := rest } : System F) =
          ({ s with work := rest } : System F).trySend request := by
        unfold trySend
        split <;> rfl
      obtain ⟨requests, -, handed⟩ := ({ s with work := rest } : System F).trySend_eq request
      rw [same]
      exact ⟨by rw [handed], sent⟩
  | send i here running =>
      right
      refine ⟨by simp [System.send], ?_⟩
      simp only [copies, System.send, List.countP_append, List.countP_singleton]
      omega
  | tryDisconnect =>
      left
      obtain ⟨requests, -, handed⟩ := s.trySend_eq .disconnect
      exact ⟨by rw [handed], s.trySend_copies .disconnect k⟩
  | fail pulled selects =>
      exact Or.inl ⟨rfl, clean_copies pulled k rfl rfl rfl le_rfl rfl rfl⟩
  | connectFails polling down =>
      exact Or.inl ⟨rfl, copies_frame k (by exact (congrArg Phase.out polling).symm)
        (by exact ⟨rfl, rfl, rfl, rfl, rfl⟩)⟩
  | connectSucceeds sessionPresent polling down =>
      exact Or.inl ⟨rfl, copies_frame k (by exact (congrArg Phase.out polling).symm)
        (by exact ⟨rfl, rfl, rfl, rfl, rfl⟩)⟩
  | yieldBuffered polling up buffered =>
      exact Or.inl ⟨rfl, copies_frame k (by exact (congrArg Phase.out polling).symm)
        (by exact ⟨rfl, rfl, rfl, rfl, rfl⟩)⟩
  | enterSelect polling up empty =>
      exact Or.inl ⟨rfl, copies_frame k (by exact (congrArg Phase.out polling).symm)
        (by exact ⟨rfl, rfl, rfl, rfl, rfl⟩)⟩
  | endRead reads some_read =>
      exact Or.inl ⟨rfl, copies_frame k (by exact (congrArg Phase.out reads).symm)
        (by exact ⟨rfl, rfl, rfl, rfl, rfl⟩)⟩
  | writeNothing sends =>
      exact Or.inl ⟨rfl, copies_frame k (by exact (congrArg Phase.out sends).symm)
        (by exact ⟨rfl, rfl, rfl, rfl, rfl⟩)⟩
  | flush flushes up buffered =>
      exact Or.inl ⟨rfl, copies_frame k (by exact (congrArg Phase.out flushes).symm)
        (by exact ⟨rfl, rfl, rfl, rfl, rfl⟩)⟩
  | wake sleeps =>
      exact Or.inl ⟨rfl, copies_frame k (by exact (congrArg Phase.out sleeps).symm)
        (by exact ⟨rfl, rfl, rfl, rfl, rfl⟩)⟩
  | stop running =>
      left
      refine ⟨rfl, ?_⟩
      simp only [copies, setConnected, Phase.out, Option.toList_none, List.countP_nil]
      omega
  | build name body built => exact Or.inl ⟨rfl, le_rfl⟩
  | observe observes => exact Or.inl ⟨rfl, le_rfl⟩
  | tick later => exact Or.inl ⟨rfl, le_rfl⟩

/-! ## Which commands may be where -/

/-- The command of this number was accepted, and if it is guarded, the open
connection is the one of its generation. -/
def Carried (s : System F) (k : Nat) : Prop :=
  ∃ a, s.accepted[k]? = some a ∧
    ∀ guard, a.request.guard = some guard → s.eventloop.network = some guard.generation

omit [Binary64 F] in
/-- What is carried stays so while commands are accepted and the connection is
kept; without a connection nothing guarded is carried. -/
theorem Carried.frame {s t : System F} {k : Nat} (carried : s.Carried k)
    (accepted : s.accepted <+: t.accepted)
    (network : t.eventloop.network = s.eventloop.network ∨ s.eventloop.network = none) :
    t.Carried k := by
  obtain ⟨a, found, current⟩ := carried
  obtain ⟨later, grown⟩ := accepted
  refine ⟨a, ?_, fun guard guarded => ?_⟩
  · rw [← grown, List.getElem?_append_left (List.getElem?_eq_some_iff.1 found).1]
    exact found
  · have here := current guard guarded
    rcases network with same | down
    · rw [same]
      exact here
    · rw [down] at here
      cases here

structure Custody (s : System F) : Prop where
  channel : ∀ e ∈ s.commands, ∃ a, s.accepted[e.1]? = some a ∧ a.request = e.2
  work : ∀ r ∈ s.work, ∀ k, r.carries k = true →
    ∃ a, s.accepted[k]? = some a ∧ a.request.guard = none
  requests : ∀ r ∈ s.eventloop.requests, ∀ k, r.carries k = true → s.Carried k
  out : ∀ packet, s.phase.out = some packet → ∀ k, packet.carries k = true → s.Carried k
  collision : ∀ p, s.eventloop.state.collision = some p →
    s.eventloop.state.Idle ∨ ∀ k, p.carries k = true → s.Carried k
  written : ∀ w ∈ s.written, ∀ k, w.2.carries k = true →
    ∃ a, s.accepted[k]? = some a ∧
      ∀ guard, a.request.guard = some guard → s.opened[w.1]? = some guard.generation

/-- Commands are only accepted where a handler puts them on the command channel. -/
theorem step_accepts {s t : System F} {l : Label F} (step : Step env s l t) :
    t.accepted = s.accepted ∨ ∃ request ∈ s.held,
      t.accepted = s.accepted ++ [⟨s.connected, request⟩] ∧
        (s.accepted.length, request) ∈ t.commands := by
  cases step with
  | @handle result pulled polled => exact Or.inl (s.handle_frame env pulled result).accepted
  | @receiveCommand id request rest runs waits queued =>
      obtain ⟨requests, work, -, same⟩ :=
        receiveCommand_eq env { s with commands := rest } id request
      rw [same]
      exact Or.inl rfl
  | @handOver request rest runs waiting room =>
      obtain ⟨requests, -, same⟩ := s.trySend_eq request
      rw [same]
      exact Or.inl rfl
  | tryDisconnect =>
      obtain ⟨requests, -, same⟩ := s.trySend_eq .disconnect
      rw [same]
      exact Or.inl rfl
  | @send i request here running =>
      exact Or.inr ⟨request, List.mem_of_getElem? here, rfl,
        List.mem_append_right _ List.mem_cons_self⟩
  | _ => exact Or.inl rfl

theorem step_accepted {s t : System F} {l : Label F} (step : Step env s l t) :
    s.accepted <+: t.accepted := by
  rcases step_accepts env step with same | ⟨request, -, added, -⟩
  · rw [same]
  · rw [added]
    exact List.prefix_append _ _

/-- An accepted command keeps its number. -/
theorem step_found {s t : System F} {l : Label F} (step : Step env s l t) {k : Nat} {a : Accepted}
    (found : s.accepted[k]? = some a) : t.accepted[k]? = some a := by
  obtain ⟨later, grown⟩ := step_accepted env step
  rw [← grown, List.getElem?_append_left (List.getElem?_eq_some_iff.1 found).1]
  exact found

omit [Binary64 F] in
/-- The producer takes a guarded command only over the connection of its generation. -/
theorem current_network {s : System F} (linked : s.Linked) (runs : s.phase.suspended = true)
    {request : CommandRequest} {guard : CommandGuard} (guarded : request.guard = some guard)
    (current : s.shared.sendIfCurrent s.now request = true) :
    s.eventloop.network = some guard.generation := by
  obtain ⟨topic, payload, _⟩ := request
  obtain rfl := guarded
  obtain ⟨⟨connected, -⟩, generation, -⟩ := Shared.sendIfCurrent_guarded.1 current
  have up : s.Up := by
    have link := linked.link
    cases phase : s.phase with
    | poll =>
        rw [phase] at link
        rcases link with up | down
        · exact up
        · have off : s.shared.telemetry.connected = false := down.connected
          rw [off] at connected
          cases connected
    | sleep =>
        rw [phase] at link
        have off : s.shared.telemetry.connected = false := link.connected
        rw [off] at connected
        cases connected
    | handle result => rw [phase] at runs; cases runs
    | stopped => rw [phase] at runs; cases runs
    | _ => rw [phase] at link; exact link
  rw [up.network, generation]

theorem step_channel {s t : System F} {l : Label F} (step : Step env s l t) (custody : s.Custody) :
    ∀ e ∈ t.commands, ∃ a, t.accepted[e.1]? = some a ∧ a.request = e.2 := by
  intro e found
  have earlier : e ∈ s.commands → ∃ a, t.accepted[e.1]? = some a ∧ a.request = e.2 := by
    intro here
    obtain ⟨a, known, same⟩ := custody.channel e here
    exact ⟨a, step_found env step known, same⟩
  cases step with
  | @handle result pulled polled =>
      rw [(s.handle_frame env pulled result).commands] at found
      exact earlier found
  | @receiveCommand id request rest runs waits queued =>
      refine earlier ?_
      rw [queued]
      refine List.mem_cons_of_mem _ ?_
      obtain ⟨requests, work, -, same⟩ :=
        receiveCommand_eq env { s with commands := rest } id request
      rw [same] at found
      exact found
  | @handOver request rest runs waiting room =>
      obtain ⟨requests, -, same⟩ := s.trySend_eq request
      rw [same] at found
      exact earlier found
  | tryDisconnect =>
      obtain ⟨requests, -, same⟩ := s.trySend_eq .disconnect
      rw [same] at found
      exact earlier found
  | @send i request here running =>
      rcases List.mem_append.1 found with before | new
      · exact earlier before
      · obtain rfl := List.mem_singleton.1 new
        exact ⟨⟨s.connected, request⟩, by simp [System.send], rfl⟩
  | _ => exact earlier found

omit [Binary64 F] in
theorem clean_work {s : System F} {pulled : Bool} {r : Request} (found : r ∈ (s.clean pulled).work) :
    r ∈ s.work := by
  cases pulled with
  | false => exact found
  | true => exact List.mem_of_mem_drop found

theorem step_work {s t : System F} {l : Label F} (step : Step env s l t) (custody : s.Custody) :
    ∀ r ∈ t.work, ∀ k, r.carries k = true →
      ∃ a, t.accepted[k]? = some a ∧ a.request.guard = none := by
  intro r found k carries
  have earlier : r ∈ s.work → ∃ a, t.accepted[k]? = some a ∧ a.request.guard = none := by
    intro here
    obtain ⟨a, known, unguarded⟩ := custody.work r here k carries
    exact ⟨a, step_found env step known, unguarded⟩
  have foreign : ∀ l : List Request, l.countP (fun r => r.carries k) = 0 → r ∉ l := by
    intro l zero here
    exact absurd carries (List.countP_eq_zero.1 zero r here)
  cases step with
  | readRejected packet pulled reads room up rejected => exact earlier (clean_work found)
  | requestRejected pulled enabled next rejected => exact earlier (clean_work found)
  | pingRejected pulled selects rejected => exact earlier (clean_work found)
  | fail pulled selects => exact earlier (clean_work found)
  | @handle result pulled polled =>
      rcases s.handle_loop env pulled result with ⟨-, work, -⟩ | ⟨-, -, -, work, -⟩
      · rw [work] at found
        exact earlier found
      · rw [work] at found
        exact earlier (clean_work found)
  | connectedChanged runs waits seen =>
      rcases List.mem_append.1 found with subscription | keepalive
      · exact absurd subscription (foreign _ (subscribePortal_carries env k))
      · exact absurd keepalive (foreign _ (keepalive_carries env k))
  | keepaliveTick runs waits => exact absurd found (foreign _ (keepalive_carries env k))
  | @receiveCommand id request rest runs waits queued =>
      rcases receiveCommand_cases env { s with commands := rest } id request with
        same | ⟨publish, -, -, -, same⟩ | ⟨publish, made, unguarded, same⟩
      · rw [same] at found
        exact earlier found
      · obtain ⟨requests, -, handed⟩ := ({ s with commands := rest } : System F).trySend_eq publish
        rw [same, handed] at found
        exact earlier found
      · rw [same] at found
        obtain rfl := List.mem_singleton.1 found
        rw [commandPublish_eq_some env made] at carries
        have number : id = k := by simpa [Request.carries, Publish.carries, Publish.new] using carries
        subst number
        obtain ⟨a, known, here⟩ := custody.channel (id, request) (by rw [queued]; exact List.mem_cons_self)
        refine ⟨a, by rw [same]; exact known, ?_⟩
        rw [here]
        exact unguarded_iff.1 unguarded
  | @handOver request rest runs waiting room =>
      exact earlier (by rw [waiting]; exact List.mem_cons_of_mem _ found)
  | tryDisconnect =>
      obtain ⟨requests, -, same⟩ := s.trySend_eq .disconnect
      rw [same] at found
      exact earlier found
  | _ => exact earlier found

theorem step_requests {s t : System F} {l : Label F} (step : Step env s l t) (linked : s.Linked)
    (session : s.Session) (custody : s.Custody) :
    ∀ r ∈ t.eventloop.requests, ∀ k, r.carries k = true → t.Carried k := by
  intro r found k carries
  have grows := step_accepted env step
  have link := linked.link
  have apart := step_apart env step
  have earlier : t.eventloop.network = s.eventloop.network ∨ s.eventloop.network = none →
      r ∈ s.eventloop.requests → t.Carried k := fun network here =>
    (custody.requests r here k carries).frame grows network
  cases step with
  | connectSucceeds sessionPresent polling down => exact earlier (Or.inr down) found
  | readRejected => cases found
  | requestRejected => cases found
  | pingRejected => cases found
  | fail => cases found
  | @takeRequest request taken packet enabled next handled =>
      rw [enabled] at link
      have up : s.Up := link
      have none_pending := session.pending (by rw [up.network]; exact nofun)
      have requests := (EventLoop.nextRequest_new none_pending next).1
      refine earlier (Or.inl (EventLoop.nextRequest_frame next).2) ?_
      rw [requests]
      exact List.mem_cons_of_mem _ found
  | @handle result pulled polled =>
      rcases s.handle_loop env pulled result with ⟨loop, -⟩ | ⟨-, -, requests, -⟩
      · rw [loop] at found
        exact earlier (Or.inl (congrArg EventLoop.network loop)) found
      · rw [requests] at found
        cases found
  | @receiveCommand id request rest runs waits queued =>
      have network := (apart rfl).network
      rcases receiveCommand_cases env { s with commands := rest } id request with
        same | ⟨publish, made, guarded, current, same⟩ | ⟨publish, -, -, same⟩
      · rw [same] at found
        exact earlier (Or.inl network) found
      · rw [same] at found
        rcases trySend_requests found with here | new
        · exact earlier (Or.inl network) here
        · rw [new, commandPublish_eq_some env made] at carries
          have number : id = k := by
            simpa [Request.carries, Publish.carries, Publish.new] using carries
          subst number
          obtain ⟨a, known, here⟩ := custody.channel (id, request) (by rw [queued]; exact List.mem_cons_self)
          have carried : s.Carried id := by
            refine ⟨a, known, fun guard held => ?_⟩
            rw [here] at held
            exact current_network linked runs held current
          exact carried.frame grows (Or.inl network)
      · rw [same] at found
        exact earlier (Or.inl network) found
  | @handOver request rest runs waiting room =>
      have network := (apart rfl).network
      rcases trySend_requests found with here | new
      · exact earlier (Or.inl network) here
      · obtain ⟨a, known, unguarded⟩ :=
          custody.work request (by rw [waiting]; exact List.mem_cons_self) k (by rw [← new]; exact carries)
        have carried : s.Carried k := by
          refine ⟨a, known, fun guard held => ?_⟩
          rw [unguarded] at held
          cases held
        exact carried.frame grows (Or.inl network)
  | tryDisconnect =>
      have network := (apart rfl).network
      rcases trySend_requests found with here | new
      · exact earlier (Or.inl network) here
      · rw [new] at carries
        cases carries
  | _ => exact earlier (Or.inl rfl) found

omit [Binary64 F] in
/-- The packet a session sends for a request carries what the request carries. -/
theorem handleOutgoing_carries {state : MqttState} {request : Request} {packet : Packet} {k : Nat}
    (handled : (state.handleOutgoing request).2 = .ok (some packet))
    (carries : packet.carries k = true) : request.carries k = true := by
  obtain ⟨p, rfl, origin⟩ := Packet.carries_iff.1 carries
  by_cases isPublish : ∃ publish, request = .publish publish
  · obtain ⟨publish, rfl⟩ := isPublish
    simp only [MqttState.handleOutgoing] at handled
    obtain ⟨pkid, ⟨sent, -⟩ | ⟨sent, -⟩ | ⟨⟨e, failed⟩, -⟩⟩ := state.outgoingPublish_cases publish
    · rw [sent] at handled
      cases handled
      exact carries
    · rw [sent] at handled
      cases handled
    · rw [failed] at handled
      cases handled
  · have none_sent := (state.handleOutgoing_other fun p same => isPublish ⟨p, same⟩).2 p
    rw [handled] at none_sent
    exact absurd List.mem_cons_self none_sent

theorem step_out {s t : System F} {l : Label F} (step : Step env s l t) (linked : s.Linked)
    (session : s.Session) (custody : s.Custody) :
    ∀ packet, t.phase.out = some packet → ∀ k, packet.carries k = true → t.Carried k := by
  intro packet found k carries
  have grows := step_accepted env step
  have link := linked.link
  have apart := step_apart env step
  have earlier : t.eventloop.network = s.eventloop.network → s.phase.out = some packet →
      t.Carried k := fun network here =>
    (custody.out packet here k carries).frame grows (Or.inl network)
  cases step with
  | @readPacket c n received reply reads room up handled =>
      obtain rfl : reply = some packet := found
      rcases s.eventloop.state.handleIncoming_cases (received.readOn c) with
        ⟨-, none_sent⟩ | ⟨p, held, -, sent⟩
      · obtain ⟨p, rfl, -⟩ := Packet.carries_iff.1 carries
        rw [handled] at none_sent
        exact absurd List.mem_cons_self (none_sent p)
      · rw [handled] at sent
        obtain rfl : packet = .publish p := by cases sent; rfl
        rcases custody.collision p held with idle | carried
        · have none_sent := (MqttState.handleIncoming_idle idle (received.readOn c)).2.2 p
          rw [handled] at none_sent
          exact absurd List.mem_cons_self none_sent
        · exact (carried k carries).frame grows (Or.inl rfl)
  | @takeRequest request taken sent enabled next handled =>
      obtain rfl : sent = some packet := found
      rw [enabled] at link
      have up : s.Up := link
      have none_pending := session.pending (by rw [up.network]; exact nofun)
      have requests := (EventLoop.nextRequest_new none_pending next).1
      have here := custody.requests request (by rw [requests]; exact List.mem_cons_self) k
        (handleOutgoing_carries handled carries)
      exact here.frame grows (Or.inl (EventLoop.nextRequest_frame next).2)
  | @ping enabled sent selects handled =>
      obtain rfl : sent = some packet := found
      have none_carried := handleOutgoing_carries handled carries
      cases none_carried
  | @handle result pulled polled =>
      rw [(s.handle_frame env pulled result).out] at found
      cases found
  | connectedChanged | keepaliveTick | receiveCommand | handOver | build | send | observe | tick
  | tryDisconnect =>
      rw [(apart rfl).phase] at found
      exact earlier (apart rfl).network found
  | _ => cases found

theorem step_collision {s t : System F} {l : Label F} (step : Step env s l t) (linked : s.Linked)
    (session : s.Session) (custody : s.Custody) :
    ∀ p, t.eventloop.state.collision = some p →
      t.eventloop.state.Idle ∨ ∀ k, p.carries k = true → t.Carried k := by
  intro p found
  have grows := step_accepted env step
  have link := linked.link
  have apart := step_apart env step
  have earlier : t.eventloop.network = s.eventloop.network → t.eventloop.state.Idle ∨
      ¬ s.eventloop.state.Idle → s.eventloop.state.collision = some p →
      t.eventloop.state.Idle ∨ ∀ k, p.carries k = true → t.Carried k := by
    intro network idle here
    rcases idle with quiet | busy
    · exact Or.inl quiet
    · rcases custody.collision p here with quiet | carried
      · exact absurd quiet busy
      · exact Or.inr fun k carries => (carried k carries).frame grows (Or.inl network)
  have same_state : t.eventloop.network = s.eventloop.network →
      t.eventloop.state = s.eventloop.state →
      t.eventloop.state.Idle ∨ ∀ k, p.carries k = true → t.Carried k := by
    intro network state
    rw [state] at found
    refine earlier network ?_ found
    rw [state]
    exact Classical.em _
  cases step with
  | connectSucceeds sessionPresent polling down => exact Or.inl (session.idle down)
  | yieldBuffered polling up buffered =>
      refine earlier rfl ?_ found
      by_cases idle : s.eventloop.state.Idle
      · exact Or.inl ⟨idle.slots, idle.rels⟩
      · exact Or.inr idle
  | flush flushes up buffered =>
      refine earlier rfl ?_ found
      by_cases idle : s.eventloop.state.Idle
      · exact Or.inl ⟨idle.slots, idle.rels⟩
      · exact Or.inr idle
  | @readPacket c n received reply reads room up handled =>
      rcases s.eventloop.state.handleIncoming_cases (received.readOn c) with
        ⟨kept, -⟩ | ⟨q, -, released, -⟩
      · refine earlier rfl ?_ (kept ▸ found)
        by_cases idle : s.eventloop.state.Idle
        · exact Or.inl (MqttState.handleIncoming_idle idle _).1
        · exact Or.inr idle
      · have none_left : (none : Option Publish) = some p := released.symm.trans found
        cases none_left
  | readRejected => exact Or.inl (MqttState.clean_idle _)
  | requestRejected => exact Or.inl (MqttState.clean_idle _)
  | pingRejected => exact Or.inl (MqttState.clean_idle _)
  | fail => exact Or.inl (MqttState.clean_idle _)
  | @takeRequest request taken sent enabled next handled =>
      -- nothing collided before, so the collision is the request just taken
      rw [enabled] at link
      have up : s.Up := link
      have none_pending := session.pending (by rw [up.network]; exact nofun)
      have requests := (EventLoop.nextRequest_new none_pending next).1
      obtain ⟨state, network⟩ := EventLoop.nextRequest_frame next
      have clear : taken.state.collision = none := by rw [state]; exact session.clear enabled
      right
      intro k carries
      by_cases isPublish : ∃ publish, request = .publish publish
      · obtain ⟨publish, rfl⟩ := isPublish
        have collision : (taken.state.outgoingPublish publish).1.collision = some p := found
        have here := custody.requests (.publish publish) (by rw [requests]; exact List.mem_cons_self) k
        obtain ⟨pkid, ⟨-, kept⟩ | ⟨-, collided⟩ | ⟨-, kept, -⟩⟩ :=
          taken.state.outgoingPublish_cases publish
        · rw [kept, clear] at collision
          cases collision
        · rw [collided] at collision
          cases collision
          exact (here carries).frame grows (Or.inl network)
        · rw [kept, clear] at collision
          cases collision
      · have kept := (taken.state.handleOutgoing_other fun p same => isPublish ⟨p, same⟩).1
        have collision : (taken.state.handleOutgoing request).1.collision = some p := found
        rw [kept, clear] at collision
        cases collision
  | ping selects handled =>
      have kept := (s.eventloop.state.handleOutgoing_other
        (show ∀ p, Request.pingReq ≠ .publish p from nofun)).1
      refine earlier rfl ?_ (kept ▸ found)
      by_cases idle : s.eventloop.state.Idle
      · exact Or.inl (MqttState.outgoingPing_idle idle)
      · exact Or.inr idle
  | @handle result pulled polled =>
      rcases s.handle_loop env pulled result with ⟨loop, -⟩ | ⟨-, state, -, -⟩
      · exact same_state (congrArg EventLoop.network loop) (congrArg EventLoop.state loop)
      · left
        rw [state]
        exact MqttState.clean_idle _
  | receiveCommand | handOver | tryDisconnect =>
      exact same_state (apart rfl).network (apart rfl).state
  | _ => exact same_state rfl rfl

theorem step_written {s t : System F} {l : Label F} (step : Step env s l t) (linked : s.Linked)
    (custody : s.Custody) :
    ∀ w ∈ t.written, ∀ k, w.2.carries k = true →
      ∃ a, t.accepted[k]? = some a ∧
        ∀ guard, a.request.guard = some guard → t.opened[w.1]? = some guard.generation := by
  intro w found k carries
  obtain ⟨later, opened⟩ := step_opened env step
  have link := linked.link
  have apart := step_apart env step
  have earlier : w ∈ s.written → ∃ a, t.accepted[k]? = some a ∧
      ∀ guard, a.request.guard = some guard → t.opened[w.1]? = some guard.generation := by
    intro here
    obtain ⟨a, known, current⟩ := custody.written w here k carries
    refine ⟨a, step_found env step known, fun guard held => ?_⟩
    have place := current guard held
    rw [opened, List.getElem?_append_left (List.getElem?_eq_some_iff.1 place).1]
    exact place
  -- what is written now goes over the connection of the current generation
  have written : ∀ c packet, s.phase.out = some packet → w = (c, packet) →
      s.eventloop.network = some c → s.Up → ∃ a, t.accepted[k]? = some a ∧
        ∀ guard, a.request.guard = some guard → t.opened[w.1]? = some guard.generation := by
    intro c packet out same network up
    subst same
    obtain ⟨a, known, current⟩ := custody.out packet out k carries
    refine ⟨a, step_found env step known, fun guard held => ?_⟩
    have here := current guard held
    rw [network] at here
    obtain rfl := Option.some.inj here
    rw [up.network] at network
    obtain same := Option.some.inj network
    have within := up.opened
    rw [opened, List.getElem?_append_left (show guard.generation < s.opened.length by omega),
      linked.numbered, List.getElem?_range (by omega)]
  cases step with
  | @writeReply c n packet replies up =>
      rw [replies] at link
      rcases List.mem_append.1 found with here | new
      · exact earlier here
      · exact written c packet (by rw [replies]; rfl) (List.mem_singleton.1 new) up link
  | @write c packet sends up =>
      rw [sends] at link
      rcases List.mem_append.1 found with here | new
      · exact earlier here
      · exact written c packet (by rw [sends]; rfl) (List.mem_singleton.1 new) up link
  | @handle result pulled polled =>
      rw [(s.handle_frame env pulled result).written] at found
      exact earlier found
  | receiveCommand | handOver | tryDisconnect =>
      rw [(apart rfl).written] at found
      exact earlier found
  | _ => exact earlier found

/-- **Every step keeps every command where it may be.** -/
theorem step_custody {s t : System F} {l : Label F} (step : Step env s l t) (linked : s.Linked)
    (session : s.Session) (custody : s.Custody) : t.Custody where
  channel := step_channel env step custody
  work := step_work env step custody
  requests := step_requests env step linked session custody
  out := step_out env step linked session custody
  collision := step_collision env step linked session custody
  written := step_written env step linked custody

theorem custody_of_reaches {s : System F} (reached : (bridge env).Reaches CleanSession s) :
    s.Custody :=
  Machine.Reaches.invariant (P := Custody)
    (fun _ initial => by
      rw [initial]
      exact ⟨nofun, nofun, nofun, nofun, nofun, nofun⟩)
    (fun _ _ _ before custody _ step =>
      step_custody env step (linked_of_reaches env before)
        (session_of_reaches env (fun _ _ clean => clean) before) custody) reached

/-- A command has one copy from the moment it is accepted, and none before. -/
theorem copies_le {s : System F} (reached : (bridge env).Reaches CleanSession s) (k : Nat) :
    s.copies k ≤ if k < s.accepted.length then 1 else 0 :=
  Machine.Reaches.invariant (P := fun s => s.copies k ≤ if k < s.accepted.length then 1 else 0)
    (fun _ initial => by
      rw [initial]
      exact Nat.zero_le _)
    (fun s _ t before bound _ step => by
      have moved := step_copies env step (linked_of_reaches env before)
        (session_of_reaches env (fun _ _ clean => clean) before) k
      by_cases old : k < s.accepted.length
      · rw [if_pos old] at bound
        rcases moved with ⟨length, fewer⟩ | ⟨length, added⟩
        · rw [if_pos (by omega)]
          omega
        · have other : (s.accepted.length == k) = false := by
            rw [beq_eq_false_iff_ne]
            omega
          rw [other] at added
          rw [if_pos (by omega)]
          simp only [Bool.false_eq_true, if_false] at added
          omega
      · rw [if_neg old] at bound
        rcases moved with ⟨length, fewer⟩ | ⟨length, added⟩
        · rw [if_neg (by omega)]
          omega
        · by_cases here : s.accepted.length = k
          · rw [if_pos (by omega)]
            simp only [here, beq_self_eq_true, if_true] at added
            omega
          · have other : (s.accepted.length == k) = false := by
              rw [beq_eq_false_iff_ne]
              exact here
            rw [other] at added
            rw [if_neg (by omega)]
            simp only [Bool.false_eq_true, if_false] at added
            omega) reached

/-- **No guarded command crosses a connection.**  In every run against a broker
that starts sessions clean, a guarded command is written at most once, and only
over the connection that was opened in the generation it was accepted in. -/
theorem guarded_command_stays_on_connection {s : System F}
    (reached : (bridge env).Reaches CleanSession s) {k : Nat} {a : Accepted} {guard : CommandGuard}
    (accepted : s.accepted[k]? = some a) (guarded : a.request.guard = some guard) :
    s.written.countP (fun w => w.2.carries k) ≤ 1 ∧
      ∀ w ∈ s.written, w.2.carries k = true → s.opened[w.1]? = some guard.generation := by
  have one := copies_le env reached k
  rw [if_pos (List.getElem?_eq_some_iff.1 accepted).1] at one
  refine ⟨?_, ?_⟩
  · unfold copies at one
    omega
  · intro w found carries
    obtain ⟨a', known, current⟩ := (custody_of_reaches env reached).written w found k carries
    rw [accepted] at known
    obtain rfl := Option.some.inj known
    exact current guard guarded

/-- A gateway whose decoder reads an empty controller state. -/
def controllerEnv : Env Int := ⟨⟨"N/p/", "W/p/", "inverter"⟩, fun _ => some (.object [])⟩

/-- An empty controller state as the broker publishes it. -/
def controllerState : Publish := ⟨.atMostOnce, "inverter/state", 0, ⟨#[123, 125]⟩, .broker 0⟩

/-- The old ESS toggle, accepted in generation 0 and written over connection 0. -/
theorem guarded_command_stays_on_connection_toggle :
    ∃ s : System Int, (bridge controllerEnv).Reaches CleanSession s ∧
      s.written.countP (fun w => w.2.carries 0) = 1 ∧
      ∀ w ∈ s.written, w.2.carries 0 = true → s.opened[w.1]? = some 0 := by
  have start : (bridge controllerEnv).Reaches CleanSession {} := .start rfl
  have opened := (start.next (by nofun) (.connectSucceeds false rfl rfl)).next (by nofun)
    (.handle false rfl)
  have read := (opened.next (by nofun) (.enterSelect rfl rfl rfl)).next (by nofun)
    (.readPacket (.publish controllerState) rfl (by decide) rfl rfl)
  have shown := ((read.next (by nofun) (.endRead rfl (by decide))).next (by nofun)
    (.flush rfl rfl rfl)).next (by nofun) (.handle false rfl)
  have accepted := (shown.next (by nofun) (.build "ess_mode" (.object []) rfl)).next (by nofun)
    (.send 0 rfl nofun)
  have taken := ((accepted.next (by nofun) (.receiveCommand rfl rfl rfl)).next (by nofun)
    (.enterSelect rfl rfl rfl)).next (by nofun) (.takeRequest rfl rfl rfl)
  have written := taken.next (by nofun) (.write rfl rfl)
  refine ⟨_, written, by decide, ?_⟩
  exact (guarded_command_stays_on_connection controllerEnv written (k := 0)
    (a := ⟨true, _, _, some ⟨0, 0, .controller⟩⟩) rfl rfl).2

end System

end InverterGateway.Gateway

/-
# Gateway.Delivery — where a native command waits while the broker is away

The two native commands are not guarded: they are accepted whether the gateway is
connected or not, and wait for a connection in the command channel, with the
producer, and in the client's request channel.  An attempt to connect that fails
leaves them there.  What they do not survive is `EventLoop::clean`: it moves the
request channel to the pending list, and the next clean session clears that
(`native_command_dropped`).  In the runs that clean only while no such command is
exposed to it, every one waits where the next connection takes it from, or was
transmitted (`native_command_kept`).
-/
import InverterGateway.Gateway.Replay

namespace InverterGateway.Gateway

open InverterGateway.Theory InverterGateway.Rumqttc

set_option autoImplicit false

variable {F : Type}

/-- The publish of an unguarded command. -/
def message (k : Nat) (request : CommandRequest) (pkid : Nat) : Publish :=
  { Publish.new request.topic .atLeastOnce request.payload.toUTF8 (.command k) with pkid := pkid }

/-! ## The publish of a native command -/

section Native

variable [Binary64 F] (env : Env F)

omit [Binary64 F] in
/-- Topics that end differently are different. -/
theorem topic_ne {s t u v : String} (ends : t.toList.getLast? ≠ v.toList.getLast?)
    (short : t.toList ≠ []) (short' : v.toList ≠ []) : s ++ t ≠ u ++ v := by
  intro same
  have lists := congrArg (fun topic => topic.toList.getLast?) same
  simp only [String.toList_append, List.getLast?_append_of_ne_nil _ short,
    List.getLast?_append_of_ne_nil _ short'] at lists
  exact ends lists

/-- An unguarded request is a native one: its topic takes no wildcard, and is no
topic of the controller. -/
theorem native_topic {name : String} {request : CommandRequest}
    (listed : Whitelisted F env.cfg name request) (unguarded : request.guard = none) :
    ∃ suffix, request.topic = env.cfg.writeTopicPrefix ++ suffix ∧ validTopic suffix = true ∧
      ∀ command ∈ ["ess_mode", "set_ess_mode", "setpoint_override", "electricity_tariff"],
        request.topic ≠ controllerTopic env.cfg command := by
  cases listed with
  | silenceAlarm =>
      refine ⟨_, rfl, by decide, fun command found => ?_⟩
      simp only [List.mem_cons, List.not_mem_nil, or_false] at found
      rcases found with rfl | rfl | rfl | rfl <;>
        exact topic_ne (by decide) (by decide) (by decide)
  | acknowledgeAll =>
      refine ⟨_, rfl, by decide, fun command found => ?_⟩
      simp only [List.mem_cons, List.not_mem_nil, or_false] at found
      rcases found with rfl | rfl | rfl | rfl <;>
        exact topic_ne (by decide) (by decide) (by decide)
  | controller => cases unguarded
  | water => cases unguarded

/-- **A native command is published with its topic, its payload and QoS 1**, when
the client accepts the write prefix. -/
theorem native_publish {name : String} {request : CommandRequest}
    (listed : Whitelisted F env.cfg name request) (unguarded : request.guard = none)
    (valid : validTopic env.cfg.writeTopicPrefix = true) (k : Nat) :
    env.commandPublish k request = some (.publish (message k request 0)) := by
  obtain ⟨suffix, topic, plain, other⟩ := native_topic env listed unguarded
  have accepted : validTopic request.topic = true := by
    rw [topic]
    exact validTopic_append.2 ⟨valid, plain⟩
  have dry : request.isWaterCommand = false := by
    unfold CommandRequest.isWaterCommand
    rw [unguarded]
  have qos : env.commandQos request = .atLeastOnce := by
    have apart : ∀ command ∈ ["ess_mode", "set_ess_mode", "setpoint_override", "electricity_tariff"],
        (request.topic == controllerTopic env.cfg command) = false := fun command found =>
      beq_eq_false_iff_ne.2 (other command found)
    unfold Env.commandQos
    rw [dry, apart _ (by simp), apart _ (by simp), apart _ (by simp), apart _ (by simp)]
    rfl
  unfold Env.commandPublish publishRequest
  rw [if_pos accepted, qos]
  rfl

end Native

theorem Phase.out_of_handled {phase : Phase} {n : Nat} (reads : phase.handled = some n) :
    phase.out = none := by
  cases phase with
  | reading count reply =>
      cases reply with
      | none => rfl
      | some packet => cases reads
  | select requests => rfl
  | _ => cases reads

namespace System

variable (env : Env F)

/-- The producer hands a native command to the client. -/
theorem receiveCommand_native (s : System F) {k : Nat} {request : CommandRequest}
    (unguarded : request.guard = none)
    (made : env.commandPublish k request = some (.publish (message k request 0))) :
    s.receiveCommand env k request = { s with work := [.publish (message k request 0)] } := by
  unfold receiveCommand
  rw [made]
  dsimp only
  rw [unguarded_iff.2 unguarded]
  rfl

section Reached

variable [Binary64 F]

/-! ## Every accepted request is whitelisted -/

/-- The requests the handlers built and queued are on the whitelist. -/
structure Listed (s : System F) : Prop where
  held : ∀ r ∈ s.held, ∃ name, Whitelisted F env.cfg name r
  accepted : ∀ a ∈ s.accepted, ∃ name, Whitelisted F env.cfg name a.request

theorem step_held {s t : System F} {l : Label F} (step : Step env s l t) (listed : s.Listed env) :
    ∀ r ∈ t.held, ∃ name, Whitelisted F env.cfg name r := by
  cases step with
  | build name body built =>
      intro r found
      rcases List.mem_append.1 found with here | new
      · exact listed.held r here
      · rw [List.mem_singleton.1 new]
        exact ⟨name, commandRequest_whitelisted built⟩
  | send i here running => exact fun r found => listed.held r (List.mem_of_mem_eraseIdx found)
  | @handle result pulled polled =>
      rw [(s.handle_frame env pulled result).held]
      exact listed.held
  | @receiveCommand id request rest runs waits queued =>
      obtain ⟨requests, work, -, same⟩ :=
        receiveCommand_eq env { s with commands := rest } id request
      rw [same]
      exact listed.held
  | @handOver request rest runs waiting room =>
      obtain ⟨requests, -, same⟩ := s.trySend_eq request
      rw [same]
      exact listed.held
  | tryDisconnect =>
      obtain ⟨requests, -, same⟩ := s.trySend_eq .disconnect
      rw [same]
      exact listed.held
  | _ => exact listed.held

theorem step_listed {s t : System F} {l : Label F} (step : Step env s l t) (listed : s.Listed env) :
    t.Listed env := by
  refine ⟨step_held env step listed, ?_⟩
  rcases step_accepts env step with same | ⟨request, held, added, -⟩
  · rw [same]
    exact listed.accepted
  · rw [added]
    intro a found
    rcases List.mem_append.1 found with before | new
    · exact listed.accepted a before
    · rw [List.mem_singleton.1 new]
      exact listed.held request held

/-- **Only whitelisted requests are ever accepted.** -/
theorem listed_of_reaches {ok : System F → Label F → Prop} {s : System F}
    (reached : (bridge env).Reaches ok s) : s.Listed env :=
  Machine.Reaches.invariant (P := fun s => s.Listed env)
    (fun _ initial => by
      rw [initial]
      exact ⟨nofun, nofun⟩)
    (fun _ _ _ _ listed _ step => step_listed env step listed) reached

/-! ## The session always has a slot for the next publish -/

theorem step_sized {s t : System F} {l : Label F} (step : Step env s l t)
    (sized : s.eventloop.state.Sized) : t.eventloop.state.Sized := by
  have apart := step_apart env step
  cases step with
  | yieldBuffered => exact ⟨sized.slots, sized.next⟩
  | flush => exact ⟨sized.slots, sized.next⟩
  | readPacket packet reads room up handled => exact sized.handleIncoming _
  | readRejected packet pulled reads room up rejected => exact (sized.handleIncoming _).clean
  | @takeRequest request taken packet enabled next handled =>
      rw [← (EventLoop.nextRequest_frame next).1] at sized
      exact sized.handleOutgoing request
  | @requestRejected request taken e pulled enabled next rejected =>
      rw [← (EventLoop.nextRequest_frame next).1] at sized
      exact (sized.handleOutgoing request).clean
  | ping selects handled => exact sized.handleOutgoing .pingReq
  | pingRejected pulled selects rejected => exact (sized.handleOutgoing .pingReq).clean
  | fail pulled selects => exact sized.clean
  | @handle result pulled polled =>
      rcases s.handle_loop env pulled result with ⟨loop, -⟩ | ⟨-, state, -⟩
      · rw [loop]
        exact sized
      · rw [state]
        exact sized.clean
  | receiveCommand | handOver | tryDisconnect =>
      rw [(apart rfl).state]
      exact sized
  | _ => exact sized

theorem sized_of_reaches {ok : System F → Label F → Prop} {s : System F}
    (reached : (bridge env).Reaches ok s) : s.eventloop.state.Sized :=
  Machine.Reaches.invariant (P := fun s : System F => s.eventloop.state.Sized)
    (fun _ initial => by
      rw [initial]
      exact MqttState.new_sized (by decide) false)
    (fun _ _ _ _ sized _ step => step_sized env step sized) reached

/-! ## Where a command waits -/

/-- A disconnected gateway accepted this command, which is not guarded. -/
def Offline (s : System F) (k : Nat) (request : CommandRequest) : Prop :=
  s.accepted[k]? = some ⟨false, request⟩ ∧ request.guard = none

/-- Its message was flushed to a broker connection. -/
def Transmitted (s : System F) (k : Nat) (request : CommandRequest) : Prop :=
  ∃ c pkid, (c, .publish (message k request pkid)) ∈ s.transmitted

/-- The places a command passes on its way to the broker. -/
inductive Waiting (s : System F) (k : Nat) (request : CommandRequest) : Prop
  | channel (here : (k, request) ∈ s.commands)
  | producer (here : .publish (message k request 0) ∈ s.work)
  | requests (here : .publish (message k request 0) ∈ s.eventloop.requests)
  | collision (pkid : Nat) (here : s.eventloop.state.collision = some (message k request pkid))
  | out (pkid : Nat) (here : s.phase.out = some (.publish (message k request pkid)))
  | unflushed (pkid : Nat) (here : .publish (message k request pkid) ∈ s.unflushed)
  | transmitted (sent : s.Transmitted k request)

/-- Queued anywhere, the pending list and the in-flight table included, or transmitted. -/
def Kept (s : System F) (k : Nat) (request : CommandRequest) : Prop :=
  s.Waiting k request ∨ ∃ pkid, .publish (message k request pkid) ∈ s.eventloop.pending ∨
    some (message k request pkid) ∈ s.eventloop.state.outgoingPub

/-- What `EventLoop::clean` would move to the pending list, or drop unsent. -/
inductive Exposed (s : System F) (pulled : Bool) (k : Nat) (request : CommandRequest) : Prop
  | requests (here : .publish (message k request 0) ∈ s.eventloop.requests)
  | pulled (pulls : pulled = true) (here : s.work.head? = some (.publish (message k request 0)))
  | out (pkid : Nat) (here : s.phase.out = some (.publish (message k request pkid)))
  | unflushed (pkid : Nat) (here : .publish (message k request pkid) ∈ s.unflushed)

/-- Whether a step runs `EventLoop::clean`, and what its drain pulls along. -/
def cleans (s : System F) : Label F → Option Bool
  | .readRejected _ pulled | .requestRejected pulled | .pingRejected pulled | .fail pulled =>
      some pulled
  | .handle pulled =>
      match s.phase with
      | .handle result => if s.connected && result.disconnects then some pulled else none
      | _ => none
  | _ => none

/-- The gateway is not shut down, and the broker starts every session clean. -/
def Serving (s : System F) (l : Label F) : Prop :=
  s.CleanSession l ∧ l ≠ .stop ∧ l ≠ .tryDisconnect

/-- The condition: the event loop is cleaned only while no command accepted
offline is exposed before it was transmitted. -/
def CleansUnexposed (s : System F) (l : Label F) : Prop :=
  s.Serving l ∧ ∀ pulled, s.cleans l = some pulled → ∀ k request, s.Offline k request →
    s.Exposed pulled k request → s.Transmitted k request

/-- A step that does not clean meets the condition. -/
theorem next_quiet {s t : System F} {l : Label F} (reached : (bridge env).Reaches CleansUnexposed s)
    (step : Step env s l t) (serving : s.Serving l) (quiet : s.cleans l = none) :
    (bridge env).Reaches CleansUnexposed t := by
  refine reached.next ⟨serving, fun pulled cleaned => ?_⟩ step
  rw [quiet] at cleaned
  cases cleaned

/-- A clean of an event loop with nothing to drain meets it too. -/
theorem next_drained {s t : System F} {l : Label F}
    (reached : (bridge env).Reaches CleansUnexposed s) (step : Step env s l t)
    (serving : s.Serving l) (requests : s.eventloop.requests = []) (work : s.work = [])
    (out : s.phase.out = none) (unflushed : s.unflushed = []) :
    (bridge env).Reaches CleansUnexposed t := by
  refine reached.next ⟨serving, fun pulled _ k request _ exposed => ?_⟩ step
  cases exposed with
  | requests here => rw [requests] at here; cases here
  | pulled _ here => rw [work] at here; cases here
  | out pkid here => rw [out] at here; cases here
  | unflushed pkid here => rw [unflushed] at here; cases here

/-! ## How a command moves -/

section Moves

variable {s t : System F} {k : Nat} {request : CommandRequest}

omit [Binary64 F]

theorem Transmitted.grow (sent : s.Transmitted k request) (longer : s.transmitted <+: t.transmitted) :
    t.Transmitted k request := by
  obtain ⟨c, pkid, here⟩ := sent
  exact ⟨c, pkid, longer.subset here⟩

/-- A step that takes nothing out of any place. -/
theorem Waiting.frame (waiting : s.Waiting k request)
    (queues : s.commands ⊆ t.commands ∧ s.work ⊆ t.work ∧
      s.eventloop.requests ⊆ t.eventloop.requests)
    (collision : t.eventloop.state.collision = s.eventloop.state.collision)
    (out : s.phase.out = none ∨ t.phase.out = s.phase.out)
    (sent : t.unflushed = s.unflushed ∧ t.transmitted = s.transmitted) : t.Waiting k request := by
  obtain ⟨commands, work, requests⟩ := queues
  obtain ⟨unflushed, transmitted⟩ := sent
  cases waiting with
  | channel here => exact .channel (commands here)
  | producer here => exact .producer (work here)
  | requests here => exact .requests (requests here)
  | collision pkid here => exact .collision pkid (collision.trans here)
  | out pkid here =>
      rcases out with nothing | same
      · rw [nothing] at here
        cases here
      · exact .out pkid (same.trans here)
  | unflushed pkid here => exact .unflushed pkid (by rw [unflushed]; exact here)
  | transmitted sent => exact .transmitted (sent.grow (by rw [transmitted]))

/-- A step of the poller that touches neither the queues nor the network. -/
theorem Waiting.same (waiting : s.Waiting k request) (out : s.phase.out = none)
    (queues : t.commands = s.commands ∧ t.work = s.work ∧
      t.eventloop.requests = s.eventloop.requests ∧
      t.eventloop.state.collision = s.eventloop.state.collision)
    (sent : t.unflushed = s.unflushed ∧ t.transmitted = s.transmitted) : t.Waiting k request := by
  obtain ⟨commands, work, requests, collision⟩ := queues
  refine waiting.frame ⟨?_, ?_, ?_⟩ collision (Or.inl out) sent
  · rw [commands]
    exact List.Subset.refl _
  · rw [work]
    exact List.Subset.refl _
  · rw [requests]
    exact List.Subset.refl _

/-- A cleaning step moves away only what is exposed to it. -/
theorem Waiting.cleaned {pulled : Bool} (waiting : s.Waiting k request)
    (commands : t.commands = s.commands) (work : t.work = (s.clean pulled).work)
    (collision : t.eventloop.state.collision = s.eventloop.state.collision)
    (transmitted : t.transmitted = s.transmitted)
    (unexposed : s.Exposed pulled k request → s.Transmitted k request) : t.Waiting k request := by
  have sent : s.Transmitted k request → t.Waiting k request := fun sent =>
    .transmitted (sent.grow (by rw [transmitted]))
  cases waiting with
  | channel here => exact .channel (by rw [commands]; exact here)
  | producer here =>
      cases pulled with
      | false => exact .producer (by rw [work]; exact here)
      | true =>
          cases queue : s.work with
          | nil =>
              rw [queue] at here
              cases here
          | cons first rest =>
              rw [queue] at here
              rcases List.mem_cons.1 here with head | later
              · exact sent (unexposed (.pulled rfl (by rw [queue, head]; rfl)))
              · refine .producer ?_
                rw [work]
                show _ ∈ s.work.drop 1
                rw [queue]
                exact later
  | requests here => exact sent (unexposed (.requests here))
  | collision pkid here => exact .collision pkid (collision.trans here)
  | out pkid here => exact sent (unexposed (.out pkid here))
  | unflushed pkid here => exact sent (unexposed (.unflushed pkid here))
  | transmitted already => exact sent already

/-- Writing a packet leaves it unflushed. -/
theorem Waiting.write {packet : Packet} {c : Nat} {phase : Phase} (waiting : s.Waiting k request)
    (out : s.phase.out = some packet) :
    ({ s.write c packet with phase := phase } : System F).Waiting k request := by
  cases waiting with
  | channel here => exact .channel here
  | producer here => exact .producer here
  | requests here => exact .requests here
  | collision pkid here => exact .collision pkid here
  | out pkid here =>
      rw [out] at here
      obtain rfl := Option.some.inj here
      exact .unflushed pkid (List.mem_append_right _ List.mem_cons_self)
  | unflushed pkid here => exact .unflushed pkid (List.mem_append_left _ here)
  | transmitted sent => exact .transmitted sent

/-- Flushing transmits what was written. -/
theorem Waiting.flush {c : Nat} {events : List Event} {phase : Phase} (waiting : s.Waiting k request)
    (out : s.phase.out = none) :
    ({ s.setState { s.eventloop.state with events := events } with
        transmitted := s.transmitted ++ s.unflushed.map (fun packet => (c, packet))
        unflushed := []
        phase := phase } : System F).Waiting k request := by
  cases waiting with
  | channel here => exact .channel here
  | producer here => exact .producer here
  | requests here => exact .requests here
  | collision pkid here => exact .collision pkid here
  | out pkid here =>
      rw [out] at here
      cases here
  | unflushed pkid here =>
      exact .transmitted ⟨c, pkid, List.mem_append_right _ (List.mem_map_of_mem here)⟩
  | transmitted sent => exact .transmitted (sent.grow (List.prefix_append _ _))

/-- Receiving a packet may release the collision, as the reply. -/
theorem Waiting.read {packet : Packet} {reply : Option Packet} {n : Nat}
    (waiting : s.Waiting k request) (out : s.phase.out = none)
    (handled : (s.eventloop.state.handleIncoming packet).2 = .ok reply) :
    ({ s.setState (s.eventloop.state.handleIncoming packet).1 with
        phase := .reading n reply } : System F).Waiting k request := by
  cases waiting with
  | channel here => exact .channel here
  | producer here => exact .producer here
  | requests here => exact .requests here
  | collision pkid here =>
      rcases s.eventloop.state.handleIncoming_cases packet with ⟨kept, -⟩ | ⟨p, held, -, released⟩
      · exact .collision pkid (kept.trans here)
      · rw [here] at held
        obtain rfl := Option.some.inj held
        rw [released] at handled
        exact .out pkid (Except.ok.inj handled).symm
  | out pkid here =>
      rw [out] at here
      cases here
  | unflushed pkid here => exact .unflushed pkid here
  | transmitted sent => exact .transmitted sent

/-- Taking a request sends the message or makes it the collision. -/
theorem Waiting.take {taken : EventLoop} {next : Request} {packet : Option Packet}
    (waiting : s.Waiting k request) (out : s.phase.out = none) (sized : s.eventloop.state.Sized)
    (clear : s.eventloop.state.collision = none) (state : taken.state = s.eventloop.state)
    (requests : s.eventloop.requests = next :: taken.requests)
    (handled : (taken.state.handleOutgoing next).2 = .ok packet) :
    ({ s with
        eventloop := taken.setState (taken.state.handleOutgoing next).1
        phase := .sending packet } : System F).Waiting k request := by
  cases waiting with
  | channel here => exact .channel here
  | producer here => exact .producer here
  | requests here =>
      rw [requests] at here
      rcases List.mem_cons.1 here with head | later
      · subst head
        rw [← state] at sized
        have fresh : (message k request 0).pkid = 0 := rfl
        obtain ⟨pkid, ⟨sent, -⟩ | ⟨-, collided⟩⟩ := MqttState.handleOutgoing_fresh sized fresh
        · rw [sent] at handled
          exact .out pkid (Except.ok.inj handled).symm
        · exact .collision pkid collided
      · exact .requests later
  | collision pkid here =>
      rw [clear] at here
      cases here
  | out pkid here =>
      rw [out] at here
      cases here
  | unflushed pkid here => exact .unflushed pkid here
  | transmitted sent => exact .transmitted sent

/-- The producer takes the command off its channel, or another one. -/
theorem Waiting.receive {id : Nat} {received : CommandRequest} {rest : List (Nat × CommandRequest)}
    (waiting : s.Waiting k request) (queued : s.commands = (id, received) :: rest)
    (waits : s.work = []) (unguarded : request.guard = none)
    (made : env.commandPublish k request = some (.publish (message k request 0))) :
    (({ s with commands := rest } : System F).receiveCommand env id received).Waiting k request := by
  by_cases head : (k, request) = (id, received)
  · cases head
    rw [receiveCommand_native env { s with commands := rest } unguarded made]
    exact .producer List.mem_cons_self
  · have later : ({ s with commands := rest } : System F).Waiting k request := by
      cases waiting with
      | channel here =>
          rw [queued] at here
          exact .channel ((List.mem_cons.1 here).resolve_left head)
      | producer here => exact .producer here
      | requests here => exact .requests here
      | collision pkid here => exact .collision pkid here
      | out pkid here => exact .out pkid here
      | unflushed pkid here => exact .unflushed pkid here
      | transmitted sent => exact .transmitted sent
    obtain ⟨requests, work, longer, same⟩ :=
      receiveCommand_eq env { s with commands := rest } id received
    rw [same]
    refine later.frame ⟨List.Subset.refl _, ?_, longer.subset⟩ rfl (Or.inr rfl) ⟨rfl, rfl⟩
    show s.work ⊆ work
    rw [waits]
    exact List.nil_subset _

/-- The producer hands the message over, or another request. -/
theorem Waiting.handOver {next : Request} {rest : List Request} (waiting : s.Waiting k request)
    (handing : s.work = next :: rest) (room : s.eventloop.requests.length < requestCapacity) :
    ({ s.trySend next with work := rest } : System F).Waiting k request := by
  unfold trySend
  rw [if_pos room]
  cases waiting with
  | channel here => exact .channel here
  | producer here =>
      rw [handing] at here
      rcases List.mem_cons.1 here with head | later
      · exact .requests (List.mem_append_right _ (List.mem_singleton.2 head))
      · exact .producer later
  | requests here => exact .requests (List.mem_append_left _ here)
  | collision pkid here => exact .collision pkid here
  | out pkid here => exact .out pkid here
  | unflushed pkid here => exact .unflushed pkid here
  | transmitted sent => exact .transmitted sent

end Moves

/-- **Every step of the condition leaves a waiting command somewhere to wait**, or
transmits it. -/
theorem step_waiting {s t : System F} {l : Label F} {k : Nat} {request : CommandRequest}
    (step : Step env s l t) (meets : s.CleansUnexposed l) (linked : s.Linked) (session : s.Session)
    (sized : s.eventloop.state.Sized) (offline : s.Offline k request)
    (made : env.commandPublish k request = some (.publish (message k request 0)))
    (waiting : s.Waiting k request) : t.Waiting k request := by
  obtain ⟨⟨-, running, -⟩, unexposed⟩ := meets
  have lost : ∀ pulled, s.cleans l = some pulled → s.Exposed pulled k request →
      s.Transmitted k request := fun pulled cleaned => unexposed pulled cleaned k request offline
  have link := linked.link
  cases step with
  | connectFails polling down =>
      exact waiting.same (congrArg Phase.out polling) (by exact ⟨rfl, rfl, rfl, rfl⟩) ⟨rfl, rfl⟩
  | connectSucceeds sessionPresent polling down =>
      exact waiting.same (congrArg Phase.out polling) (by exact ⟨rfl, rfl, rfl, rfl⟩) ⟨rfl, rfl⟩
  | yieldBuffered polling up buffered =>
      exact waiting.same (congrArg Phase.out polling) (by exact ⟨rfl, rfl, rfl, rfl⟩) ⟨rfl, rfl⟩
  | enterSelect polling up empty =>
      exact waiting.same (congrArg Phase.out polling) (by exact ⟨rfl, rfl, rfl, rfl⟩) ⟨rfl, rfl⟩
  | readPacket packet reads room up handled =>
      exact waiting.read (Phase.out_of_handled reads) handled
  | @readRejected c n packet e pulled reads room up rejected =>
      refine waiting.cleaned rfl rfl ?_ rfl (lost pulled rfl)
      rcases s.eventloop.state.handleIncoming_cases (packet.readOn c) with ⟨kept, -⟩ | ⟨p, -, -, sent⟩
      · exact kept
      · rw [rejected] at sent
        cases sent
  | writeReply replies up => exact waiting.write (congrArg Phase.out replies)
  | endRead reads some_read =>
      exact waiting.same (congrArg Phase.out reads) (by exact ⟨rfl, rfl, rfl, rfl⟩) ⟨rfl, rfl⟩
  | @takeRequest next taken packet enabled chosen handled =>
      rw [enabled] at link
      have up : s.Up := link
      have none_pending := session.pending (by rw [up.network]; exact nofun)
      exact waiting.take (congrArg Phase.out enabled) sized (session.clear enabled)
        (EventLoop.nextRequest_frame chosen).1 (EventLoop.nextRequest_new none_pending chosen).1 handled
  | @requestRejected next taken e pulled enabled chosen rejected =>
      refine waiting.cleaned rfl rfl ?_ rfl (lost pulled rfl)
      show (taken.state.handleOutgoing next).1.collision = _
      rw [← (EventLoop.nextRequest_frame chosen).1]
      exact MqttState.handleOutgoing_rejected rejected
  | ping selects handled =>
      have kept := (s.eventloop.state.handleOutgoing_other
        (show ∀ p, Request.pingReq ≠ .publish p from nofun)).1
      exact waiting.same (congrArg Phase.out selects) (by exact ⟨rfl, rfl, rfl, kept⟩) ⟨rfl, rfl⟩
  | pingRejected pulled selects rejected =>
      refine waiting.cleaned rfl rfl ?_ rfl (lost pulled rfl)
      exact MqttState.handleOutgoing_rejected rejected
  | write sends up => exact waiting.write (congrArg Phase.out sends)
  | writeNothing sends =>
      exact waiting.same (congrArg Phase.out sends) (by exact ⟨rfl, rfl, rfl, rfl⟩) ⟨rfl, rfl⟩
  | flush flushes up buffered => exact waiting.flush (congrArg Phase.out flushes)
  | fail pulled selects => exact waiting.cleaned rfl rfl rfl rfl (lost pulled rfl)
  | @handle result pulled polled =>
      have frame := s.handle_frame env pulled result
      rcases s.handle_loop env pulled result with
        ⟨loop, work, unflushed⟩ | ⟨-, state, -, work, connected, disconnects⟩
      · exact waiting.same (congrArg Phase.out polled)
          ⟨frame.commands, work, congrArg EventLoop.requests loop,
            congrArg (fun loop => loop.state.collision) loop⟩ ⟨unflushed, frame.transmitted⟩
      · refine waiting.cleaned frame.commands work (by rw [state]; rfl) frame.transmitted
          (lost pulled ?_)
        simp only [cleans, polled, connected, disconnects, Bool.and_self, if_true]
  | wake sleeps =>
      exact waiting.same (congrArg Phase.out sleeps) (by exact ⟨rfl, rfl, rfl, rfl⟩) ⟨rfl, rfl⟩
  | stop stopped => exact absurd rfl running
  | connectedChanged runs waits seen =>
      refine waiting.frame ⟨List.Subset.refl _, ?_, List.Subset.refl _⟩ rfl (Or.inr rfl) ⟨rfl, rfl⟩
      rw [waits]
      exact List.nil_subset _
  | keepaliveTick runs waits =>
      refine waiting.frame ⟨List.Subset.refl _, ?_, List.Subset.refl _⟩ rfl (Or.inr rfl) ⟨rfl, rfl⟩
      rw [waits]
      exact List.nil_subset _
  | receiveCommand runs waits queued => exact waiting.receive env queued waits offline.2 made
  | handOver runs handing room => exact waiting.handOver handing room
  | send i here running' =>
      exact waiting.frame ⟨List.subset_append_left _ _, List.Subset.refl _, List.Subset.refl _⟩ rfl
        (Or.inr rfl) ⟨rfl, rfl⟩
  | tryDisconnect =>
      obtain ⟨requests, longer, same⟩ := s.trySend_eq .disconnect
      rw [same]
      exact waiting.frame ⟨List.Subset.refl _, List.Subset.refl _, longer.subset⟩ rfl (Or.inr rfl)
        ⟨rfl, rfl⟩
  | build | observe | tick =>
      exact waiting.frame ⟨List.Subset.refl _, List.Subset.refl _, List.Subset.refl _⟩ rfl
        (Or.inr rfl) ⟨rfl, rfl⟩

/-- A command accepted offline was so before the step, or is on the command channel. -/
theorem step_offline {s t : System F} {l : Label F} {k : Nat} {request : CommandRequest}
    (step : Step env s l t) (offline : t.Offline k request) :
    s.Offline k request ∨ (k, request) ∈ t.commands := by
  obtain ⟨place, unguarded⟩ := offline
  rcases step_accepts env step with same | ⟨accepted, -, added, queued⟩
  · rw [same] at place
    exact Or.inl ⟨place, unguarded⟩
  · rw [added] at place
    by_cases old : k < s.accepted.length
    · rw [List.getElem?_append_left old] at place
      exact Or.inl ⟨place, unguarded⟩
    · have within := (List.getElem?_eq_some_iff.1 place).1
      rw [List.length_append, List.length_singleton] at within
      obtain rfl : k = s.accepted.length := by omega
      rw [List.getElem?_concat_length] at place
      obtain rfl : accepted = request := congrArg Accepted.request (Option.some.inj place)
      exact Or.inr queued

theorem waiting_of_reaches (valid : validTopic env.cfg.writeTopicPrefix = true) {s : System F}
    (reached : (bridge env).Reaches CleansUnexposed s) :
    ∀ k request, s.Offline k request → s.Waiting k request :=
  Machine.Reaches.invariant (P := fun s => ∀ k request, s.Offline k request → s.Waiting k request)
    (fun _ initial k request offline => by
      rw [initial] at offline
      cases offline.1)
    (fun s l t before waits meets step k request offline => by
      rcases step_offline env step offline with earlier | queued
      · have linked := linked_of_reaches env before
        have session := session_of_reaches env (fun _ _ meets => meets.1.1) before
        obtain ⟨name, listed⟩ := (listed_of_reaches env before).accepted _
          (List.mem_of_getElem? earlier.1)
        have made := native_publish env listed offline.2 valid k
        exact step_waiting env step meets linked session (sized_of_reaches env before) earlier made
          (waits k request earlier)
      · exact .channel queued) reached

/-- **No native command is lost.**  In the runs that clean the event loop only while
no command accepted offline is exposed before it was transmitted, every such
command is queued, with its topic, its payload and QoS 1, or was transmitted. -/
theorem native_command_kept (valid : validTopic env.cfg.writeTopicPrefix = true) {s : System F}
    (reached : (bridge env).Reaches CleansUnexposed s) {k : Nat} {request : CommandRequest}
    (offline : s.Offline k request) : s.Kept k request :=
  Or.inl (waiting_of_reaches env valid reached k request offline)

end Reached

/-- The alarm silenced through the write prefix of portal `p`. -/
def silenceAlarm : CommandRequest := ⟨"W/p/vebus/0/Alarm", "\x7b\"SilenceAlarm\":\"1\"\x7d", none⟩

/-- Accepted before the first connection, which breaks while the command is still in its
channel; transmitted on the second, which breaks too. -/
theorem native_command_kept_alarm :
    ∃ s : System Int, (bridge controllerEnv).Reaches CleansUnexposed s ∧ s.opened.length = 3 ∧
      s.Offline 0 silenceAlarm ∧ s.Kept 0 silenceAlarm := by
  have start : (bridge controllerEnv).Reaches CleansUnexposed {} := .start rfl
  have built := next_quiet _ start (.build "silence_alarm" .null rfl) ⟨nofun, nofun, nofun⟩ rfl
  have accepted := next_quiet _ built (.send 0 rfl nofun) ⟨nofun, nofun, nofun⟩ rfl
  have first := next_quiet _ accepted (.connectSucceeds false rfl rfl) ⟨nofun, nofun, nofun⟩ rfl
  have up := next_quiet _ first (.handle false rfl) ⟨nofun, nofun, nofun⟩ rfl
  have reads := next_quiet _ up (.enterSelect rfl rfl rfl) ⟨nofun, nofun, nofun⟩ rfl
  have broken := next_drained _ reads (.fail true rfl) ⟨nofun, nofun, nofun⟩ rfl rfl rfl rfl
  have down := next_drained _ broken (.handle true rfl) ⟨nofun, nofun, nofun⟩ rfl rfl rfl rfl
  have awake := next_quiet _ down (.wake rfl) ⟨nofun, nofun, nofun⟩ rfl
  have received := next_quiet _ awake (.receiveCommand rfl rfl rfl) ⟨nofun, nofun, nofun⟩ rfl
  have handed := next_quiet _ received (.handOver rfl rfl (by decide)) ⟨nofun, nofun, nofun⟩ rfl
  have opened := next_quiet _ handed (.connectSucceeds false rfl rfl) ⟨nofun, nofun, nofun⟩ rfl
  have connected := next_quiet _ opened (.handle false rfl) ⟨nofun, nofun, nofun⟩ rfl
  have selects := next_quiet _ connected (.enterSelect rfl rfl rfl) ⟨nofun, nofun, nofun⟩ rfl
  have taken := next_quiet _ selects (.takeRequest rfl rfl rfl) ⟨nofun, nofun, nofun⟩ rfl
  have written := next_quiet _ taken (.write rfl rfl) ⟨nofun, nofun, nofun⟩ rfl
  have flushed := next_quiet _ written (.flush rfl rfl rfl) ⟨nofun, nofun, nofun⟩ rfl
  have handled := next_quiet _ flushed (.handle false rfl) ⟨nofun, nofun, nofun⟩ rfl
  have selects' := next_quiet _ handled (.enterSelect rfl rfl rfl) ⟨nofun, nofun, nofun⟩ rfl
  have broken' := next_drained _ selects' (.fail true rfl) ⟨nofun, nofun, nofun⟩ rfl rfl rfl rfl
  have down' := next_drained _ broken' (.handle true rfl) ⟨nofun, nofun, nofun⟩ rfl rfl rfl rfl
  have awake' := next_quiet _ down' (.wake rfl) ⟨nofun, nofun, nofun⟩ rfl
  have again := next_quiet _ awake' (.connectSucceeds false rfl rfl) ⟨nofun, nofun, nofun⟩ rfl
  have last := next_quiet _ again (.handle false rfl) ⟨nofun, nofun, nofun⟩ rfl
  refine ⟨_, last, rfl, ⟨rfl, rfl⟩, ?_⟩
  exact native_command_kept controllerEnv (by decide) last ⟨rfl, rfl⟩

/-- A command accepted offline is in the request channel when a connection breaks
that lasted too short to take it.  The channel is drained into the pending list,
and the next connection, a clean session, clears that. -/
theorem native_command_dropped :
    ∃ s : System Int, (bridge controllerEnv).Reaches Serving s ∧
      s.Offline 0 silenceAlarm ∧ ¬ s.Kept 0 silenceAlarm := by
  have start : (bridge controllerEnv).Reaches Serving {} := .start rfl
  have built := start.next (by exact ⟨nofun, nofun, nofun⟩) (.build "silence_alarm" .null rfl)
  have accepted := built.next (by exact ⟨nofun, nofun, nofun⟩) (.send 0 rfl nofun)
  have received := accepted.next (by exact ⟨nofun, nofun, nofun⟩) (.receiveCommand rfl rfl rfl)
  have handed := received.next (by exact ⟨nofun, nofun, nofun⟩) (.handOver rfl rfl (by decide))
  have opened := handed.next (by exact ⟨nofun, nofun, nofun⟩) (.connectSucceeds false rfl rfl)
  have connected := opened.next (by exact ⟨nofun, nofun, nofun⟩) (.handle false rfl)
  have selects := connected.next (by exact ⟨nofun, nofun, nofun⟩) (.enterSelect rfl rfl rfl)
  have broken := selects.next (by exact ⟨nofun, nofun, nofun⟩) (.fail false rfl)
  have sleeps := broken.next (by exact ⟨nofun, nofun, nofun⟩) (.handle false rfl)
  have awake := sleeps.next (by exact ⟨nofun, nofun, nofun⟩) (.wake rfl)
  have again := awake.next (by exact ⟨nofun, nofun, nofun⟩) (.connectSucceeds false rfl rfl)
  refine ⟨_, again, ⟨rfl, rfl⟩, ?_⟩
  rintro (waiting | ⟨pkid, pending | inflight⟩)
  · cases waiting with
    | channel here => cases here
    | producer here => cases here
    | requests here => cases here
    | collision pkid here => cases here
    | out pkid here => cases here
    | unflushed pkid here => cases here
    | transmitted sent =>
        obtain ⟨c, pkid, here⟩ := sent
        cases here
  · cases pending
  · -- the table was emptied with the connection
    have free := (MqttState.clean_idle (MqttState.clean _)).slots _ inflight
    cases free

end System

end InverterGateway.Gateway

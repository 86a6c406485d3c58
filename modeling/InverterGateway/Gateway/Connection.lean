/-
# Gateway.Connection — the connected flag follows the network connection

The flag is driven by what the event loop yields, and the event loop drops its
connection on its own.  `Link` says, for each place the poller can be at, how the
two stand: equal wherever the poller polls or selects, apart only between the
return of a poll and its handling.  Each connection is opened in a generation of
its own, in fact the one that is its number.
-/
import InverterGateway.Gateway.Bridge

namespace InverterGateway.Gateway

open InverterGateway.Theory InverterGateway.Rumqttc

set_option autoImplicit false

variable {F : Type}

/-- The results on which the bridge calls `handle_disconnect`. -/
def Polled.disconnects : Polled → Bool
  | .error | .event (.incoming .disconnect) => true
  | _ => false

theorem Polled.disconnects_iff {result : Polled} :
    result.disconnects = true ↔ result = .error ∨ result = .event (.incoming .disconnect) := by
  cases result with
  | connAck => simp [disconnects]
  | error => simp [disconnects]
  | event e =>
      cases e with
      | outgoing note => simp [disconnects]
      | incoming packet => cases packet <;> simp [disconnects]

/-- The steps of the producer, the handlers and the clock. -/
def Label.elsewhere : Label F → Bool
  | .connectedChanged | .keepaliveTick | .receiveCommand | .handOver | .build _ _ | .send _
  | .observe _ | .tick _ | .tryDisconnect => true
  | _ => false

namespace System

/-! ## How the flag and the connection stand -/

/-- Connected, over the connection that carries this generation. -/
structure Up (s : System F) : Prop where
  connected : s.connected = true
  network : s.eventloop.network = some s.generation
  opened : s.opened.length = s.generation + 1

/-- Not connected, and every connection of an earlier generation. -/
structure Down (s : System F) : Prop where
  connected : s.connected = false
  network : s.eventloop.network = none
  opened : s.opened.length = s.generation

/-- The network is open and its ConnAck not yet handled. -/
structure Opening (s : System F) : Prop where
  connected : s.connected = false
  network : s.eventloop.network = some s.generation
  opened : s.opened.length = s.generation

/-- The network is lost and its error not yet handled. -/
structure Broken (s : System F) : Prop where
  connected : s.connected = true
  network : s.eventloop.network = none
  opened : s.opened.length = s.generation + 1

/-- The flag and the connection, by the place the poller is at. -/
def Link (s : System F) : Phase → Prop
  | .poll => s.Up ∨ s.Down
  | .handle .connAck => s.Opening
  | .handle .error => s.Broken ∨ s.Down
  | .sleep => s.Down
  | .stopped => True
  | _ => s.Up

/-- The invariant: the connections opened so far were numbered by generation. -/
structure Linked (s : System F) : Prop where
  numbered : s.opened = List.range s.opened.length
  link : s.Link s.phase

theorem Link.frame {s t : System F} {phase : Phase} (link : s.Link phase)
    (connected : t.connected = s.connected) (generation : t.generation = s.generation)
    (network : t.eventloop.network = s.eventloop.network) (opened : t.opened = s.opened) :
    t.Link phase := by
  have up : s.Up → t.Up := fun h =>
    ⟨connected.trans h.connected, by rw [network, generation, h.network],
      by rw [opened, generation, h.opened]⟩
  have down : s.Down → t.Down := fun h =>
    ⟨connected.trans h.connected, network.trans h.network, by rw [opened, generation, h.opened]⟩
  cases phase with
  | poll => exact link.imp up down
  | sleep => exact down link
  | stopped => trivial
  | handle result =>
      cases result with
      | connAck =>
          exact ⟨connected.trans link.connected, by rw [network, generation, link.network],
            by rw [opened, generation, link.opened]⟩
      | error =>
          refine link.imp (fun h => ?_) down
          exact ⟨connected.trans h.connected, network.trans h.network,
            by rw [opened, generation, h.opened]⟩
      | event e => exact up link
  | _ => exact up link

theorem Link.up_of_selecting {s : System F} {phase : Phase} (link : s.Link phase)
    (selects : phase.selecting = true) : s.Up := by
  cases phase <;> first | exact link | cases selects

theorem Link.up_of_handled {s : System F} {phase : Phase} {n : Nat} (link : s.Link phase)
    (reads : phase.handled = some n) : s.Up := by
  cases phase <;> first | exact link | cases reads

/-- A network connection seen while polling is the connected one. -/
theorem Link.up_of_network {s : System F} {c : Nat} (link : s.Link .poll)
    (network : s.eventloop.network = some c) : s.Up := by
  rcases link with up | down
  · exact up
  · have none := down.network
    rw [network] at none
    cases none

variable (env : Env F)

/-- What handling a result does: it connects, nothing, applies a message, or
disconnects. -/
theorem handle_cases (s : System F) (pulled : Bool) (result : Polled) :
    (∃ opened, s.opened <+: opened ∧
      s.handle env pulled result = { s.handleConnAck with opened := opened, phase := .poll }) ∨
    s.handle env pulled result = { s with phase := .poll } ∨
    (∃ p op, result = .event (.incoming (.publish p)) ∧ env.operation p = some op ∧
      s.handle env pulled result =
        { s with
          shared := s.shared.apply (s.now, op)
          applied := s.applied ++ [⟨s.generation, s.now, p⟩]
          phase := .poll }) ∨
    (∃ phase, (phase = .poll ∨ phase = .sleep) ∧ result.disconnects = true ∧
      s.handle env pulled result = { s.handleDisconnect env pulled with phase := phase }) := by
  cases result with
  | connAck => exact Or.inl ⟨_, List.prefix_append _ _, rfl⟩
  | error => exact Or.inr (Or.inr (Or.inr ⟨.sleep, Or.inr rfl, rfl, rfl⟩))
  | event e =>
      cases e with
      | outgoing note => exact Or.inr (Or.inl rfl)
      | incoming packet =>
          cases packet with
          | connAck => exact Or.inl ⟨_, List.prefix_rfl, rfl⟩
          | disconnect => exact Or.inr (Or.inr (Or.inr ⟨.poll, Or.inl rfl, rfl, rfl⟩))
          | publish p =>
              right
              cases known : env.operation p with
              | none =>
                  left
                  simp only [handle, handleEvent, handlePublish, known]
              | some op =>
                  right
                  left
                  refine ⟨p, op, rfl, known, ?_⟩
                  simp only [handle, handleEvent, handlePublish, known]
          | _ => exact Or.inr (Or.inl rfl)

/-! ## What handling a result does to the link -/

theorem Broken.of_up {s : System F} (up : s.Up) (pulled : Bool) : (s.fail pulled).Broken :=
  ⟨up.connected, rfl, up.opened⟩

/-- A disconnection of a connected gateway ends the generation. -/
theorem handleDisconnect_down {s : System F} (pulled : Bool)
    (open_last : s.connected = true ∧ s.opened.length = s.generation + 1 ∨ s.Down) :
    (s.handleDisconnect env pulled).Down := by
  unfold handleDisconnect
  rcases open_last with ⟨connected, opened⟩ | down
  · rw [if_pos connected]
    refine ⟨s.shared.telemetry.setConnected_connected false, rfl, ?_⟩
    have bump : (s.shared.telemetry.setConnected false).generation = s.generation + 1 := by
      rw [Telemetry.setConnected_generation]
      have up : s.shared.telemetry.connected = true := connected
      simp [up]
    exact opened.trans bump.symm
  · have off : s.shared.telemetry.connected = false := down.connected
    have same : s.shared.telemetry.setConnected false = s.shared.telemetry := by
      rw [← off]
      exact s.shared.telemetry.setConnected_same
    rw [if_neg (by simp [down.connected])]
    refine ⟨s.shared.telemetry.setConnected_connected false, down.network, ?_⟩
    show s.opened.length = (s.shared.telemetry.setConnected false).generation
    rw [same]
    exact down.opened

/-- An operation made from a message changes neither the flag nor the generation. -/
theorem operation_apply {p : Publish} {op : SharedOp F} (known : env.operation p = some op)
    (shared : Shared F) (now : Instant) :
    (shared.apply (now, op)).telemetry.connected = shared.telemetry.connected ∧
      (shared.apply (now, op)).telemetry.generation = shared.telemetry.generation := by
  unfold Env.operation at known
  rw [Shared.apply_connected, Shared.apply_generation]
  split at known
  · obtain ⟨value, -, rfl⟩ := Option.map_eq_some_iff.1 known
    exact ⟨rfl, rfl⟩
  split at known
  · cases known
    exact ⟨rfl, rfl⟩
  · obtain ⟨update, -, rfl⟩ := Option.map_eq_some_iff.1 known
    exact ⟨rfl, rfl⟩

theorem observes_apply {op : SharedOp F} (observes : op.Observes) (shared : Shared F)
    (now : Instant) :
    (shared.apply (now, op)).telemetry.connected = shared.telemetry.connected ∧
      (shared.apply (now, op)).telemetry.generation = shared.telemetry.generation := by
  rw [Shared.apply_connected, Shared.apply_generation]
  cases op <;> first | exact ⟨rfl, rfl⟩ | cases observes

theorem handlePublish_link {s : System F} (p : Publish) :
    (s.handlePublish env p).connected = s.connected ∧
      (s.handlePublish env p).generation = s.generation ∧
      (s.handlePublish env p).eventloop = s.eventloop ∧
      (s.handlePublish env p).opened = s.opened := by
  unfold handlePublish
  split
  · exact ⟨rfl, rfl, rfl, rfl⟩
  · rename_i op known
    obtain ⟨connected, generation⟩ := operation_apply env known s.shared s.now
    exact ⟨connected, generation, rfl, rfl⟩

/-- Handling an event leaves the gateway connected, or disconnects it. -/
theorem handleEvent_link {s : System F} (up : s.Up) (pulled : Bool) (e : Event) :
    ((s.handleEvent env pulled e).Up ∨ (s.handleEvent env pulled e).Down) ∧
      (s.handleEvent env pulled e).opened = s.opened := by
  have same : (s.Up ∨ s.Down) ∧ s.opened = s.opened := ⟨Or.inl up, rfl⟩
  cases e with
  | outgoing note => exact same
  | incoming packet =>
      cases packet with
      | publish p =>
          obtain ⟨connected, generation, loop, opened⟩ := handlePublish_link env (s := s) p
          have link : s.Link .poll := Or.inl up
          exact ⟨link.frame connected generation (by rw [handleEvent, loop]) opened, opened⟩
      | connAck =>
          have still : s.shared.telemetry.setConnected true = s.shared.telemetry := by
            have on : s.shared.telemetry.connected = true := up.connected
            rw [← on]
            exact s.shared.telemetry.setConnected_same
          have link : s.Link .poll := Or.inl up
          refine ⟨link.frame ?_ ?_ rfl rfl, rfl⟩
          · show (s.shared.telemetry.setConnected true).connected = s.connected
            rw [still]
          · show (s.shared.telemetry.setConnected true).generation = s.generation
            rw [still]
      | disconnect =>
          refine ⟨Or.inr (handleDisconnect_down env pulled (Or.inl ⟨up.connected, up.opened⟩)), ?_⟩
          simp only [handleEvent, handleDisconnect]
          split <;> rfl
      | _ => exact same

/-- The ConnAck of a new connection connects, in the connection's generation. -/
theorem handleConnAck_up {s : System F} (opening : s.Opening) (pulled : Bool) :
    (s.handle env pulled .connAck).Up := by
  have off : s.shared.telemetry.connected = false := opening.connected
  have generation : (s.shared.telemetry.setConnected true).generation = s.generation := by
    rw [Telemetry.setConnected_generation, off]
    rfl
  refine ⟨s.shared.telemetry.setConnected_connected true, ?_, ?_⟩
  · show s.eventloop.network = some (s.shared.telemetry.setConnected true).generation
    rw [generation, opening.network]
  · show (s.opened ++ [s.generation]).length = (s.shared.telemetry.setConnected true).generation + 1
    rw [generation, List.length_append, opening.opened]
    rfl

/-- Handling the loss of a connection ends its generation. -/
theorem Broken.handled {s : System F} (broken : s.Broken) (pulled : Bool) :
    (s.handle env pulled .error).connected = false ∧
      (s.handle env pulled .error).generation = s.generation + 1 := by
  have down := handleDisconnect_down env pulled (Or.inl ⟨broken.connected, broken.opened⟩)
  have opened : (s.handleDisconnect env pulled).opened = s.opened := by
    unfold handleDisconnect
    split <;> rfl
  refine ⟨down.connected, ?_⟩
  show (s.handleDisconnect env pulled).generation = s.generation + 1
  have after := down.opened
  rw [opened, broken.opened] at after
  exact after.symm

/-- **Handling a result** keeps the connections numbered and the link. -/
theorem handle_linked {s : System F} {result : Polled} (linked : s.Linked)
    (polled : s.phase = .handle result) (pulled : Bool) : (s.handle env pulled result).Linked := by
  have link := linked.link
  rw [polled] at link
  cases result with
  | connAck =>
      have opening : s.Opening := link
      refine ⟨?_, Or.inl (handleConnAck_up env opening pulled)⟩
      show s.opened ++ [s.generation] = List.range (s.opened ++ [s.generation]).length
      rw [List.length_append, List.length_singleton, List.range_succ, ← linked.numbered,
        opening.opened]
  | event e =>
      have up : s.Up := link
      obtain ⟨either, opened⟩ := handleEvent_link env up pulled e
      refine ⟨?_, ?_⟩
      · show (s.handleEvent env pulled e).opened =
          List.range (s.handleEvent env pulled e).opened.length
        rw [opened]
        exact linked.numbered
      · exact either.imp (fun h => ⟨h.connected, h.network, h.opened⟩)
          fun h => ⟨h.connected, h.network, h.opened⟩
  | error =>
      have down : (s.handleDisconnect env pulled).Down :=
        handleDisconnect_down env pulled (link.imp_left fun h => ⟨h.connected, h.opened⟩)
      have opened : (s.handleDisconnect env pulled).opened = s.opened := by
        unfold handleDisconnect
        split <;> rfl
      refine ⟨?_, down.connected, down.network, down.opened⟩
      show (s.handleDisconnect env pulled).opened =
        List.range (s.handleDisconnect env pulled).opened.length
      rw [opened]
      exact linked.numbered

/-- Handing a request over only adds it to the channel. -/
theorem trySend_eq (s : System F) (request : Request) :
    ∃ requests, s.eventloop.requests <+: requests ∧
      s.trySend request = { s with eventloop := { s.eventloop with requests := requests } } := by
  unfold trySend
  split
  · exact ⟨_, List.prefix_append _ _, rfl⟩
  · exact ⟨_, List.prefix_rfl, rfl⟩

/-- Taking a command only adds to the channel, or gives the producer work. -/
theorem receiveCommand_eq (s : System F) (id : Nat) (request : CommandRequest) :
    ∃ requests work, s.eventloop.requests <+: requests ∧ s.receiveCommand env id request =
      { s with eventloop := { s.eventloop with requests := requests }, work := work } := by
  unfold receiveCommand
  split
  · exact ⟨_, _, List.prefix_rfl, rfl⟩
  split
  · split
    · obtain ⟨requests, longer, same⟩ := s.trySend_eq (by assumption)
      exact ⟨requests, s.work, longer, same⟩
    · exact ⟨_, _, List.prefix_rfl, rfl⟩
  · exact ⟨_, _, List.prefix_rfl, rfl⟩

/-- A state that shares the poller's place, the telemetry and the connection. -/
theorem Linked.frame {s t : System F} (linked : s.Linked) (shared : t.shared = s.shared)
    (phase : t.phase = s.phase) (network : t.eventloop.network = s.eventloop.network)
    (opened : t.opened = s.opened) : t.Linked where
  numbered := by rw [opened]; exact linked.numbered
  link := by
    rw [phase]
    exact linked.link.frame (by rw [connected, shared]) (by rw [generation, shared]) network opened

/-- A step inside `select` that keeps the connection. -/
theorem Linked.selecting {s t : System F} (linked : s.Linked) (up : s.Up)
    (shared : t.shared = s.shared) (network : t.eventloop.network = s.eventloop.network)
    (opened : t.opened = s.opened) (inside : t.Up → t.Link t.phase) : t.Linked where
  numbered := by rw [opened]; exact linked.numbered
  link := by
    have link : s.Link .flushing := up
    exact inside (link.frame (by rw [connected, shared]) (by rw [generation, shared]) network opened)

theorem Linked.fail {s t : System F} (linked : s.Linked) (up : s.Up) (shared : t.shared = s.shared)
    (opened : t.opened = s.opened) (pulled : Bool) : (t.fail pulled).Linked where
  numbered := by
    show t.opened = List.range t.opened.length
    rw [opened]
    exact linked.numbered
  link := by
    refine Or.inl ⟨?_, rfl, ?_⟩
    · show t.shared.telemetry.connected = true
      rw [shared]
      exact up.connected
    · show t.opened.length = t.shared.telemetry.generation + 1
      rw [shared, opened]
      exact up.opened

variable [Binary64 F]

/-- What the steps of the producer, the handlers and the clock leave alone. -/
structure Apart (s t : System F) : Prop where
  phase : t.phase = s.phase
  network : t.eventloop.network = s.eventloop.network
  pending : t.eventloop.pending = s.eventloop.pending
  state : t.eventloop.state = s.eventloop.state
  requests : s.eventloop.requests <+: t.eventloop.requests
  opened : t.opened = s.opened
  written : t.written = s.written
  unflushed : t.unflushed = s.unflushed
  transmitted : t.transmitted = s.transmitted
  applied : t.applied = s.applied

theorem step_apart {s t : System F} {l : Label F} (step : Step env s l t)
    (elsewhere : l.elsewhere = true) : s.Apart t := by
  cases step with
  | connectedChanged => exact ⟨rfl, rfl, rfl, rfl, List.prefix_rfl, rfl, rfl, rfl, rfl, rfl⟩
  | keepaliveTick => exact ⟨rfl, rfl, rfl, rfl, List.prefix_rfl, rfl, rfl, rfl, rfl, rfl⟩
  | build => exact ⟨rfl, rfl, rfl, rfl, List.prefix_rfl, rfl, rfl, rfl, rfl, rfl⟩
  | send => exact ⟨rfl, rfl, rfl, rfl, List.prefix_rfl, rfl, rfl, rfl, rfl, rfl⟩
  | observe => exact ⟨rfl, rfl, rfl, rfl, List.prefix_rfl, rfl, rfl, rfl, rfl, rfl⟩
  | tick => exact ⟨rfl, rfl, rfl, rfl, List.prefix_rfl, rfl, rfl, rfl, rfl, rfl⟩
  | @receiveCommand id request rest runs waits queued =>
      obtain ⟨requests, work, longer, same⟩ :=
        receiveCommand_eq env { s with commands := rest } id request
      rw [same]
      exact ⟨rfl, rfl, rfl, rfl, longer, rfl, rfl, rfl, rfl, rfl⟩
  | @handOver request rest runs waiting room =>
      obtain ⟨requests, longer, same⟩ := s.trySend_eq request
      rw [same]
      exact ⟨rfl, rfl, rfl, rfl, longer, rfl, rfl, rfl, rfl, rfl⟩
  | tryDisconnect =>
      obtain ⟨requests, longer, same⟩ := s.trySend_eq .disconnect
      rw [same]
      exact ⟨rfl, rfl, rfl, rfl, longer, rfl, rfl, rfl, rfl, rfl⟩
  | _ => cases elsewhere

/-- **Every step keeps the link.** -/
theorem step_linked {s t : System F} {l : Label F} (step : Step env s l t) (linked : s.Linked) :
    t.Linked := by
  have link := linked.link
  cases step with
  | connectFails polling down =>
      rw [polling] at link
      refine ⟨linked.numbered, Or.inr ?_⟩
      rcases link with up | down'
      · have network := up.network
        rw [down] at network
        cases network
      · exact ⟨down'.connected, down'.network, down'.opened⟩
  | connectSucceeds sessionPresent polling down =>
      rw [polling] at link
      refine ⟨linked.numbered, ?_⟩
      rcases link with up | down'
      · have network := up.network
        rw [down] at network
        cases network
      · exact ⟨down'.connected, congrArg some down'.opened, down'.opened⟩
  | yieldBuffered polling network buffered =>
      rw [polling] at link
      exact linked.selecting (link.up_of_network network) rfl rfl rfl id
  | enterSelect polling network empty =>
      rw [polling] at link
      exact linked.selecting (link.up_of_network network) rfl rfl rfl id
  | readPacket packet reads room network handled =>
      exact linked.selecting (link.up_of_handled reads) rfl rfl rfl id
  | readRejected packet pulled reads room network rejected =>
      exact linked.fail (link.up_of_handled reads) (by rfl) (by rfl) pulled
  | writeReply replies network =>
      rw [replies] at link
      exact linked.selecting link rfl rfl rfl id
  | endRead reads some_read =>
      rw [reads] at link
      exact linked.selecting link rfl rfl rfl id
  | takeRequest enabled next handled =>
      rw [enabled] at link
      exact linked.selecting link rfl (EventLoop.nextRequest_frame next).2 rfl id
  | requestRejected pulled enabled next rejected =>
      rw [enabled] at link
      exact linked.fail link (by rfl) (by rfl) pulled
  | ping selects handled =>
      rw [selects] at link
      exact linked.selecting link rfl rfl rfl id
  | pingRejected pulled selects rejected =>
      rw [selects] at link
      exact linked.fail link (by rfl) (by rfl) pulled
  | write sends network =>
      rw [sends] at link
      exact linked.selecting link rfl rfl rfl id
  | writeNothing sends =>
      rw [sends] at link
      exact linked.selecting link rfl rfl rfl id
  | flush flushes network buffered =>
      rw [flushes] at link
      exact linked.selecting link rfl rfl rfl id
  | fail pulled selects => exact linked.fail (link.up_of_selecting selects) rfl rfl pulled
  | handle pulled polled => exact handle_linked env linked polled pulled
  | wake sleeps =>
      rw [sleeps] at link
      exact ⟨linked.numbered, Or.inr ⟨link.connected, link.network, link.opened⟩⟩
  | connectedChanged runs waits seen => exact linked.frame rfl rfl rfl rfl
  | keepaliveTick runs waits => exact linked.frame rfl rfl rfl rfl
  | @receiveCommand id request rest runs waits queued =>
      obtain ⟨requests, work, -, same⟩ :=
        receiveCommand_eq env { s with commands := rest } id request
      rw [same]
      exact linked.frame rfl rfl rfl rfl
  | @handOver request rest runs waiting room =>
      obtain ⟨requests, -, same⟩ := s.trySend_eq request
      rw [same]
      exact linked.frame rfl rfl rfl rfl
  | build name body built => exact linked.frame rfl rfl rfl rfl
  | send i here running => exact linked.frame rfl rfl rfl rfl
  | observe observes =>
      obtain ⟨connected, generation⟩ := observes_apply observes s.shared s.now
      exact ⟨linked.numbered, link.frame connected generation rfl rfl⟩
  | tick later => exact linked.frame rfl rfl rfl rfl
  | tryDisconnect =>
      obtain ⟨requests, -, same⟩ := s.trySend_eq .disconnect
      rw [same]
      exact linked.frame rfl rfl rfl rfl
  | stop running => exact ⟨linked.numbered, trivial⟩

/-- In every run the flag and the connection stand as the poller's place says. -/
theorem linked_of_reaches {ok : System F → Label F → Prop} {s : System F}
    (reached : (bridge env).Reaches ok s) : s.Linked :=
  Machine.Reaches.invariant (P := Linked)
    (fun _ initial => by rw [initial]; exact ⟨rfl, Or.inr ⟨rfl, rfl, rfl⟩⟩)
    (fun _ _ _ _ linked _ step => step_linked env step linked) reached

/-! ## Opening and losing a connection -/

/-- What a step does to the network connection: nothing, open it, lose it to an
error that is handled next, or close it in a disconnection. -/
theorem step_network {s t : System F} {l : Label F} (step : Step env s l t) (linked : s.Linked) :
    t.eventloop.network = s.eventloop.network ∨
      (s.Down ∧ t.phase = .handle .connAck) ∨
      (s.Up ∧ t.Broken ∧ t.phase = .handle .error) ∨
      (s.Up ∧ t.Down ∧ t.opened = s.opened ∧ t.phase = .poll) := by
  have link := linked.link
  have apart := step_apart env step
  cases step with
  | connectSucceeds sessionPresent polling down =>
      rw [polling] at link
      rcases link with up | down'
      · have network := up.network
        rw [down] at network
        cases network
      · exact Or.inr (Or.inl ⟨down', rfl⟩)
  | readRejected packet pulled reads room network rejected =>
      have up := link.up_of_handled reads
      exact Or.inr (Or.inr (Or.inl ⟨up, ⟨up.connected, rfl, up.opened⟩, rfl⟩))
  | requestRejected pulled enabled next rejected =>
      rw [enabled] at link
      exact Or.inr (Or.inr (Or.inl ⟨link, ⟨link.connected, rfl, link.opened⟩, rfl⟩))
  | pingRejected pulled selects rejected =>
      rw [selects] at link
      exact Or.inr (Or.inr (Or.inl ⟨link, ⟨link.connected, rfl, link.opened⟩, rfl⟩))
  | fail pulled selects =>
      have up := link.up_of_selecting selects
      exact Or.inr (Or.inr (Or.inl ⟨up, .of_up up pulled, rfl⟩))
  | @handle result pulled polled =>
      rw [polled] at link
      cases result with
      | connAck => exact Or.inl rfl
      | event e =>
          have up : s.Up := link
          obtain ⟨up' | down, opened⟩ := handleEvent_link env up pulled e
          · have before := up.opened
            have after := up'.opened
            rw [opened] at after
            have same : s.generation = (s.handleEvent env pulled e).generation := by omega
            left
            show (s.handleEvent env pulled e).eventloop.network = s.eventloop.network
            rw [up'.network, up.network, same]
          · exact Or.inr (Or.inr (Or.inr
              ⟨up, ⟨down.connected, down.network, down.opened⟩, opened, rfl⟩))
      | error =>
          left
          have down : (s.handleDisconnect env pulled).Down :=
            handleDisconnect_down env pulled (link.imp_left fun h => ⟨h.connected, h.opened⟩)
          show (s.handleDisconnect env pulled).eventloop.network = s.eventloop.network
          rw [down.network]
          rcases link with broken | down'
          · exact broken.network.symm
          · exact down'.network.symm
  | takeRequest enabled next handled => exact Or.inl (EventLoop.nextRequest_frame next).2
  | receiveCommand | handOver | tryDisconnect => exact Or.inl (apart rfl).network
  | _ => exact Or.inl rfl

/-- Connections are only added. -/
theorem step_opened {s t : System F} {l : Label F} (step : Step env s l t) :
    ∃ later, t.opened = s.opened ++ later := by
  have apart := step_apart env step
  cases step with
  | @handle result pulled polled =>
      rcases s.handle_cases env pulled result with
        ⟨opened, ⟨later, grown⟩, same⟩ | same | ⟨p, op, -, -, same⟩ | ⟨phase, -, -, same⟩
      · rw [same]
        exact ⟨later, grown.symm⟩
      · rw [same]
        exact ⟨[], (List.append_nil _).symm⟩
      · rw [same]
        exact ⟨[], (List.append_nil _).symm⟩
      · rw [same]
        refine ⟨[], ?_⟩
        simp only [handleDisconnect, List.append_nil]
        split <;> rfl
  | receiveCommand | handOver | tryDisconnect =>
      exact ⟨[], (apart rfl).opened.trans (List.append_nil _).symm⟩
  | _ => exact ⟨[], (List.append_nil _).symm⟩

/-- **Generations and connections correspond.**  In every state of every run:
polling, the flag is set exactly over a network connection, which carries the
current generation; the ConnAck of a new connection finds the flag cleared and
sets it; a step that takes the network away starts with the flag set, and the
generation ends with it, at once or when its error is handled; and no two
connections share a generation. -/
theorem generations_match_connections {s : System F} (reached : (bridge env).Reaches Machine.Any s) :
    (s.phase = .poll →
      (s.connected = true ↔ s.eventloop.network.isSome = true) ∧
        ∀ c, s.eventloop.network = some c → s.opened[c]? = some s.generation) ∧
    (s.phase = .handle .connAck → ∀ pulled, s.connected = false ∧
      (s.handle env pulled .connAck).connected = true ∧
      (s.handle env pulled .connAck).opened = s.opened ++ [s.generation]) ∧
    (∀ l t, Step env s l t → s.eventloop.network.isSome = true → t.eventloop.network = none →
      s.connected = true ∧
        ((t.phase = .handle .error ∧ t.connected = true ∧ ∀ pulled,
            (t.handle env pulled .error).connected = false ∧
              (t.handle env pulled .error).generation = t.generation + 1) ∨
          (t.phase = .poll ∧ t.connected = false ∧ t.generation = s.generation + 1))) ∧
    s.opened.Nodup := by
  have linked := linked_of_reaches env reached
  have link := linked.link
  refine ⟨?_, ?_, ?_, ?_⟩
  · intro polling
    rw [polling] at link
    rcases link with up | down
    · refine ⟨by simp [up.connected, up.network], ?_⟩
      intro c network
      rw [up.network] at network
      obtain rfl := Option.some.inj network
      have within := up.opened
      rw [linked.numbered, List.getElem?_range (by omega)]
    · refine ⟨by simp [down.connected, down.network], ?_⟩
      intro c network
      rw [down.network] at network
      cases network
  · intro polled pulled
    rw [polled] at link
    have opening : s.Opening := link
    exact ⟨opening.connected, (handleConnAck_up env opening pulled).connected, rfl⟩
  · intro l t step network lost
    rcases step_network env step linked with same | ⟨down, -⟩ | ⟨up, broken, phase⟩ |
      ⟨up, down, opened, phase⟩
    · rw [← same, lost] at network
      cases network
    · rw [down.network] at network
      cases network
    · exact ⟨up.connected, Or.inl ⟨phase, broken.connected, fun pulled => broken.handled env pulled⟩⟩
    · have before := up.opened
      have after := down.opened
      rw [opened] at after
      exact ⟨up.connected, Or.inr ⟨phase, down.connected, by omega⟩⟩
  · rw [linked.numbered]
    exact List.nodup_range

/-- The first connection of a gateway that failed to connect once carries generation 0. -/
theorem generations_match_connections_first :
    ∃ s : System Int, (bridge ⟨⟨"N/p/", "W/p/", "inverter"⟩, fun _ => none⟩).Reaches Machine.Any s ∧
      s.phase = .poll ∧ s.eventloop.network = some 0 ∧ s.opened[0]? = some s.generation := by
  have start : (bridge (F := Int) ⟨⟨"N/p/", "W/p/", "inverter"⟩, fun _ => none⟩).Reaches
      Machine.Any {} := .start rfl
  have refused := ((start.next trivial (.connectFails rfl rfl)).next trivial (.handle false rfl)).next
    trivial (.wake rfl)
  have opened := (refused.next trivial (.connectSucceeds false rfl rfl)).next trivial (.handle false rfl)
  exact ⟨_, opened, rfl, rfl, ((generations_match_connections _ opened).1 rfl).2 0 rfl⟩

end System

end InverterGateway.Gateway

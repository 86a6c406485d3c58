/-
# Gateway.Bridge — the bridge between the broker and the shared state

Two futures of one task share an MQTT client: the poller drives the event loop
and applies what it yields, the producer hands subscriptions, keepalives and
commands to the client's request channel.  HTTP handlers build commands and put
them on the command channel.

`System` is the state of all of them between two suspensions, `Step` what each
may do next.  The broker is arbitrary: it sends any packets in any grouping, and
a connection may break wherever the poller waits for the network.  Several
fields only record what happened (`accepted`, `opened`, `written`, `unflushed`,
`transmitted`, `applied`); no step reads them.
-/
import InverterGateway.Theory.Runs
import InverterGateway.Rumqttc.EventLoop
import InverterGateway.Gateway.Whitelist

namespace InverterGateway.Gateway

open InverterGateway.Theory InverterGateway.Rumqttc

set_option autoImplicit false

/-- The configuration, and the JSON decoder the bridge calls. -/
structure Env (F : Type) where
  cfg : Config
  decode : ByteArray → Option (Value F)

namespace Env

variable {F : Type} (env : Env F)

/-! ## Messages from the broker -/

def stateTopic : String := env.cfg.inverterTopicPrefix ++ "/state"

def overrideTopic : String := env.cfg.inverterTopicPrefix ++ "/setpoint_override"

/-- `parse_inverter`: an object, or null for a removed message. -/
def parseInverter (payload : ByteArray) : Option (Value F) :=
  if payload.isEmpty then some .null
  else (env.decode payload).filter fun value => value.isObject || value.isNull

/-- `parse_setpoint_override`. -/
def parseSetpointOverride (payload : ByteArray) : Option (Value F) :=
  match env.parseInverter payload with
  | none => none
  | some value =>
      if value.isNull then some value
      else
        match value.get "value", value.get "last_error", value.get "request_id" with
        | some watts, some error, some requestId =>
            if validSetpoint watts && (error.isNull || error.isString) &&
                (requestId.isNull || requestId.isString) then
              some value
            else none
        | _, _, _ => none

/-- The service of a topic, which ends at its first slash, and the path below it. -/
def servicePath (stripped : String) : { parts : String × String // '/' ∉ parts.1.toList } :=
  match split : Text.splitOnce stripped '/' with
  | some (service, path) => ⟨(service, path), (Text.splitOnce_eq_some.1 split).2⟩
  | none => ⟨(stripped, ""), Text.splitOnce_eq_none.1 split⟩

/-- A decoded payload carries its leaf under `value`, or is the leaf. -/
def leafValue (payload : Value F) : Value F := (payload.get "value").getD payload

/-- `parse`: a Victron topic and its payload as an update. -/
def parse (topic : String) (payload : ByteArray) : Option (ParsedUpdate F) :=
  match Text.stripPrefix topic env.cfg.topicPrefix with
  | none => none
  | some stripped =>
      if stripped = "" then none
      else
        let parts := servicePath stripped
        if parts.1.1 = "" then none
        else
          (if payload.isEmpty then some .null else env.decode payload).map fun value =>
            ⟨parts.1.1, parts.1.2, leafValue value, parts.2⟩

/-- The operation the poller applies for a message, if any. -/
def operation (p : Publish) : Option (SharedOp F) :=
  if p.topic = env.stateTopic then (env.parseInverter p.payload).map .updateInverter
  else if p.topic = env.overrideTopic then
    -- an invalid status still withdraws the one confirmed before
    some (.updateSetpointOverride ((env.parseSetpointOverride p.payload).getD .null))
  else (env.parse p.topic p.payload).map .update

/-! ## Requests to the broker -/

/-- The topic filters below the portal. -/
def portalFilters : List String :=
  ["system/+/#", "vebus/+/#", "battery/+/#", "solarcharger/+/#", "pvinverter/+/#", "tank/+/#",
    "pump/+/#", "ev/+/#", "evcharger/+/#", "acload/+/#", "platform/+/#",
    "settings/+/Settings/CGwacs/Hub4Mode", "settings/+/Settings/CGwacs/BatteryLife/State"]

def filters : List String :=
  portalFilters.map (fun filter => env.cfg.topicPrefix ++ filter) ++
    [env.stateTopic, env.overrideTopic]

/-- `subscribe_portal`: the client refuses an invalid filter and the rest go on. -/
def subscribePortal : List Request := env.filters.filterMap subscribeRequest

/-- `portal_id`. -/
def portalId : Option String :=
  ((Text.stripPrefix env.cfg.topicPrefix "N/").map fun s => Text.trimEndMatches s '/').filter
    fun s => !s.isEmpty && !Text.containsChar s '<'

/-- The keepalive publish, when the prefix names a portal. -/
def keepalive : List Request :=
  match env.portalId with
  | none => []
  | some id =>
      (publishRequest ("R/" ++ id ++ "/keepalive") .atMostOnce .empty .keepalive).toList

/-- The quality of service a command is published with. -/
def commandQos (request : CommandRequest) : QoS :=
  if request.isWaterCommand || request.topic == controllerTopic env.cfg "ess_mode" ||
      request.topic == controllerTopic env.cfg "set_ess_mode" ||
      request.topic == controllerTopic env.cfg "setpoint_override" ||
      request.topic == controllerTopic env.cfg "electricity_tariff" then
    .atMostOnce
  else .atLeastOnce

/-- The publish of a command, unless the client refuses its topic. -/
def commandPublish (id : Nat) (request : CommandRequest) : Option Request :=
  publishRequest request.topic (env.commandQos request) request.payload.toUTF8 (.command id)

/-- `is_water_write_topic`. -/
def isWaterWriteTopic (topic : String) : Bool :=
  match Text.split topic '/' with
  | ["W", _, "pump", inst, "Mode"] => (Text.parseU32 inst).isSome
  | _ => false

/-- The pending requests a disconnection drops. -/
def discards : Request → Bool
  | .publish p =>
      Text.startsWith p.topic (env.cfg.inverterTopicPrefix ++ "/cmd/") || isWaterWriteTopic p.topic
  | _ => false

end Env

/-! ## The system -/

/-- What a poll of the event loop returned. -/
inductive Polled where
  /-- the ConnAck of the connection this poll opened -/
  | connAck
  | event (e : Event)
  | error

/-- Where the poller is. -/
inductive Phase where
  /-- about to poll the event loop, or waiting for a connection -/
  | poll
  /-- inside `select`, with the request branch enabled or not -/
  | select (requests : Bool)
  /-- in a bulk read: the packets handled so far, and a reply to write -/
  | reading (count : Nat) (reply : Option Packet)
  /-- a request was handled, and its packet is to be written -/
  | sending (packet : Option Packet)
  | flushing
  | handle (result : Polled)
  /-- the pause after an error -/
  | sleep
  | stopped

namespace Phase

/-- The packets a bulk read has handled, where it may handle the next. -/
def handled : Phase → Option Nat
  | select _ => some 0
  | reading count none => some count
  | _ => none

/-- Inside `EventLoop::select`, where an error breaks the connection. -/
def selecting : Phase → Bool
  | select _ | reading _ _ | sending _ | flushing => true
  | _ => false

/-- Suspended, so that the producer may run. -/
def suspended : Phase → Bool
  | handle _ | stopped => false
  | _ => true

/-- The packet about to be written. -/
def out : Phase → Option Packet
  | reading _ reply => reply
  | sending packet => packet
  | _ => none

end Phase

/-- An accepted command, and whether the gateway was connected then. -/
structure Accepted where
  connected : Bool
  request : CommandRequest

/-- A message applied to the telemetry, with the generation and the time. -/
structure Applied where
  generation : Nat
  time : Instant
  publish : Publish

structure System (F : Type) where
  shared : Shared F := .new
  eventloop : EventLoop := .new
  phase : Phase := .poll
  /-- the producer was notified of a connection it has not seen -/
  notified : Bool := false
  /-- requests the producer still has to hand over before it waits again -/
  work : List Request := []
  /-- the command channel, with the number of each command -/
  commands : List (Nat × CommandRequest) := []
  /-- commands built by a handler that has not queued them yet -/
  held : List CommandRequest := []
  now : Instant := 0
  accepted : List Accepted := []
  /-- the generation each broker connection started in -/
  opened : List Nat := []
  /-- packets written, with their connection -/
  written : List (Nat × Packet) := []
  /-- packets written since the last flush -/
  unflushed : List Packet := []
  /-- packets flushed, with their connection -/
  transmitted : List (Nat × Packet) := []
  applied : List Applied := []

/-- The capacity of the client's request channel. -/
def requestCapacity : Nat := 256

namespace System

variable {F : Type}

abbrev connected (s : System F) : Bool := s.shared.telemetry.connected

abbrev generation (s : System F) : Nat := s.shared.telemetry.generation

/-- `EventLoop::clean`.  The drain may pull in the request the producer is
blocked on, which then counts as handed over. -/
def clean (s : System F) (pulled : Bool) : System F :=
  { s with
    eventloop := s.eventloop.clean (if pulled then s.work.take 1 else [])
    work := if pulled then s.work.drop 1 else s.work
    unflushed := [] }

/-- The error arm of `EventLoop::poll`. -/
def fail (s : System F) (pulled : Bool) : System F :=
  { s.clean pulled with phase := .handle .error }

def setState (s : System F) (state : MqttState) : System F :=
  { s with eventloop := s.eventloop.setState state }

/-- `Network::write`. -/
def write (s : System F) (connection : Nat) (packet : Packet) : System F :=
  { s with
    written := s.written ++ [(connection, packet)]
    unflushed := s.unflushed ++ [packet] }

def setConnected (s : System F) (connected : Bool) : System F :=
  { s with shared := s.shared.setConnected connected }

/-- Hand a request to the client's channel without waiting. -/
def trySend (s : System F) (request : Request) : System F :=
  if s.eventloop.requests.length < requestCapacity then
    { s with eventloop := { s.eventloop with requests := s.eventloop.requests ++ [request] } }
  else s

/-- The ConnAck arm of `poll_events`. -/
def handleConnAck (s : System F) : System F :=
  { s.setConnected true with notified := true }

variable (env : Env F)

/-- `discard_controller_replay`. -/
def discardControllerReplay (s : System F) (pulled : Bool) : System F :=
  let s := s.clean pulled
  { s with eventloop :=
      { s.eventloop with pending := s.eventloop.pending.filter fun request => !env.discards request } }

/-- `handle_disconnect`: an attempt to connect that failed leaves the queues alone. -/
def handleDisconnect (s : System F) (pulled : Bool) : System F :=
  if s.connected then (s.setConnected false).discardControllerReplay env pulled
  else s.setConnected false

def handlePublish (s : System F) (p : Publish) : System F :=
  match env.operation p with
  | none => s
  | some op =>
      { s with
        shared := s.shared.apply (s.now, op)
        applied := s.applied ++ [⟨s.generation, s.now, p⟩] }

def handleEvent (s : System F) (pulled : Bool) : Event → System F
  | .incoming (.publish p) => s.handlePublish env p
  | .incoming .connAck => s.handleConnAck
  | .incoming .disconnect => s.handleDisconnect env pulled
  | _ => s

/-- One iteration of `poll_events` after the poll returned. -/
def handle (s : System F) (pulled : Bool) : Polled → System F
  | .connAck => { s.handleConnAck with opened := s.opened ++ [s.generation], phase := .poll }
  | .event e => { s.handleEvent env pulled e with phase := .poll }
  | .error => { s.handleDisconnect env pulled with phase := .sleep }

/-- The command arm of `send_requests`: a guarded command is sent now or
dropped, another one waits for room. -/
def receiveCommand (s : System F) (id : Nat) (request : CommandRequest) : System F :=
  match env.commandPublish id request with
  | none => s
  | some publish =>
      if request.isGuarded then
        if s.shared.sendIfCurrent s.now request then s.trySend publish else s
      else { s with work := [publish] }

/-- What the HTTP handlers see of the system. -/
def app (s : System F) : AppState F :=
  ⟨s.shared, some ⟨s.commands.map Prod.snd, match s.phase with | .stopped => true | _ => false⟩,
    env.cfg⟩

/-- A handler puts a command on the channel. -/
def send (s : System F) (i : Nat) (request : CommandRequest) : System F :=
  { s with
    held := s.held.eraseIdx i
    commands := s.commands ++ [(s.accepted.length, request)]
    accepted := s.accepted ++ [⟨s.connected, request⟩] }

end System

/-! ## Steps -/

/-- What happens in a step.  `pulled` says whether a drain of the request channel
takes the request of a blocked producer along. -/
inductive Label (F : Type) where
  | connectFails
  | connectSucceeds (sessionPresent : Bool)
  | yieldBuffered
  | enterSelect
  | readPacket (packet : Packet)
  | readRejected (packet : Packet) (pulled : Bool)
  | writeReply
  | endRead
  | takeRequest
  | requestRejected (pulled : Bool)
  | ping
  | pingRejected (pulled : Bool)
  | write
  | flush
  | fail (pulled : Bool)
  | handle (pulled : Bool)
  | wake
  | connectedChanged
  | keepaliveTick
  | receiveCommand
  | handOver
  | build (name : String) (body : Value F)
  | send (i : Nat)
  | observe (op : SharedOp F)
  | tick (now : Instant)
  | tryDisconnect
  | stop

/-- The operations on the shared state that the bridge does not run. -/
def SharedOp.Observes {F : Type} : SharedOp F → Prop
  | .broadcastSnapshot | .subscribe | .unsubscribe => True
  | _ => False

section Steps

variable {F : Type} [Binary64 F] (env : Env F)

inductive Step : System F → Label F → System F → Prop
  /- the poller: connecting -/
  | connectFails {s : System F} (polling : s.phase = .poll) (down : s.eventloop.network = none) :
      Step s .connectFails { s with phase := .handle .error }
  | connectSucceeds {s : System F} (sessionPresent : Bool) (polling : s.phase = .poll)
      (down : s.eventloop.network = none) :
      Step s (.connectSucceeds sessionPresent)
        { s with
          eventloop := s.eventloop.connect sessionPresent s.opened.length
          phase := .handle .connAck }
  /- the poller: selecting -/
  | yieldBuffered {s : System F} {c : Nat} {e : Event} {rest : List Event} (polling : s.phase = .poll)
      (up : s.eventloop.network = some c) (buffered : s.eventloop.state.events = e :: rest) :
      Step s .yieldBuffered
        { s.setState { s.eventloop.state with events := rest } with phase := .handle (.event e) }
  | enterSelect {s : System F} {c : Nat} (polling : s.phase = .poll)
      (up : s.eventloop.network = some c) (empty : s.eventloop.state.events = []) :
      Step s .enterSelect { s with phase := .select s.eventloop.takesRequests }
  | readPacket {s : System F} {c n : Nat} (packet : Packet) {reply : Option Packet}
      (reads : s.phase.handled = some n) (room : n < EventLoop.maxReadb)
      (up : s.eventloop.network = some c)
      (handled : (s.eventloop.state.handleIncoming (packet.readOn c)).2 = .ok reply) :
      Step s (.readPacket packet)
        { s.setState (s.eventloop.state.handleIncoming (packet.readOn c)).1 with
          phase := .reading (n + 1) reply }
  | readRejected {s : System F} {c n : Nat} (packet : Packet) {e : StateError} (pulled : Bool)
      (reads : s.phase.handled = some n) (room : n < EventLoop.maxReadb)
      (up : s.eventloop.network = some c)
      (rejected : (s.eventloop.state.handleIncoming (packet.readOn c)).2 = .error e) :
      Step s (.readRejected packet pulled)
        ((s.setState (s.eventloop.state.handleIncoming (packet.readOn c)).1).fail pulled)
  | writeReply {s : System F} {c n : Nat} {packet : Packet}
      (replies : s.phase = .reading n (some packet)) (up : s.eventloop.network = some c) :
      Step s .writeReply { s.write c packet with phase := .reading n none }
  | endRead {s : System F} {n : Nat} (reads : s.phase = .reading n none) (some_read : 0 < n) :
      Step s .endRead { s with phase := .flushing }
  | takeRequest {s : System F} {request : Request} {taken : EventLoop} {packet : Option Packet}
      (enabled : s.phase = .select true) (next : s.eventloop.nextRequest = some (request, taken))
      (handled : (taken.state.handleOutgoing request).2 = .ok packet) :
      Step s .takeRequest
        { s with
          eventloop := taken.setState (taken.state.handleOutgoing request).1
          phase := .sending packet }
  | requestRejected {s : System F} {request : Request} {taken : EventLoop} {e : StateError}
      (pulled : Bool) (enabled : s.phase = .select true)
      (next : s.eventloop.nextRequest = some (request, taken))
      (rejected : (taken.state.handleOutgoing request).2 = .error e) :
      Step s (.requestRejected pulled)
        ({ s with eventloop := taken.setState (taken.state.handleOutgoing request).1 }.fail pulled)
  | ping {s : System F} {enabled : Bool} {packet : Option Packet} (selects : s.phase = .select enabled)
      (handled : (s.eventloop.state.handleOutgoing .pingReq).2 = .ok packet) :
      Step s .ping
        { s.setState (s.eventloop.state.handleOutgoing .pingReq).1 with phase := .sending packet }
  | pingRejected {s : System F} {enabled : Bool} {e : StateError} (pulled : Bool)
      (selects : s.phase = .select enabled)
      (rejected : (s.eventloop.state.handleOutgoing .pingReq).2 = .error e) :
      Step s (.pingRejected pulled)
        ((s.setState (s.eventloop.state.handleOutgoing .pingReq).1).fail pulled)
  | write {s : System F} {c : Nat} {packet : Packet} (sends : s.phase = .sending (some packet))
      (up : s.eventloop.network = some c) :
      Step s .write { s.write c packet with phase := .flushing }
  | writeNothing {s : System F} (sends : s.phase = .sending none) :
      Step s .write { s with phase := .flushing }
  | flush {s : System F} {c : Nat} {e : Event} {rest : List Event} (flushes : s.phase = .flushing)
      (up : s.eventloop.network = some c) (buffered : s.eventloop.state.events = e :: rest) :
      Step s .flush
        { s.setState { s.eventloop.state with events := rest } with
          transmitted := s.transmitted ++ s.unflushed.map (fun packet => (c, packet))
          unflushed := []
          phase := .handle (.event e) }
  | fail {s : System F} (pulled : Bool) (selects : s.phase.selecting = true) :
      Step s (.fail pulled) (s.fail pulled)
  /- the poller: the result of a poll -/
  | handle {s : System F} {result : Polled} (pulled : Bool) (polled : s.phase = .handle result) :
      Step s (.handle pulled) (s.handle env pulled result)
  | wake {s : System F} (sleeps : s.phase = .sleep) : Step s .wake { s with phase := .poll }
  /- the producer -/
  | connectedChanged {s : System F} (runs : s.phase.suspended = true) (waits : s.work = [])
      (seen : s.notified = true) :
      Step s .connectedChanged
        { s with notified := false, work := env.subscribePortal ++ env.keepalive }
  | keepaliveTick {s : System F} (runs : s.phase.suspended = true) (waits : s.work = []) :
      Step s .keepaliveTick { s with work := env.keepalive }
  | receiveCommand {s : System F} {id : Nat} {request : CommandRequest}
      {rest : List (Nat × CommandRequest)} (runs : s.phase.suspended = true) (waits : s.work = [])
      (queued : s.commands = (id, request) :: rest) :
      Step s .receiveCommand ({ s with commands := rest }.receiveCommand env id request)
  | handOver {s : System F} {request : Request} {rest : List Request}
      (runs : s.phase.suspended = true) (waiting : s.work = request :: rest)
      (room : s.eventloop.requests.length < requestCapacity) :
      Step s .handOver { s.trySend request with work := rest }
  /- the HTTP handlers and the clock -/
  | build {s : System F} (name : String) (body : Value F) {request : CommandRequest}
      (built : commandRequest (s.app env) s.now name body = .ok request) :
      Step s (.build name body) { s with held := s.held ++ [request] }
  | send {s : System F} (i : Nat) {request : CommandRequest} (here : s.held[i]? = some request)
      (running : s.phase ≠ .stopped) : Step s (.send i) (s.send i request)
  | observe {s : System F} {op : SharedOp F} (observes : op.Observes) :
      Step s (.observe op) { s with shared := s.shared.apply (s.now, op) }
  | tick {s : System F} {now : Instant} (later : s.now ≤ now) : Step s (.tick now) { s with now := now }
  /- shutdown -/
  | tryDisconnect {s : System F} : Step s .tryDisconnect (s.trySend .disconnect)
  | stop {s : System F} (running : s.phase ≠ .stopped) :
      Step s .stop { s.setConnected false with phase := .stopped }

/-- The gateway, from its start. -/
def bridge : Machine (System F) (Label F) where
  start := fun s => s = {}
  step := Step env

end Steps

end InverterGateway.Gateway

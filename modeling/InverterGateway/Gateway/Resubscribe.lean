/-
# Gateway.Resubscribe — no connection is left without its subscriptions

Each ConnAck notifies the producer, which then hands every topic filter to the
client.  A ConnAck may arrive while an earlier round is blocked on a full queue;
the round goes on, and the notification makes the producer start over.  What is
handed over is counted anew from each ConnAck: `Handing` adds this log to the
system, and the queue takes a request when `room` says so, whatever its capacity.
-/
import InverterGateway.Gateway.Isolation

namespace InverterGateway.Gateway

open InverterGateway.Theory InverterGateway.Rumqttc

set_option autoImplicit false

/-! ## What is handed over -/

/-- The results on which the bridge sets the connection up. -/
def Polled.acknowledges : Polled → Bool
  | .connAck | .event (.incoming .connAck) => true
  | _ => false

section Handing

variable {F : Type}

/-- The system, and the requests the producer waited to hand over since the last
ConnAck was handled.  Guarded commands, which never wait, are not among them. -/
structure Handing (F : Type) where
  system : System F := {}
  handed : List Request := []

namespace System

/-- The step handles a ConnAck. -/
def acknowledged (s : System F) : Label F → Bool
  | .handle _ =>
      match s.phase with
      | .handle result => result.acknowledges
      | _ => false
  | _ => false

/-- The step drains the request channel, and takes the request of a blocked
producer along. -/
def drains (s : System F) : Label F → Bool
  | .readRejected _ pulled | .requestRejected pulled | .pingRejected pulled | .fail pulled => pulled
  | .handle pulled =>
      match s.phase with
      | .handle result => pulled && s.connected && result.disconnects
      | _ => false
  | _ => false

def handedAfter (s : System F) (l : Label F) (handed : List Request) : List Request :=
  if s.acknowledged l then [] else if s.drains l then handed ++ s.work.take 1 else handed

/-- The request at the end of the client's channel. -/
def enqueue (s : System F) (request : Request) : System F :=
  { s with eventloop := { s.eventloop with requests := s.eventloop.requests ++ [request] } }

/-- `try_send` on a channel that has room or not. -/
def offer (room : List Request → Bool) (s : System F) (request : Request) : System F :=
  if room s.eventloop.requests then s.enqueue request else s

/-- The command arm of `send_requests` over such a channel. -/
def receiveCommandIn (env : Env F) (room : List Request → Bool) (s : System F) (id : Nat)
    (request : CommandRequest) : System F :=
  match env.commandPublish id request with
  | none => s
  | some publish =>
      if request.isGuarded then
        if s.shared.sendIfCurrent s.now request then s.offer room publish else s
      else { s with work := [publish] }

end System

/-- The steps that put a request on the client's channel. -/
def Label.offers : Label F → Bool
  | .handOver | .receiveCommand | .tryDisconnect => true
  | _ => false

end Handing

section Steps

variable {F : Type} [Binary64 F] (env : Env F) (room : List Request → Bool)

/-- The steps of the system over a client whose channel takes a request when `room`
says so. -/
inductive QueueStep : Handing F → Label F → Handing F → Prop
  | other {s t : System F} {l : Label F} {handed : List Request} (step : Step env s l t)
      (own : l.offers = false) :
      QueueStep ⟨s, handed⟩ l ⟨t, s.handedAfter l handed⟩
  | receiveCommand {s : System F} {handed : List Request} {id : Nat} {request : CommandRequest}
      {rest : List (Nat × CommandRequest)} (runs : s.phase.suspended = true) (waits : s.work = [])
      (queued : s.commands = (id, request) :: rest) :
      QueueStep ⟨s, handed⟩ .receiveCommand
        ⟨System.receiveCommandIn env room { s with commands := rest } id request, handed⟩
  | handOver {s : System F} {handed : List Request} {request : Request} {rest : List Request}
      (runs : s.phase.suspended = true) (waiting : s.work = request :: rest)
      (accepts : room s.eventloop.requests = true) :
      QueueStep ⟨s, handed⟩ .handOver ⟨{ s.enqueue request with work := rest }, handed ++ [request]⟩
  | tryDisconnect {s : System F} {handed : List Request} :
      QueueStep ⟨s, handed⟩ .tryDisconnect ⟨s.offer room .disconnect, handed⟩

def queueing : Machine (Handing F) (Label F) where
  start := fun h => h = {}
  step := QueueStep env room

/-- A filter round is unseen, or each filter is handed over or about to be. -/
def Handing.Covered (h : Handing F) : Prop :=
  h.system.connected = true → h.system.notified = true ∨
    ∀ request ∈ env.subscribePortal, request ∈ h.handed ∨ request ∈ h.system.work

variable {env room}

omit [Binary64 F] in
theorem Handing.Covered.frame {h h' : Handing F} (covered : h.Covered env)
    (connected : h'.system.connected = true → h.system.connected = true)
    (notified : h.system.notified = true → h'.system.notified = true)
    (kept : ∀ request, request ∈ h.handed ∨ request ∈ h.system.work →
      request ∈ h'.handed ∨ request ∈ h'.system.work) : h'.Covered env := by
  intro up
  rcases covered (connected up) with unseen | held
  · exact Or.inl (notified unseen)
  · exact Or.inr fun request found => kept request (held request found)

/-- A drain moves at most the first request. -/
theorem drained_kept {handed work : List Request} (pulled : Bool) (request : Request)
    (held : request ∈ handed ∨ request ∈ work) :
    request ∈ (if pulled then handed ++ work.take 1 else handed) ∨
      request ∈ (if pulled then work.drop 1 else work) := by
  cases pulled with
  | false => exact held
  | true =>
      rw [if_pos rfl, if_pos rfl, List.mem_append]
      rcases held with earlier | waiting
      · exact Or.inl (Or.inl earlier)
      · rw [← List.take_append_drop 1 work, List.mem_append] at waiting
        rcases waiting with first | rest
        · exact Or.inl (Or.inr first)
        · exact Or.inr rest

omit [Binary64 F] in
theorem handle_covered {s : System F} {handed : List Request} {result : Polled} (pulled : Bool)
    (polled : s.phase = .handle result) (covered : Handing.Covered env ⟨s, handed⟩) :
    Handing.Covered env ⟨s.handle env pulled result, s.handedAfter (.handle pulled) handed⟩ := by
  have disconnected : (s.handleDisconnect env pulled).connected = false := by
    unfold System.connected
    rw [(System.handleDisconnect_shared env s pulled).1]
    exact s.shared.telemetry.setConnected_connected false
  have lost (phase : Phase) : Handing.Covered env
      ⟨{ s.handleDisconnect env pulled with phase := phase },
        s.handedAfter (.handle pulled) handed⟩ := by
    intro up
    have up : (s.handleDisconnect env pulled).connected = true := up
    rw [disconnected] at up
    cases up
  -- a result that neither connects nor disconnects hands nothing over
  have quiet (connects : result.acknowledges = false) (disconnects : result.disconnects = false) :
      s.handedAfter (.handle pulled) handed = handed := by
    simp [System.handedAfter, System.acknowledged, System.drains, polled, connects, disconnects]
  cases result with
  | connAck => exact fun _ => Or.inl rfl
  | error => exact lost .sleep
  | event e =>
      cases e with
      | outgoing note =>
          rw [quiet rfl rfl]
          exact covered.frame (fun up => up) (fun unseen => unseen) fun _ held => held
      | incoming packet =>
          cases packet with
          | connAck => exact fun _ => Or.inl rfl
          | disconnect => exact lost .poll
          | publish p =>
              rw [quiet rfl rfl]
              cases known : env.operation p with
              | none =>
                  have same : s.handle env pulled (.event (.incoming (.publish p))) =
                      { s with phase := .poll } := by
                    simp only [System.handle, System.handleEvent, System.handlePublish, known]
                  rw [same]
                  exact covered.frame (fun up => up) (fun unseen => unseen) fun _ held => held
              | some op =>
                  have same : s.handle env pulled (.event (.incoming (.publish p))) =
                      { s with
                        shared := s.shared.apply (s.now, op)
                        applied := s.applied ++ [⟨s.generation, s.now, p⟩]
                        phase := .poll } := by
                    simp only [System.handle, System.handleEvent, System.handlePublish, known]
                  rw [same]
                  refine covered.frame (fun up => ?_) (fun unseen => unseen) fun _ held => held
                  exact (System.operation_apply env known s.shared s.now).1.symm.trans up
          | _ =>
              rw [quiet rfl rfl]
              exact covered.frame (fun up => up) (fun unseen => unseen) fun _ held => held

/-- A step of the system outside the request channel's entrance. -/
theorem step_covered {s t : System F} {l : Label F} {handed : List Request} (step : Step env s l t)
    (own : l.offers = false) (covered : Handing.Covered env ⟨s, handed⟩) :
    Handing.Covered env ⟨t, s.handedAfter l handed⟩ := by
  -- an error inside `select` drains the channel
  have fails {l : Label F} {pulled : Bool} (next : EventLoop)
      (after : s.handedAfter l handed = if pulled then handed ++ s.work.take 1 else handed) :
      Handing.Covered env ⟨{ s with eventloop := next }.fail pulled, s.handedAfter l handed⟩ := by
    rw [after]
    exact covered.frame (fun up => up) (fun unseen => unseen) (drained_kept pulled)
  -- a step that leaves the producer alone
  have idle (after : s.handedAfter l handed = handed) (shared : t.shared = s.shared)
      (notified : t.notified = s.notified) (work : t.work = s.work) :
      Handing.Covered env ⟨t, s.handedAfter l handed⟩ := by
    rw [after]
    refine covered.frame (fun up => ?_) (fun unseen => ?_) fun request held => ?_
    · have up : t.shared.telemetry.connected = true := up
      rw [shared] at up
      exact up
    · show t.notified = true
      rw [notified]
      exact unseen
    · show request ∈ handed ∨ request ∈ t.work
      rw [work]
      exact held
  cases step with
  | handle pulled polled => exact handle_covered pulled polled covered
  | readRejected packet pulled reads room up rejected => exact fails _ rfl
  | requestRejected pulled enabled next rejected => exact fails _ rfl
  | pingRejected pulled selects rejected => exact fails _ rfl
  | fail pulled selects => exact fails s.eventloop rfl
  | connectedChanged runs waits seen =>
      intro up
      exact Or.inr fun request found => Or.inr (List.mem_append_left _ found)
  | keepaliveTick runs waits =>
      refine covered.frame (fun up => up) (fun unseen => unseen) fun request held => ?_
      rcases held with handed | waiting
      · exact Or.inl handed
      · have waiting : request ∈ s.work := waiting
        rw [waits] at waiting
        cases waiting
  | receiveCommand runs waits queued => cases own
  | handOver runs waiting room => cases own
  | tryDisconnect => cases own
  | @observe op observes =>
      refine covered.frame (fun up => ?_) (fun unseen => unseen) fun _ held => held
      have up : (s.shared.apply (s.now, op)).telemetry.connected = true := up
      rw [Shared.apply_connected] at up
      cases op with
      | broadcastSnapshot => exact up
      | subscribe => exact up
      | unsubscribe => exact up
      | _ => cases observes
  | stop running =>
      intro up
      have up : (s.shared.telemetry.setConnected false).connected = true := up
      rw [Telemetry.setConnected_connected] at up
      cases up
  | _ => exact idle rfl rfl rfl rfl

theorem queueStep_covered {h h' : Handing F} {l : Label F} (step : QueueStep env room h l h')
    (covered : h.Covered env) : h'.Covered env := by
  cases step with
  | other step own => exact step_covered step own covered
  | @receiveCommand s handed id request rest runs waits queued =>
      have held : ∀ request, request ∈ handed ∨ request ∈ s.work → request ∈ handed := by
        rintro request (earlier | waiting)
        · exact earlier
        · rw [waits] at waiting
          cases waiting
      unfold System.receiveCommandIn
      split
      · exact covered.frame (fun up => up) (fun unseen => unseen) fun _ held => held
      · split
        · split
          · unfold System.offer
            split <;> exact covered.frame (fun up => up) (fun unseen => unseen) fun _ held => held
          · exact covered.frame (fun up => up) (fun unseen => unseen) fun _ held => held
        · exact covered.frame (fun up => up) (fun unseen => unseen) fun request found =>
            Or.inl (held request found)
  | @handOver s handed request rest runs waiting accepts =>
      refine covered.frame (fun up => up) (fun unseen => unseen) fun r held => ?_
      rcases held with earlier | waits
      · exact Or.inl (List.mem_append_left _ earlier)
      · have waits : r ∈ s.work := waits
        rw [waiting] at waits
        rcases List.mem_cons.1 waits with rfl | later
        · exact Or.inl (List.mem_append_right _ (List.mem_singleton.2 rfl))
        · exact Or.inr later
  | tryDisconnect =>
      unfold System.offer
      split <;> exact covered.frame (fun up => up) (fun unseen => unseen) fun _ held => held

/-- **No connection is left unsubscribed.**  Whatever the client's channel accepts and
however the two futures interleave: when the gateway is connected and the producer
waits with nothing unseen, every filter was handed over after the last ConnAck. -/
theorem connection_subscribed (env : Env F) (room : List Request → Bool)
    (valid : ∀ filter ∈ env.filters, validFilter filter = true) {h : Handing F}
    (reached : (queueing env room).Reaches Machine.Any h) (connected : h.system.connected = true)
    (waits : h.system.work = []) (seen : h.system.notified = false) :
    env.filters.length = 15 ∧
      ∀ filter ∈ env.filters, .subscribe ⟨0, [filter]⟩ ∈ h.handed := by
  have covered : h.Covered env := Machine.Reaches.invariant (P := fun h => h.Covered env)
    (fun _ initial => by rw [initial]; intro up; cases up)
    (fun _ _ _ _ covered _ step => queueStep_covered step covered) reached
  refine ⟨by simp [Env.filters, Env.portalFilters], fun filter listed => ?_⟩
  have requested : .subscribe ⟨0, [filter]⟩ ∈ env.subscribePortal := by
    refine List.mem_filterMap.2 ⟨filter, listed, ?_⟩
    rw [subscribeRequest, if_pos (valid filter listed)]
  rcases covered connected with unseen | held
  · rw [seen] at unseen
    cases unseen
  · refine (held _ requested).resolve_right fun waiting => ?_
    rw [waits] at waiting
    cases waiting

/-! ## The bridge's own queue -/

/-- The bridge's channel has room below its capacity. -/
def bridgeRoom (queue : List Request) : Bool := decide (queue.length < requestCapacity)

omit [Binary64 F] in
theorem trySend_eq_offer (s : System F) (request : Request) :
    s.trySend request = s.offer bridgeRoom request := by
  unfold System.trySend System.offer bridgeRoom
  by_cases room : s.eventloop.requests.length < requestCapacity
  · rw [if_pos room, if_pos (decide_eq_true room)]
    rfl
  · rw [if_neg room, if_neg (by simpa using room)]

/-- Every run of the bridge is one of these, with its own room. -/
theorem queueing_of_bridge (env : Env F) {s : System F}
    (reached : (bridge env).Reaches Machine.Any s) :
    ∃ handed, (queueing env bridgeRoom).Reaches Machine.Any ⟨s, handed⟩ := by
  refine Machine.Reaches.invariant
    (P := fun s => ∃ handed, (queueing env bridgeRoom).Reaches Machine.Any ⟨s, handed⟩)
    (fun s initial => ⟨[], .start (by rw [initial]; rfl)⟩) ?_ reached
  rintro s l t - ⟨handed, before⟩ - step
  cases own : l.offers with
  | false => exact ⟨_, before.next trivial (.other step own)⟩
  | true =>
      cases step with
      | @receiveCommand id request rest runs waits queued =>
          have same : System.receiveCommand env { s with commands := rest } id request =
              System.receiveCommandIn env bridgeRoom { s with commands := rest } id request := by
            unfold System.receiveCommand System.receiveCommandIn
            cases published : env.commandPublish id request with
            | none => rfl
            | some publish => simp only [trySend_eq_offer]
          rw [same]
          exact ⟨_, before.next trivial (.receiveCommand runs waits queued)⟩
      | @handOver request rest runs waiting room =>
          have same : s.trySend request = s.enqueue request := if_pos room
          rw [same]
          exact ⟨_, before.next trivial (.handOver runs waiting (decide_eq_true room))⟩
      | tryDisconnect =>
          rw [trySend_eq_offer]
          exact ⟨_, before.next trivial .tryDisconnect⟩
      | _ => cases own

/-! ## A whole round -/

/-- A suspended poller lets the producer finish its round. -/
theorem round_finishes (env : Env F) (room : List Request → Bool) (free : ∀ queue, room queue = true)
    {work : List Request} {s : System F} {handed : List Request} (runs : s.phase.suspended = true)
    (waiting : s.work = work) (reached : (queueing env room).Reaches Machine.Any ⟨s, handed⟩) :
    ∃ s' handed', (queueing env room).Reaches Machine.Any ⟨s', handed'⟩ ∧ s'.work = [] ∧
      s'.shared = s.shared ∧ s'.notified = s.notified := by
  induction work generalizing s handed with
  | nil => exact ⟨s, handed, reached, waiting, rfl, rfl⟩
  | cons request rest ih =>
      obtain ⟨s', handed', later, done, shared, notified⟩ :=
        ih (s := { s.enqueue request with work := rest }) runs rfl
          (reached.next trivial (.handOver runs waiting (free _)))
      exact ⟨s', handed', later, done, shared, notified⟩

/-- A connection on a queue that is never full. -/
theorem connection_subscribed_once :
    ∃ h : Handing Int, (queueing System.portalEnv fun _ => true).Reaches Machine.Any h ∧
      h.system.connected = true ∧ System.portalEnv.filters.length = 15 ∧
        ∀ filter ∈ System.portalEnv.filters, .subscribe ⟨0, [filter]⟩ ∈ h.handed := by
  have valid : ∀ filter ∈ System.portalEnv.filters, validFilter filter = true := by decide
  let connecting : System Int :=
    { eventloop := EventLoop.new.connect false 0, phase := .handle .connAck }
  have opened : (queueing System.portalEnv fun _ => true).Reaches Machine.Any
      ⟨connecting, []⟩ :=
    (Machine.Reaches.start (M := queueing System.portalEnv fun _ => true) rfl).next trivial
      (.other (.connectSucceeds false rfl rfl) rfl)
  have acknowledged := opened.next trivial (.other (.handle false rfl) rfl)
  have started := acknowledged.next trivial (.other (.connectedChanged rfl rfl rfl) rfl)
  obtain ⟨s, handed, reached, done, shared, notified⟩ :=
    round_finishes System.portalEnv (fun _ => true) (fun _ => rfl) rfl rfl started
  have up : s.connected = true := by
    unfold System.connected
    rw [shared]
    rfl
  exact ⟨⟨s, handed⟩, reached, up,
    connection_subscribed System.portalEnv (fun _ => true) valid reached up done
      (notified.trans rfl)⟩

end Steps

end InverterGateway.Gateway

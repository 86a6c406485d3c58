/-
# Gateway.Progress — the poller never gets stuck, but its session may

Every poll that reads, sends or flushes leaves an event to yield, so the `unwrap`
that ends it finds one, and from every state a broker that does its part brings
the gateway back to a connected poll.

What the gateway can do there is another matter.  `clean` keeps a collided
publish, and only the acknowledgement of the slot it met would release it.  Once
the connection is lost that slot is empty in every later session, so the request
branch stays disabled: the gateway connects, answers and pings, and neither
subscribes nor publishes again.
-/
import InverterGateway.Gateway.Delivery
import InverterGateway.Gateway.InFlight

namespace InverterGateway.Gateway

open InverterGateway.Theory InverterGateway.Rumqttc

set_option autoImplicit false

variable {F : Type}

/-- The places of a poll that ends with a flush. -/
def Phase.flushes : Phase → Bool
  | .reading _ _ | .sending _ | .flushing => true
  | _ => false

/-- The steps of a poller whose broker and network do their part: nothing fails, and
sessions start clean. -/
def Label.obliging : Label F → Bool
  | .connectSucceeds sessionPresent => !sessionPresent
  | .yieldBuffered | .enterSelect | .readPacket _ | .writeReply | .endRead
  | .write | .flush | .handle _ | .wake => true
  | _ => false

/-- A bulk read that handled a packet, or no bulk read. -/
def Phase.counted : Phase → Bool
  | .reading 0 _ => false
  | _ => true

/-- Inside `select`, with the request branch enabled. -/
def Phase.takes : Phase → Bool
  | .select requests => requests
  | _ => false

theorem Phase.takes_eq_false {phase : Phase} (away : phase ≠ .select true) :
    phase.takes = false := by
  cases phase with
  | select requests =>
      cases requests with
      | false => rfl
      | true => exact absurd rfl away
  | _ => rfl

/-- The packets that carry nothing of the gateway's own: acknowledgements and pings. -/
def routine : Packet → Bool
  | .pubAck _ | .pubRec _ | .pubComp _ | .pingReq => true
  | _ => false

namespace System

/-! ## Every poll has an event to yield -/

/-- A packet that was handled leaves its note. -/
theorem handleOutgoing_note {state : MqttState} {request : Request} {packet : Option Packet}
    (handled : (state.handleOutgoing request).2 = .ok packet) :
    (state.handleOutgoing request).1.events ≠ [] := by
  cases request with
  | publish publish =>
      simp only [MqttState.handleOutgoing, MqttState.outgoingPublish] at handled ⊢
      split at handled
      · rename_i once
        rw [if_pos once]
        exact List.concat_ne_nil _ _
      · rename_i acked
        rw [if_neg acked]
        split at handled
        · cases handled
        · exact List.concat_ne_nil _ _
        · exact List.concat_ne_nil _ _
  | pingReq =>
      simp only [MqttState.handleOutgoing, MqttState.outgoingPing] at handled ⊢
      split at handled
      · cases handled
      · rename_i few
        rw [if_neg few]
        split at handled
        · cases handled
        · rename_i answered
          rw [if_neg answered]
          exact List.concat_ne_nil _ _
  | subscribe subscription =>
      simp only [MqttState.handleOutgoing, MqttState.outgoingSubscribe] at handled ⊢
      split at handled
      · cases handled
      · rename_i some_filter
        rw [if_neg some_filter]
        exact List.concat_ne_nil _ _
  | _ => exact List.concat_ne_nil _ _

/-- The events a poll keeps for its end, by the place the poller is at. -/
structure Yields (s : System F) : Prop where
  counted : s.phase.counted = true
  kept : s.phase.flushes = true → s.eventloop.state.events ≠ []

/-- Away from the places of a poll that ends with a flush. -/
theorem Yields.away {s : System F} (away : s.phase.flushes = false) : s.Yields := by
  refine ⟨?_, fun flushes => ?_⟩
  · cases place : s.phase with
    | reading n reply => rw [place] at away; cases away
    | _ => rfl
  · rw [away] at flushes
    cases flushes

theorem Yields.frame {s t : System F} (yields : s.Yields) (phase : t.phase = s.phase)
    (state : t.eventloop.state = s.eventloop.state) : t.Yields where
  counted := by rw [phase]; exact yields.counted
  kept flushes := by rw [state]; exact yields.kept (by rw [← phase]; exact flushes)

variable (env : Env F)

theorem handle_away (s : System F) (pulled : Bool) (result : Polled) :
    (s.handle env pulled result).phase.flushes = false := by
  cases result <;> rfl

variable [Binary64 F]

theorem step_yields {s t : System F} {l : Label F} (step : Step env s l t)
    (yields : s.Yields) : t.Yields := by
  have apart := step_apart env step
  cases step with
  | @readPacket c n packet reply reads room up handled =>
      refine ⟨rfl, fun _ => ?_⟩
      obtain ⟨notes, events⟩ := s.eventloop.state.handleIncoming_events (packet.readOn c)
      show (s.eventloop.state.handleIncoming (packet.readOn c)).1.events ≠ []
      rw [events]
      simp
  | @writeReply c n packet replies up =>
      have counted := yields.counted
      rw [replies] at counted
      cases n with
      | zero => cases counted
      | succ n => exact ⟨rfl, fun _ => yields.kept (by rw [replies]; rfl)⟩
  | endRead reads some_read => exact ⟨rfl, fun _ => yields.kept (by rw [reads]; rfl)⟩
  | takeRequest enabled next handled => exact ⟨rfl, fun _ => handleOutgoing_note handled⟩
  | ping selects handled => exact ⟨rfl, fun _ => handleOutgoing_note handled⟩
  | write sends up => exact ⟨rfl, fun _ => yields.kept (by rw [sends]; rfl)⟩
  | writeNothing sends => exact ⟨rfl, fun _ => yields.kept (by rw [sends]; rfl)⟩
  | @handle result pulled polled => exact .away (s.handle_away env pulled result)
  | connectedChanged | keepaliveTick | receiveCommand | handOver | build | send | observe | tick
  | tryDisconnect => exact yields.frame (apart rfl).phase (apart rfl).state
  | _ => exact .away rfl

theorem yields_of_reaches {ok : System F → Label F → Prop} {s : System F}
    (reached : (bridge env).Reaches ok s) : s.Yields :=
  Machine.Reaches.invariant (P := Yields)
    (fun _ initial => by rw [initial]; exact .away rfl)
    (fun _ _ _ _ yields _ step => step_yields env step yields) reached

/-! ## A connected poll is always within reach -/

/-- The condition: the broker and the network do their part. -/
def Obliging (_ : System F) (l : Label F) : Prop := l.obliging = true

omit [Binary64 F] in
theorem Obliging.clean {s : System F} {l : Label F} (obliging : Obliging s l) :
    CleanSession s l := by
  rintro rfl
  cases obliging

/-- A connected poll within reach of obliging steps. -/
def Recovers (s : System F) : Prop :=
  ∃ t, Relation.ReflTransGen ((bridge env).Under Obliging) s t ∧ t.phase = .poll ∧
    t.connected = true

variable {env}

theorem Recovers.step {s t : System F} {l : Label F} (step : Step env s l t)
    (obliging : l.obliging = true) (recovers : t.Recovers env) : s.Recovers env := by
  obtain ⟨u, run, here⟩ := recovers
  exact ⟨u, .head ⟨l, obliging, step⟩ run, here⟩

theorem Linked.recovers_poll {s : System F} (linked : s.Linked) (polling : s.phase = .poll) :
    s.Recovers env := by
  have link := linked.link
  rw [polling] at link
  rcases link with up | down
  · exact ⟨s, .refl, polling, up.connected⟩
  · have step : Step env s (.connectSucceeds false) _ := .connectSucceeds false polling down.network
    have opening := (step_linked env step linked).link
    refine .step step rfl ?_
    refine .step (.handle false rfl) rfl ?_
    exact ⟨_, .refl, rfl, (handleConnAck_up env opening false).connected⟩

theorem Linked.recovers_handle {s : System F} (linked : s.Linked) {result : Polled}
    (polled : s.phase = .handle result) : s.Recovers env := by
  have step : Step env s (.handle false) (s.handle env false result) := .handle false polled
  have next := step_linked env step linked
  refine .step step rfl ?_
  cases result with
  | connAck => exact next.recovers_poll rfl
  | event e => exact next.recovers_poll rfl
  | error =>
      have wakes : Step env (s.handle env false .error) .wake _ := .wake rfl
      exact .step wakes rfl ((step_linked env wakes next).recovers_poll rfl)

theorem Linked.recovers_flushing {s : System F} (linked : s.Linked) (yields : s.Yields)
    (flushes : s.phase = .flushing) : s.Recovers env := by
  have up : s.Up := linked.link.up_of_selecting (by rw [flushes]; rfl)
  obtain ⟨e, rest, events⟩ := List.exists_cons_of_ne_nil (yields.kept (by rw [flushes]; rfl))
  have step : Step env s .flush _ := .flush flushes up.network events
  exact .step step rfl ((step_linked env step linked).recovers_handle rfl)

theorem Linked.recovers_reading {s : System F} (linked : s.Linked) (yields : s.Yields)
    {n : Nat} (reads : s.phase = .reading n none) : s.Recovers env := by
  have some_read : 0 < n := by
    refine Nat.pos_of_ne_zero fun none_read => ?_
    have counted := yields.counted
    rw [reads, none_read] at counted
    cases counted
  have step : Step env s .endRead _ := .endRead reads some_read
  exact .step step rfl
    ((step_linked env step linked).recovers_flushing (step_yields env step yields) rfl)

/-- **No place of the poller is a dead end.** -/
theorem Linked.recovers {s : System F} (linked : s.Linked) (yields : s.Yields)
    (running : s.phase ≠ .stopped) : s.Recovers env := by
  have link := linked.link
  cases place : s.phase with
  | poll => exact linked.recovers_poll place
  | handle result => exact linked.recovers_handle place
  | flushing => exact linked.recovers_flushing yields place
  | stopped => exact absurd place running
  | sleep =>
      have step : Step env s .wake _ := .wake place
      exact .step step rfl ((step_linked env step linked).recovers_poll rfl)
  | sending packet =>
      rw [place] at link
      have up : s.Up := link
      cases packet with
      | none =>
          have step : Step env s .write _ := .writeNothing place
          exact .step step rfl
            ((step_linked env step linked).recovers_flushing (step_yields env step yields) rfl)
      | some packet =>
          have step : Step env s .write _ := .write place up.network
          exact .step step rfl
            ((step_linked env step linked).recovers_flushing (step_yields env step yields) rfl)
  | reading n reply =>
      rw [place] at link
      have up : s.Up := link
      cases reply with
      | none => exact linked.recovers_reading yields place
      | some packet =>
          have step : Step env s .writeReply _ := .writeReply place up.network
          exact .step step rfl
            ((step_linked env step linked).recovers_reading (step_yields env step yields) rfl)
  | select requests =>
      -- a broker that only answers a ping is enough to leave `select`
      rw [place] at link
      have up : s.Up := link
      have step : Step env s (.readPacket .pingResp) _ :=
        .readPacket .pingResp (by rw [place]; rfl) (by decide) up.network rfl
      exact .step step rfl
        ((step_linked env step linked).recovers_reading (step_yields env step yields) rfl)

variable (env)

/-- **A poll never comes back without an event, and the poller never gets stuck.**  In
every state of every run: where a poll is about to flush, an event waits for the
`unwrap` behind the flush; and unless the gateway was stopped, steps in which
nothing fails lead to a connected poll. -/
theorem poller_progress {s : System F} (reached : (bridge env).Reaches Machine.Any s) :
    (s.phase.flushes = true → s.eventloop.state.events ≠ []) ∧
      (s.phase ≠ .stopped → s.Recovers env) :=
  ⟨(yields_of_reaches env reached).kept,
    (linked_of_reaches env reached).recovers (yields_of_reaches env reached)⟩

/-- A first connection whose broker sends an acknowledgement nobody waits for. -/
theorem poller_progress_rejected :
    ∃ s : System Int, (bridge ⟨⟨"N/p/", "W/p/", "inverter"⟩, fun _ => none⟩).Reaches Machine.Any s ∧
      s.phase = .handle .error ∧ s.Recovers ⟨⟨"N/p/", "W/p/", "inverter"⟩, fun _ => none⟩ := by
  have start : (bridge (F := Int) ⟨⟨"N/p/", "W/p/", "inverter"⟩, fun _ => none⟩).Reaches
      Machine.Any {} := .start rfl
  have opened := (start.next trivial (.connectSucceeds false rfl rfl)).next trivial
    (.handle false rfl)
  have selects := opened.next trivial (.enterSelect rfl rfl rfl)
  have broken := selects.next trivial (.readRejected (.pubAck 7) false rfl (by decide) rfl rfl)
  exact ⟨_, broken, rfl, (poller_progress _ broken).2 fun same => by cases same⟩

/-! ## A collision that outlives its connection -/

/-- **An idle session only answers with routine packets.** -/
theorem handleIncoming_routine {state : MqttState} (idle : state.Idle) {packet reply : Packet}
    (handled : (state.handleIncoming packet).2 = .ok (some reply)) : routine reply = true := by
  cases packet with
  | publish publish =>
      simp only [MqttState.handleIncoming, MqttState.react,
        MqttState.handleIncomingPublish] at handled
      split at handled
      · cases handled
      · split at handled <;> cases handled
        rfl
      · split at handled <;> cases handled
        rfl
  | pubAck pkid =>
      simp only [MqttState.handleIncoming, MqttState.react,
        MqttState.handleIncomingPuback] at handled
      split at handled
      · cases handled
      · cases handled
      · rename_i held
        exact absurd held (idle.slot _ _)
  | pubRec pkid =>
      simp only [MqttState.handleIncoming, MqttState.react,
        MqttState.handleIncomingPubrec] at handled
      split at handled
      · rename_i held
        exact absurd held (idle.slot _ _)
      · cases handled
  | pubRel pkid =>
      simp only [MqttState.handleIncoming, MqttState.react,
        MqttState.handleIncomingPubrel] at handled
      split at handled <;> cases handled
      rfl
  | pubComp pkid =>
      simp only [MqttState.handleIncoming, MqttState.react, MqttState.handleIncomingPubcomp,
        idle.rels pkid] at handled
      cases handled
  | _ => cases handled

theorem outgoingPing_routine {state : MqttState} {packet : Packet}
    (handled : state.outgoingPing.2 = .ok (some packet)) : routine packet = true := by
  simp only [MqttState.outgoingPing] at handled
  split at handled
  · cases handled
  split at handled
  · cases handled
  · cases handled
    rfl

/-- A session that holds a collided publish and no slot that could release it. -/
structure Wedged (p : Publish) (s : System F) : Prop where
  idle : s.eventloop.state.Idle
  collision : s.eventloop.state.collision = some p
  away : s.phase.takes = false
  out : s.phase.out.all routine = true

/-- What is written is only routine. -/
def Routine (s t : System F) : Prop :=
  ∃ later, t.written = s.written ++ later ∧ ∀ w ∈ later, routine w.2 = true

section Wedged

variable {p : Publish} {s t u : System F}

omit [Binary64 F] in
theorem Routine.quiet (same : t.written = s.written) : s.Routine t :=
  ⟨[], same.trans (List.append_nil _).symm, fun _ found => absurd found List.not_mem_nil⟩

omit [Binary64 F] in
theorem Routine.one {c : Nat} {packet : Packet} (written : t.written = s.written ++ [(c, packet)])
    (only : routine packet = true) : s.Routine t :=
  ⟨[(c, packet)], written, fun w found => by rw [List.mem_singleton.1 found]; exact only⟩

omit [Binary64 F] in
theorem Routine.trans (first : s.Routine t) (second : t.Routine u) : s.Routine u := by
  obtain ⟨later, written, only⟩ := first
  obtain ⟨later', written', only'⟩ := second
  refine ⟨later ++ later', by rw [written', written, List.append_assoc], fun w found => ?_⟩
  exact (List.mem_append.1 found).elim (only w) (only' w)

omit [Binary64 F] in
/-- A step that leaves the session alone. -/
theorem Wedged.frame (wedged : s.Wedged p) (state : t.eventloop.state = s.eventloop.state)
    (away : t.phase.takes = false) (out : t.phase.out.all routine = true) : t.Wedged p :=
  ⟨by rw [state]; exact wedged.idle, by rw [state]; exact wedged.collision, away, out⟩

omit [Binary64 F] in
/-- The connection is lost: the slots are cleared and the collision is kept. -/
theorem Wedged.cleaned {state : MqttState} (collision : state.collision = some p)
    (cleaned : t.eventloop.state = state.clean) (away : t.phase.takes = false)
    (out : t.phase.out = none) : t.Wedged p :=
  ⟨by rw [cleaned]; exact state.clean_idle, by rw [cleaned]; exact collision, away,
    by rw [out]; rfl⟩

omit [Binary64 F] in
theorem Wedged.not_enabled (wedged : s.Wedged p) : s.phase ≠ .select true := by
  intro enabled
  have away := wedged.away
  rw [enabled] at away
  cases away

/-- **Every step of a clean session stays wedged**, and writes only routine packets. -/
theorem step_wedged {l : Label F} (step : Step env s l t) (clean : s.CleanSession l)
    (session : s.Session) (wedged : s.Wedged p) : t.Wedged p ∧ s.Routine t := by
  have apart := step_apart env step
  have pinged : (s.eventloop.state.handleOutgoing .pingReq).1.collision = some p := by
    refine (s.eventloop.state.handleOutgoing_other fun publish same => ?_).1.trans wedged.collision
    cases same
  have out := wedged.out
  cases step with
  | @enterSelect c polling up empty =>
      refine ⟨wedged.frame rfl (Phase.takes_eq_false fun selects => ?_) rfl, .quiet rfl⟩
      have takes : s.eventloop.takesRequests = true := Phase.select.inj selects
      have pending := session.pending (by rw [up]; exact Option.some_ne_none c)
      have free := EventLoop.takesRequests_new pending takes
      rw [wedged.collision] at free
      cases free
  | yieldBuffered polling up buffered =>
      exact ⟨⟨⟨wedged.idle.slots, wedged.idle.rels⟩, wedged.collision, rfl, rfl⟩, .quiet rfl⟩
  | @readPacket c n packet reply reads room up handled =>
      obtain ⟨idle, collision, -⟩ := MqttState.handleIncoming_idle wedged.idle (packet.readOn c)
      refine ⟨⟨idle, collision.trans wedged.collision, rfl, ?_⟩, .quiet rfl⟩
      cases reply with
      | none => rfl
      | some answer => exact handleIncoming_routine wedged.idle handled
  | @readRejected c n packet e pulled reads room up rejected =>
      obtain ⟨-, collision, -⟩ := MqttState.handleIncoming_idle wedged.idle (packet.readOn c)
      exact ⟨.cleaned (collision.trans wedged.collision) rfl rfl rfl, .quiet rfl⟩
  | writeReply replies up =>
      rw [replies] at out
      exact ⟨wedged.frame rfl rfl rfl, .one rfl out⟩
  | takeRequest enabled next handled => exact absurd enabled wedged.not_enabled
  | requestRejected pulled enabled next rejected => exact absurd enabled wedged.not_enabled
  | @ping enabled packet selects handled =>
      refine ⟨⟨MqttState.outgoingPing_idle wedged.idle, pinged, rfl, ?_⟩, .quiet rfl⟩
      cases packet with
      | none => rfl
      | some sent => exact outgoingPing_routine handled
  | pingRejected pulled selects rejected => exact ⟨.cleaned pinged rfl rfl rfl, .quiet rfl⟩
  | write sends up =>
      rw [sends] at out
      exact ⟨wedged.frame rfl rfl rfl, .one rfl out⟩
  | flush flushes up buffered =>
      exact ⟨⟨⟨wedged.idle.slots, wedged.idle.rels⟩, wedged.collision, rfl, rfl⟩, .quiet rfl⟩
  | fail pulled selects => exact ⟨.cleaned wedged.collision rfl rfl rfl, .quiet rfl⟩
  | @handle result pulled polled =>
      have frame := s.handle_frame env pulled result
      have away := Phase.takes_eq_false frame.away
      refine ⟨?_, .quiet frame.written⟩
      rcases s.handle_loop env pulled result with ⟨loop, -⟩ | ⟨-, cleaned, -⟩
      · exact wedged.frame (by rw [loop]) away (by rw [frame.out]; rfl)
      · exact .cleaned wedged.collision cleaned away frame.out
  | connectedChanged | keepaliveTick | receiveCommand | handOver | build | send | observe | tick
  | tryDisconnect =>
      have same := apart rfl
      exact ⟨wedged.frame same.state (by rw [same.phase]; exact wedged.away)
        (by rw [same.phase]; exact wedged.out), .quiet same.written⟩
  | _ => exact ⟨wedged.frame rfl rfl rfl, .quiet rfl⟩

/-- A lost connection whose session still holds a collided publish is wedged. -/
theorem wedged_of_down (reached : (bridge env).Reaches CleanSession s)
    (down : s.eventloop.network = none) (collided : s.eventloop.state.collision = some p) :
    s.Wedged p := by
  have link := (linked_of_reaches env reached).link
  have idle := (session_of_reaches env (fun _ _ => id) reached).idle down
  have outside : s.phase.selecting = false := by
    cases selects : s.phase.selecting with
    | false => rfl
    | true =>
        have up := (link.up_of_selecting selects).network
        rw [down] at up
        cases up
  cases place : s.phase with
  | select requests => rw [place] at outside; cases outside
  | reading n reply => rw [place] at outside; cases outside
  | sending packet => rw [place] at outside; cases outside
  | _ => exact ⟨idle, collided, by rw [place]; rfl, by rw [place]; rfl⟩

/-- **A collision that outlives its connection silences the gateway for good.**  With a
broker that starts its sessions clean: once a publish has collided and the
connection is lost, no step of any later run releases it, none takes a request
again, and all that is written from then on are acknowledgements and pings.  Yet
unless the gateway is stopped it keeps being able to come up connected. -/
theorem collision_wedges (reached : (bridge env).Reaches CleanSession s)
    (down : s.eventloop.network = none) (collided : s.eventloop.state.collision = some p)
    (run : Relation.ReflTransGen ((bridge env).Under CleanSession) s t) :
    t.eventloop.state.collision = some p ∧ t.phase ≠ .select true ∧ s.Routine t ∧
      (t.phase ≠ .stopped → t.Recovers env) := by
  have kept : t.Wedged p ∧ s.Routine t := by
    induction run with
    | refl => exact ⟨wedged_of_down env reached down collided, .quiet rfl⟩
    | tail sofar last ih =>
        obtain ⟨l, clean, step⟩ := last
        have session := session_of_reaches env (fun _ _ => id) (reached.further sofar)
        obtain ⟨wedged, routine⟩ := step_wedged env step clean session ih.1
        exact ⟨wedged, ih.2.trans routine⟩
  have later := reached.further run
  exact ⟨kept.1.collision, kept.1.not_enabled, kept.2,
    (linked_of_reaches env later).recovers (yields_of_reaches env later)⟩

end Wedged

/-! ## A run into the wedge -/

/-- The publish of the `k`-th command to silence the alarm. -/
def silence (k : Nat) : Request := .publish (message k silenceAlarm 0)

/-- The first `n` identifiers were drawn, all for publishes that wait. -/
structure Filled (n : Nat) (state : MqttState) : Prop where
  bound : state.maxInflight = 100
  inflight : state.inflight = n
  last : state.lastPkid = n % 100
  clear : state.collision = none
  taken : ∀ m, 0 < m → m ≤ n → ∃ p, state.outgoingPub[m]? = some (some p)
  free : ∀ m, n < m → m ≤ 100 → state.outgoingPub[m]? = some none

/-- All identifiers but the second wait, and the first is the next to be drawn. -/
structure Blocked (state : MqttState) : Prop where
  bound : state.maxInflight = 100
  inflight : state.inflight = 99
  last : state.lastPkid = 0
  clear : state.collision = none
  taken : ∃ p, state.outgoingPub[1]? = some (some p)

theorem silence_free {state : MqttState} (free : state.outgoingPub[state.lastPkid + 1]? = some none)
    (k : Nat) : state.handleOutgoing (silence k) =
      { state.nextPkid.1 with
        outgoingPub := state.outgoingPub.set (state.lastPkid + 1)
          (some (message k silenceAlarm (state.lastPkid + 1)))
        inflight := state.inflight + 1 }.emit (.publish (state.lastPkid + 1))
        (.publish (message k silenceAlarm (state.lastPkid + 1))) := by
  have acked : (message k silenceAlarm 0).qos ≠ .atMostOnce := fun same => by cases same
  have fresh : state.assignPkid (message k silenceAlarm 0).pkid = state.nextPkid := rfl
  have found : state.nextPkid.1.outgoingPub[state.nextPkid.2]? = some none := free
  simp only [silence, MqttState.handleOutgoing, MqttState.outgoingPublish, if_neg acked, fresh,
    found]
  rfl

theorem silence_taken {state : MqttState} {p : Publish}
    (taken : state.outgoingPub[state.lastPkid + 1]? = some (some p)) (k : Nat) :
    state.handleOutgoing (silence k) =
      ({ state.nextPkid.1 with
          collision := some (message k silenceAlarm (state.lastPkid + 1))
          events := state.events ++ [.outgoing (.awaitAck (state.lastPkid + 1))] }, .ok none) := by
  have acked : (message k silenceAlarm 0).qos ≠ .atMostOnce := fun same => by cases same
  have fresh : state.assignPkid (message k silenceAlarm 0).pkid = state.nextPkid := rfl
  have found : state.nextPkid.1.outgoingPub[state.nextPkid.2]? = some (some p) := taken
  simp only [silence, MqttState.handleOutgoing, MqttState.outgoingPublish, if_neg acked, fresh,
    found]
  rfl

/-- A handled request that leaves one note, and after the note a state that meets `P`. -/
def Handled (state : MqttState) (request : Request) (P : MqttState → Prop) : Prop :=
  ∃ after packet note, state.handleOutgoing request = (after, .ok packet) ∧
    after.events = [.outgoing note] ∧ P { after with events := [] }

theorem Filled.silence {n : Nat} {state : MqttState} (filled : Filled n state) (room : n < 100)
    (quiet : state.events = []) (k : Nat) : Handled state (silence k) (Filled (n + 1)) := by
  have drawn : state.lastPkid = n := filled.last.trans (Nat.mod_eq_of_lt room)
  have free : state.outgoingPub[n + 1]? = some none := filled.free _ (Nat.lt_succ_self n) room
  have inside := (List.getElem?_eq_some_iff.1 free).1
  have noted : ∀ note, state.events ++ [.outgoing note] = [.outgoing note] := fun note => by
    rw [quiet]
    rfl
  refine ⟨_, _, _, silence_free (by rw [drawn]; exact free) k, noted _, ?_⟩
  refine ⟨filled.bound, congrArg (· + 1) filled.inflight, ?_, filled.clear,
    fun m positive small => ?_, fun m large bound => ?_⟩
  · show (if state.lastPkid + 1 = state.maxInflight then 0 else state.lastPkid + 1) = (n + 1) % 100
    rw [drawn, filled.bound]
    split <;> omega
  · show ∃ p, (state.outgoingPub.set (state.lastPkid + 1) _)[m]? = some (some p)
    rw [drawn]
    by_cases here : m = n + 1
    · rw [here, List.getElem?_set_self inside]
      exact ⟨_, rfl⟩
    · rw [List.getElem?_set_ne (Ne.symm here)]
      exact filled.taken m positive (by omega)
  · show (state.outgoingPub.set (state.lastPkid + 1) _)[m]? = some none
    rw [drawn, List.getElem?_set_ne (by omega)]
    exact filled.free m (by omega) bound

/-- The hundredth publish wraps the identifiers; the second is acknowledged first. -/
theorem Filled.acknowledge {state : MqttState} (filled : Filled 100 state)
    (quiet : state.events = []) :
    ∃ after, state.handleIncoming (.pubAck 2) = (after, .ok none) ∧
      after.events = [.incoming (.pubAck 2)] ∧ Blocked { after with events := [] } := by
  obtain ⟨p, second⟩ := filled.taken 2 (by decide) (by decide)
  obtain ⟨q, first⟩ := filled.taken 1 (by decide) (by decide)
  refine ⟨{ state with
    lastPuback := 2
    outgoingPub := state.outgoingPub.set 2 none
    inflight := state.inflight - 1
    events := state.events ++ [.incoming (.pubAck 2)] }, ?_, ?_, ?_⟩
  · simp only [MqttState.handleIncoming, MqttState.react, MqttState.handleIncomingPuback, second,
      MqttState.checkCollision, filled.clear, Option.filter_none]
  · rw [quiet]
    rfl
  · refine ⟨filled.bound, ?_, filled.last, filled.clear, q, ?_⟩
    · show state.inflight - 1 = 99
      rw [filled.inflight]
    · show (state.outgoingPub.set 2 none)[1]? = _
      rw [List.getElem?_set_ne (by decide)]
      exact first

theorem Blocked.silence {state : MqttState} (blocked : Blocked state) (quiet : state.events = [])
    (k : Nat) : Handled state (silence k) fun after => after.collision ≠ none := by
  obtain ⟨p, taken⟩ := blocked.taken
  have noted : ∀ note, state.events ++ [.outgoing note] = [.outgoing note] := fun note => by
    rw [quiet]
    rfl
  exact ⟨_, _, _, silence_taken (by rw [blocked.last]; exact taken) k, noted _,
    Option.some_ne_none _⟩

/-- Between two polls of an open connection, with nothing to do. -/
structure Resting (state : MqttState) (s : System Int) : Prop where
  polling : s.phase = .poll
  up : s.eventloop.network ≠ none
  session : s.eventloop.state = state
  quiet : state.events = []
  requests : s.eventloop.requests = []
  pending : s.eventloop.pending = []
  work : s.work = []
  commands : s.commands = []
  held : s.held = []

/-- A gateway at rest with a session that meets `P` is reached. -/
def Rests (P : MqttState → Prop) : Prop :=
  ∃ s state, (bridge controllerEnv).Reaches CleanSession s ∧ s.Resting state ∧ P state

/-- A poll that ends with one event, of which the bridge makes nothing, ends at rest. -/
theorem rests_flushed {s : System Int} (reached : (bridge controllerEnv).Reaches CleanSession s)
    (flushes : s.phase = .flushing) {c : Nat} (up : s.eventloop.network = some c) {e : Event}
    (ignored : ∀ t : System Int, t.handle controllerEnv false (.event e) = { t with phase := .poll })
    (noted : s.eventloop.state.events = [e]) (requests : s.eventloop.requests = [])
    (pending : s.eventloop.pending = []) (work : s.work = []) (commands : s.commands = [])
    (held : s.held = []) {P : MqttState → Prop}
    (holds : P { s.eventloop.state with events := [] }) : Rests P := by
  have flushed := reached.next (by exact nofun) (.flush flushes up noted)
  have handled := flushed.next (by exact nofun) (.handle false rfl)
  rw [ignored] at handled
  have open_still : s.eventloop.network ≠ none := up.trans_ne (Option.some_ne_none c)
  exact ⟨_, _, handled,
    ⟨rfl, open_still, rfl, rfl, requests, pending, work, commands, held⟩, holds⟩

/-- From rest, a command is accepted, handed over and sent. -/
theorem Resting.command {s : System Int} {state : MqttState} (resting : s.Resting state)
    (reached : (bridge controllerEnv).Reaches CleanSession s) {P : MqttState → Prop}
    (free : state.inflight < state.maxInflight) (clear : state.collision = none)
    (handles : ∀ k, Handled state (silence k) P) : Rests P := by
  obtain ⟨shared, ⟨state', requests, pending, network⟩, phase, notified, work, commands, held, now,
    accepted, opened, written, unflushed, transmitted, applied⟩ := s
  obtain ⟨rfl, up, rfl, quiet, rfl, rfl, rfl, rfl, rfl⟩ := resting
  obtain ⟨c, rfl⟩ := Option.ne_none_iff_exists'.1 up
  obtain ⟨after, packet, note, handled, events, holds⟩ := handles accepted.length
  have takes :
      (!decide (state'.maxInflight ≤ state'.inflight) && state'.collision.isNone) = true := by
    rw [clear, decide_eq_false (Nat.not_le.2 free)]
    rfl
  have made : controllerEnv.commandPublish accepted.length silenceAlarm =
      some (silence accepted.length) := rfl
  have built := reached.next (by exact nofun)
    (@Step.build _ _ controllerEnv _ "silence_alarm" .null silenceAlarm rfl)
  have sent := built.next (by exact nofun) (.send 0 rfl fun same => by cases same)
  have received := sent.next (by exact nofun)
    (@Step.receiveCommand _ _ controllerEnv _ accepted.length silenceAlarm [] rfl rfl rfl)
  rw [receiveCommand_native _ _ rfl made] at received
  have handed := received.next (by exact nofun) (.handOver rfl rfl (Nat.succ_pos 255))
  have selects := handed.next (by exact nofun) (.enterSelect rfl rfl quiet)
  have taken := selects.next (by exact nofun) (@Step.takeRequest _ _ controllerEnv _
    (silence accepted.length) _ packet (congrArg Phase.select takes) rfl
    (congrArg Prod.snd handled))
  have same : (state'.handleOutgoing (silence accepted.length)).1 = after :=
    congrArg Prod.fst handled
  have left : (state'.handleOutgoing (silence accepted.length)).1.events =
      [.outgoing note] := by
    rw [same]
    exact events
  have holds' : P { (state'.handleOutgoing (silence accepted.length)).1 with events := [] } := by
    rw [same]
    exact holds
  cases packet with
  | none =>
      exact rests_flushed (taken.next (by exact nofun) (.writeNothing rfl)) rfl rfl (fun _ => rfl)
        left rfl rfl rfl rfl rfl holds'
  | some packet =>
      exact rests_flushed (taken.next (by exact nofun) (.write rfl rfl)) rfl rfl (fun _ => rfl)
        left rfl rfl rfl rfl rfl holds'

/-- From rest, the broker acknowledges a publish. -/
theorem Resting.acknowledged {s : System Int} {state after : MqttState} (resting : s.Resting state)
    (reached : (bridge controllerEnv).Reaches CleanSession s) {P : MqttState → Prop} {pkid : Nat}
    (handled : state.handleIncoming (.pubAck pkid) = (after, .ok none))
    (events : after.events = [.incoming (.pubAck pkid)]) (holds : P { after with events := [] }) :
    Rests P := by
  obtain ⟨shared, ⟨state', requests, pending, network⟩, phase, notified, work, commands, held, now,
    accepted, opened, written, unflushed, transmitted, applied⟩ := s
  obtain ⟨rfl, up, rfl, quiet, rfl, rfl, rfl, rfl, rfl⟩ := resting
  obtain ⟨c, rfl⟩ := Option.ne_none_iff_exists'.1 up
  have same : (state'.handleIncoming (.pubAck pkid)).1 = after := congrArg Prod.fst handled
  have left : (state'.handleIncoming (.pubAck pkid)).1.events = [.incoming (.pubAck pkid)] := by
    rw [same]
    exact events
  have selects := reached.next (by exact nofun) (.enterSelect rfl rfl quiet)
  have read := selects.next (by exact nofun)
    (.readPacket (.pubAck pkid) rfl (by decide) rfl (congrArg Prod.snd handled))
  have holds' : P { (state'.handleIncoming (.pubAck pkid)).1 with events := [] } := by
    rw [same]
    exact holds
  exact rests_flushed (read.next (by exact nofun) (.endRead rfl (Nat.lt_succ_self 0))) rfl rfl
    (fun _ => rfl) left rfl rfl rfl rfl rfl holds'

/-- Any number of commands up to a hundred may wait unacknowledged. -/
theorem rests_filled : ∀ n ≤ 100, Rests (Filled n) := by
  intro n
  induction n with
  | zero =>
      intro _
      have start : (bridge controllerEnv).Reaches CleanSession {} := .start rfl
      have opened := (start.next (by exact nofun) (.connectSucceeds false rfl rfl)).next
        (by exact nofun) (.handle false rfl)
      refine ⟨_, _, opened, ⟨rfl, Option.some_ne_none 0, rfl, rfl, rfl, rfl, rfl, rfl, rfl⟩,
        rfl, rfl, rfl, rfl, fun m positive none_taken => absurd positive (Nat.not_lt.2 none_taken),
        fun m _ bound => ?_⟩
      exact List.getElem?_replicate_of_lt (Nat.lt_succ_of_le bound)
  | succ n ih =>
      intro room
      obtain ⟨s, state, reached, resting, filled⟩ := ih (Nat.le_of_succ_le room)
      refine resting.command reached ?_ filled.clear (filled.silence room resting.quiet)
      rw [filled.inflight, filled.bound]
      exact room

/-- A collision is reached: a hundred commands wait, the second is acknowledged, and
the next one draws the first identifier again. -/
theorem rests_collided : Rests fun state => state.collision ≠ none := by
  obtain ⟨s, state, reached, resting, filled⟩ := rests_filled 100 (Nat.le_refl _)
  obtain ⟨after, handled, events, blocked⟩ := filled.acknowledge resting.quiet
  obtain ⟨s', state', reached', resting', blocked'⟩ :=
    resting.acknowledged reached handled events blocked
  refine resting'.command reached' ?_ blocked'.clear (blocked'.silence resting'.quiet)
  rw [blocked'.inflight, blocked'.bound]
  decide

/-- The gateway collides, loses its connection and is connected again, with nothing but
routine packets written since. -/
theorem collision_wedges_unacknowledged :
    ∃ (s t : System Int) (p : Publish), (bridge controllerEnv).Reaches CleanSession s ∧
      s.eventloop.network = none ∧ s.eventloop.state.collision = some p ∧
      t.phase = .poll ∧ t.connected = true ∧ t.eventloop.state.collision = some p ∧
      s.Routine t := by
  obtain ⟨s, state, reached, resting, collided⟩ := rests_collided
  obtain ⟨p, held⟩ := Option.ne_none_iff_exists'.1 collided
  obtain ⟨shared, ⟨state', requests, pending, network⟩, phase, notified, work, commands, waiting,
    now, accepted, opened, written, unflushed, transmitted, applied⟩ := s
  obtain ⟨rfl, up, rfl, quiet, rfl, rfl, rfl, rfl, rfl⟩ := resting
  obtain ⟨c, rfl⟩ := Option.ne_none_iff_exists'.1 up
  have selects := reached.next (by exact nofun) (.enterSelect rfl rfl quiet)
  have broken := selects.next (by exact nofun) (.fail false rfl)
  obtain ⟨-, -, -, recovers⟩ := collision_wedges controllerEnv broken rfl held .refl
  obtain ⟨t, run, polling, connected⟩ := recovers fun same => by cases same
  have clean : Relation.ReflTransGen ((bridge controllerEnv).Under CleanSession) _ t :=
    Relation.ReflTransGen.mono (fun _ _ ⟨l, obliging, step⟩ => ⟨l, obliging.clean, step⟩) _ _ run
  obtain ⟨kept, -, only, -⟩ := collision_wedges controllerEnv broken rfl held clean
  exact ⟨_, t, p, broken, rfl, held, polling, connected, kept, only⟩

end System

end InverterGateway.Gateway

/-
# Gateway.Isolation — whose messages the telemetry shows

Every stored value was brought by an applied message (`Explained`), and the
telemetry is cleared with its generation; so what is shown was applied in the
current generation.  Whether it was also read on the current connection depends
on the event loop's buffer, which survives the loss of a connection: a message
that was read in the bulk read that failed is yielded after the reconnect, and
applied there (`stale_message_applied`).  In the runs that lose no connection
with such a message buffered, every message is applied over the connection it
was read on (`telemetry_from_current_connection`).
-/
import InverterGateway.Gateway.Connection

namespace InverterGateway.Gateway

open InverterGateway.Theory InverterGateway.Rumqttc

set_option autoImplicit false

variable {F : Type}

/-! ## Where a stored value comes from -/

/-- Every value of the telemetry was brought by a message that `admits` admits
for the time it was applied at. -/
structure Explained (env : Env F) (admits : Instant → Publish → Prop) (t : Telemetry F) : Prop where
  leaf : ∀ bucket key value, (t.snapshot.buckets bucket).get key = some value →
    ∃ time p u, admits time p ∧ env.operation p = some (.update u) ∧
      bucketMut u.service = some bucket ∧ (if u.path = "" then "_" else u.path) = key ∧
      u.value = value
  reading : ∀ source r, t.energyReadings.get source = some r →
    ∃ p u, admits r.receivedAt p ∧ env.operation p = some (.update u) ∧
      sourceKey u.service u.path = source ∧ u.value = r.value
  inverter : ∀ m, t.snapshot.inverter = some m →
    ∃ time p, admits time p ∧ env.operation p = some (.updateInverter (.object m))
  override : t.setpointOverride ≠ .null →
    ∃ time p, admits time p ∧ env.operation p = some (.updateSetpointOverride t.setpointOverride)

namespace Explained

variable {env : Env F} {admits admits' : Instant → Publish → Prop} {t : Telemetry F}

theorem mono (explained : Explained env admits t)
    (wider : ∀ time p, admits time p → admits' time p) : Explained env admits' t where
  leaf bucket key value found := by
    obtain ⟨time, p, u, admitted, rest⟩ := explained.leaf bucket key value found
    exact ⟨time, p, u, wider _ _ admitted, rest⟩
  reading source r found := by
    obtain ⟨p, u, admitted, rest⟩ := explained.reading source r found
    exact ⟨p, u, wider _ _ admitted, rest⟩
  inverter m found := by
    obtain ⟨time, p, admitted, rest⟩ := explained.inverter m found
    exact ⟨time, p, wider _ _ admitted, rest⟩
  override held := by
    obtain ⟨time, p, admitted, rest⟩ := explained.override held
    exact ⟨time, p, wider _ _ admitted, rest⟩

/-- Empty telemetry needs no message. -/
theorem empty (env : Env F) (admits : Instant → Publish → Prop) {connected : Bool}
    {generation : Nat} :
    Explained env admits ({ connected := connected, generation := generation } : Telemetry F) where
  leaf _ _ _ found := by cases found
  reading _ _ found := by cases found
  inverter _ found := by cases found
  override held := absurd rfl held

/-- A disconnection clears the telemetry, whatever counts as a message after it. -/
theorem disconnect (explained : Explained env admits t)
    (down : t.connected = false → ∀ time p, admits time p → admits' time p) :
    Explained env admits' (t.setConnected false) := by
  unfold Telemetry.setConnected
  split
  · rename_i off
    exact explained.mono (down off)
  · exact empty env admits'

theorem connect (explained : Explained env admits t) :
    Explained env admits (t.setConnected true) := by
  unfold Telemetry.setConnected
  split
  · exact explained
  · exact ⟨explained.leaf, explained.reading, explained.inverter, explained.override⟩

theorem removeDevice (explained : Explained env admits t) (u : ParsedUpdate F) :
    Explained env admits (t.removeDevice u) where
  leaf bucket key value found := by
    simp only [Telemetry.removeDevice] at found
    cases kept : bucketMut u.service with
    | none =>
        rw [kept] at found
        exact explained.leaf bucket key value found
    | some target =>
        rw [kept] at found
        simp only [Snapshot.setBucket_buckets] at found
        split at found
        · rename_i same
          subst same
          simp only [Table.get_retain] at found
          split at found
          · exact explained.leaf _ key value found
          · cases found
        · exact explained.leaf bucket key value found
  reading source r found := by
    simp only [Telemetry.removeDevice, Table.get_retain] at found
    split at found
    · exact explained.reading source r found
    · cases found
  inverter m found := by
    refine explained.inverter m ?_
    simp only [Telemetry.removeDevice] at found
    cases kept : bucketMut u.service with
    | none => rw [kept] at found; exact found
    | some target => rw [kept] at found; exact found
  override := explained.override

theorem storeLeaf (explained : Explained env admits t) {now : Instant} {p : Publish}
    {u : ParsedUpdate F} (admitted : admits now p) (known : env.operation p = some (.update u)) :
    Explained env admits (t.storeLeaf now u) where
  leaf bucket key value found := by
    simp only [Telemetry.storeLeaf, applyUpdate] at found
    cases kept : bucketMut u.service with
    | none =>
        rw [kept] at found
        exact explained.leaf bucket key value found
    | some target =>
        rw [kept] at found
        simp only [Snapshot.setBucket_buckets] at found
        split at found
        · rename_i same
          subst same
          simp only [Table.get_insert] at found
          by_cases here : key = if u.path = "" then "_" else u.path
          · rw [if_pos here] at found
            exact ⟨now, p, u, admitted, known, kept, here.symm, Option.some.inj found⟩
          · rw [if_neg here] at found
            exact explained.leaf _ key value found
        · exact explained.leaf bucket key value found
  reading source r found := by
    simp only [Telemetry.storeLeaf] at found
    split at found
    · split at found
      · simp only [Table.get_remove] at found
        split at found
        · cases found
        · exact explained.reading source r found
      · simp only [Table.get_insert] at found
        split at found
        · rename_i here
          obtain rfl := Option.some.inj found
          exact ⟨p, u, admitted, known, here.symm, rfl⟩
        · exact explained.reading source r found
    · exact explained.reading source r found
  inverter m found := explained.inverter m (by simpa [Telemetry.storeLeaf] using found)
  override := explained.override

theorem update (explained : Explained env admits t) {now : Instant} {p : Publish}
    {u : ParsedUpdate F} (receivers : Nat) (admitted : admits now p)
    (known : env.operation p = some (.update u)) :
    Explained env admits (t.update receivers now u) := by
  rcases t.update_cases receivers now u with same | ⟨-, -, same⟩ | ⟨-, -, -, same⟩
  · rw [same]
    exact explained
  · have removed := explained.removeDevice u
    rw [same]
    exact ⟨removed.leaf, removed.reading, removed.inverter, removed.override⟩
  · have stored := explained.storeLeaf admitted known
    rw [same]
    exact ⟨stored.leaf, stored.reading, stored.inverter, stored.override⟩

theorem updateInverter (explained : Explained env admits t) {now : Instant} {p : Publish}
    {value : Value F} (receivers : Nat) (admitted : admits now p)
    (known : env.operation p = some (.updateInverter value)) :
    Explained env admits (t.updateInverter receivers now value) := by
  unfold Telemetry.updateInverter
  split
  · exact explained
  split
  · exact explained
  · have override : (if value.isNull = true then .null else t.setpointOverride) ≠ .null →
        ∃ time p, admits time p ∧ env.operation p = some (.updateSetpointOverride
          (if value.isNull = true then .null else t.setpointOverride)) := by
      split
      · intro held
        exact absurd rfl held
      · exact explained.override
    refine ⟨explained.leaf, explained.reading, ?_, override⟩
    intro m found
    obtain rfl := Value.asObject_eq_some.1 found
    exact ⟨now, p, admitted, known⟩

theorem updateSetpointOverride (explained : Explained env admits t) {now : Instant} {p : Publish}
    {value : Value F} (receivers : Nat) (admitted : admits now p)
    (known : env.operation p = some (.updateSetpointOverride value)) :
    Explained env admits (t.updateSetpointOverride receivers value) := by
  unfold Telemetry.updateSetpointOverride
  split
  · exact explained
  · exact ⟨explained.leaf, explained.reading, explained.inverter,
      fun _ => ⟨now, p, admitted, known⟩⟩

/-- Applying the operation of an admitted message. -/
theorem apply {shared : Shared F} (explained : Explained env admits shared.telemetry)
    {now : Instant} {p : Publish} {op : SharedOp F} (admitted : admits now p)
    (known : env.operation p = some op) :
    Explained env admits (shared.apply (now, op)).telemetry := by
  cases op with
  | update u => exact explained.update _ admitted known
  | updateInverter value => exact explained.updateInverter _ admitted known
  | updateSetpointOverride value => exact explained.updateSetpointOverride _ admitted known
  | _ =>
      unfold Env.operation at known
      split at known
      · obtain ⟨value, -, other⟩ := Option.map_eq_some_iff.1 known
        cases other
      split at known
      · cases known
      · obtain ⟨u, -, other⟩ := Option.map_eq_some_iff.1 known
        cases other

theorem observe {shared : Shared F} (explained : Explained env admits shared.telemetry)
    {now : Instant} {op : SharedOp F} (observes : op.Observes) :
    Explained env admits (shared.apply (now, op)).telemetry := by
  cases op with
  | broadcastSnapshot =>
      obtain ⟨dirty, same⟩ := shared.broadcastSnapshot_telemetry now
      simp only [Shared.apply, same, Telemetry.expire]
      split
      · exact ⟨explained.leaf, explained.reading, (fun _ found => by cases found), explained.override⟩
      · exact ⟨explained.leaf, explained.reading, explained.inverter, explained.override⟩
  | subscribe => exact explained
  | unsubscribe => exact explained
  | _ => cases observes

end Explained

/-! ## Messages between the network and the telemetry -/

namespace System

/-- A message in the event loop's buffer. -/
def Buffered (s : System F) (p : Publish) : Prop :=
  .incoming (.publish p) ∈ s.eventloop.state.events

/-- The steps that break a network connection. -/
def Breaks (s : System F) : Label F → Prop
  | .readRejected _ _ | .requestRejected _ | .pingRejected _ | .fail _ => True
  | .handle _ => s.phase = .handle (.event (.incoming .disconnect))
  | _ => False

/-- The message was applied in this generation, and read on its connection. -/
def Current (s : System F) (time : Instant) (p : Publish) : Prop :=
  ⟨s.generation, time, p⟩ ∈ s.applied ∧
    ∃ c, p.origin = .broker c ∧ s.opened[c]? = some s.generation

theorem buffered_notes {events : List Event} {notes : List Outgoing} {p : Publish}
    (found : .incoming (.publish p) ∈ events ++ notes.map Event.outgoing) :
    .incoming (.publish p) ∈ events := by
  rcases List.mem_append.1 found with here | note
  · exact here
  · obtain ⟨_, -, other⟩ := List.mem_map.1 note
    cases other

/-- A publish among the events after a packet was there, or is the packet. -/
theorem buffered_handleIncoming {state : MqttState} {packet : Packet} {p : Publish}
    (found : .incoming (.publish p) ∈ (state.handleIncoming packet).1.events) :
    .incoming (.publish p) ∈ state.events ∨ packet = .publish p := by
  obtain ⟨notes, same⟩ := state.handleIncoming_events packet
  rw [same, List.append_cons] at found
  rcases List.mem_append.1 (buffered_notes found) with earlier | here
  · exact Or.inl earlier
  · have same := List.mem_singleton.1 here
    cases same
    exact Or.inr rfl

theorem buffered_handleOutgoing {state : MqttState} {request : Request} {p : Publish}
    (found : .incoming (.publish p) ∈ (state.handleOutgoing request).1.events) :
    .incoming (.publish p) ∈ state.events := by
  obtain ⟨notes, same⟩ := state.handleOutgoing_noted request
  rw [same] at found
  exact buffered_notes found

theorem readOn_publish {packet : Packet} {c : Nat} {p : Publish}
    (read : packet.readOn c = .publish p) : p.origin = .broker c := by
  cases packet <;> cases read
  rfl

variable (env : Env F)

/-- Handling a result consumes no further event. -/
theorem handle_events (s : System F) (pulled : Bool) (result : Polled) :
    (s.handle env pulled result).eventloop.state.events = s.eventloop.state.events := by
  rcases s.handle_cases env pulled result with
    ⟨opened, -, same⟩ | same | ⟨p, op, -, -, same⟩ | ⟨phase, -, -, same⟩
  · rw [same]
    rfl
  · rw [same]
  · rw [same]
  · rw [same]
    unfold handleDisconnect
    split <;> rfl

variable [Binary64 F]

/-- **Where a buffered message is from**: it was buffered before the step, or was
read in it on the connection that is still open. -/
theorem step_buffered {s t : System F} {l : Label F} (step : Step env s l t) {p : Publish}
    (found : t.Buffered p) :
    s.Buffered p ∨ ∃ c, s.eventloop.network = some c ∧ t.eventloop.network = some c ∧
      p.origin = .broker c := by
  have apart := step_apart env step
  cases step with
  | yieldBuffered polling network buffered =>
      left
      show _ ∈ s.eventloop.state.events
      rw [buffered]
      exact List.mem_cons_of_mem _ found
  | flush flushes network buffered =>
      left
      show _ ∈ s.eventloop.state.events
      rw [buffered]
      exact List.mem_cons_of_mem _ found
  | @readPacket c n packet reply reads room network handled =>
      rcases buffered_handleIncoming found with earlier | here
      · exact Or.inl earlier
      · exact Or.inr ⟨c, network, network, readOn_publish here⟩
  | @readRejected c n packet e pulled reads room network rejected =>
      rcases buffered_handleIncoming found with earlier | here
      · exact Or.inl earlier
      · obtain ⟨reply, fine⟩ := s.eventloop.state.handleIncoming_publish p
        rw [here, fine] at rejected
        cases rejected
  | takeRequest enabled next handled =>
      have earlier := buffered_handleOutgoing found
      rw [(EventLoop.nextRequest_frame next).1] at earlier
      exact Or.inl earlier
  | requestRejected pulled enabled next rejected =>
      have earlier := buffered_handleOutgoing found
      rw [(EventLoop.nextRequest_frame next).1] at earlier
      exact Or.inl earlier
  | ping selects handled => exact Or.inl (buffered_handleOutgoing found)
  | pingRejected pulled selects rejected => exact Or.inl (buffered_handleOutgoing found)
  | handle pulled polled =>
      rw [Buffered, handle_events] at found
      exact Or.inl found
  | receiveCommand | handOver | tryDisconnect =>
      rw [Buffered, (apart rfl).state] at found
      exact Or.inl found
  | _ => exact Or.inl found

/-- A step that loses the connection is one that breaks it. -/
theorem step_breaks {s t : System F} {l : Label F} (step : Step env s l t) (linked : s.Linked)
    {c : Nat} (network : s.eventloop.network = some c) (lost : t.eventloop.network ≠ some c) :
    s.Breaks l := by
  have kept : t.eventloop.network = s.eventloop.network → False := fun same =>
    lost (same.trans network)
  have apart := step_apart env step
  cases step with
  | connectSucceeds sessionPresent polling down =>
      rw [down] at network
      cases network
  | readRejected => trivial
  | requestRejected => trivial
  | pingRejected => trivial
  | fail => trivial
  | takeRequest enabled next handled => exact absurd (EventLoop.nextRequest_frame next).2 kept
  | @handle result pulled polled =>
      rcases s.handle_cases env pulled result with
        ⟨opened, -, same⟩ | same | ⟨p, op, -, -, same⟩ | ⟨phase, -, disconnects, same⟩
      · rw [same] at kept
        exact absurd rfl kept
      · rw [same] at kept
        exact absurd rfl kept
      · rw [same] at kept
        exact absurd rfl kept
      · rcases Polled.disconnects_iff.1 disconnects with rfl | rfl
        · have link := linked.link
          rw [polled] at link
          rcases link with broken | down
          · rw [broken.network] at network
            cases network
          · rw [down.network] at network
            cases network
        · exact polled
  | receiveCommand | handOver | tryDisconnect => exact absurd (apart rfl).network kept
  | _ => exact absurd rfl kept

/-- A message about to be handled came out of the buffer. -/
theorem step_delivers {s t : System F} {l : Label F} (step : Step env s l t) {p : Publish}
    (delivers : t.phase = .handle (.event (.incoming (.publish p)))) :
    s.Buffered p ∨ s.phase = .handle (.event (.incoming (.publish p))) := by
  have apart := step_apart env step
  cases step with
  | yieldBuffered polling network buffered =>
      left
      cases delivers
      show _ ∈ s.eventloop.state.events
      rw [buffered]
      exact List.mem_cons_self
  | flush flushes network buffered =>
      left
      cases delivers
      show _ ∈ s.eventloop.state.events
      rw [buffered]
      exact List.mem_cons_self
  | @handle result pulled polled => cases result <;> cases delivers
  | connectedChanged | keepaliveTick | receiveCommand | handOver | build | send | observe | tick
  | tryDisconnect => exact Or.inr ((apart rfl).phase.symm.trans delivers)
  | _ => cases delivers

/-! ## What the telemetry shows was applied in its generation -/

/-- Every value shown was brought by a message applied in the current generation. -/
def Sourced (s : System F) : Prop :=
  Explained env (fun time p => ⟨s.generation, time, p⟩ ∈ s.applied) s.shared.telemetry

omit [Binary64 F] in
theorem Sourced.frame {s t : System F} (sourced : s.Sourced env) (shared : t.shared = s.shared)
    (applied : t.applied = s.applied) : t.Sourced env := by
  unfold Sourced generation
  rw [shared, applied]
  exact sourced

omit [Binary64 F] in
theorem Sourced.setConnected_false {s t : System F} (sourced : s.Sourced env)
    (shared : t.shared = s.shared.setConnected false) (applied : t.applied = s.applied) :
    t.Sourced env := by
  unfold Sourced generation
  rw [shared, applied]
  refine Explained.disconnect sourced fun off time p admitted => ?_
  have same : (s.shared.telemetry.setConnected false).generation = s.generation := by
    rw [Telemetry.setConnected_generation, off]
    rfl
  show ⟨(s.shared.telemetry.setConnected false).generation, time, p⟩ ∈ s.applied
  rw [same]
  exact admitted

omit [Binary64 F] in
theorem handleConnAck_sourced {s t : System F} (sourced : s.Sourced env)
    (shared : t.shared = s.shared.setConnected true) (applied : t.applied = s.applied) :
    t.Sourced env := by
  unfold Sourced generation
  rw [shared, applied]
  have same : (s.shared.telemetry.setConnected true).generation = s.generation := by
    rw [Telemetry.setConnected_generation]
    simp
  show Explained env (fun time p =>
    ⟨(s.shared.telemetry.setConnected true).generation, time, p⟩ ∈ s.applied) _
  rw [same]
  exact sourced.connect

omit [Binary64 F] in
theorem handleDisconnect_shared (s : System F) (pulled : Bool) :
    (s.handleDisconnect env pulled).shared = s.shared.setConnected false ∧
      (s.handleDisconnect env pulled).applied = s.applied := by
  unfold handleDisconnect
  split <;> exact ⟨rfl, rfl⟩

omit [Binary64 F] in
/-- An applied message explains what it brought. -/
theorem Sourced.applied {s t : System F} (sourced : s.Sourced env) {p : Publish} {op : SharedOp F}
    (known : env.operation p = some op) (shared : t.shared = s.shared.apply (s.now, op))
    (applied : t.applied = s.applied ++ [⟨s.generation, s.now, p⟩]) : t.Sourced env := by
  have same := (operation_apply env known s.shared s.now).2
  unfold Sourced generation
  rw [shared, applied, same]
  have wider : Explained env (fun time q =>
      ⟨s.generation, time, q⟩ ∈ s.applied ++ [⟨s.generation, s.now, p⟩]) s.shared.telemetry :=
    Explained.mono sourced fun _ _ admitted => List.mem_append_left _ admitted
  exact wider.apply (List.mem_append_right _ List.mem_cons_self) known

omit [Binary64 F] in
theorem handle_sourced {s : System F} (sourced : s.Sourced env) (pulled : Bool)
    (result : Polled) : (s.handle env pulled result).Sourced env := by
  rcases s.handle_cases env pulled result with
    ⟨opened, -, same⟩ | same | ⟨p, op, -, known, same⟩ | ⟨phase, -, -, same⟩
  · rw [same]
    exact handleConnAck_sourced env sourced rfl rfl
  · rw [same]
    exact sourced.frame env rfl rfl
  · rw [same]
    exact sourced.applied env known rfl rfl
  · obtain ⟨shared, applied⟩ := s.handleDisconnect_shared env pulled
    rw [same]
    exact sourced.setConnected_false env shared applied

theorem step_sourced {s t : System F} {l : Label F} (step : Step env s l t)
    (sourced : s.Sourced env) : t.Sourced env := by
  cases step with
  | handle pulled polled => exact handle_sourced env sourced pulled _
  | observe observes =>
      have same := (observes_apply observes s.shared s.now).2
      unfold Sourced generation
      dsimp only
      rw [same]
      exact Explained.observe sourced observes
  | stop running => exact sourced.setConnected_false env rfl rfl
  | @receiveCommand id request rest runs waits queued =>
      obtain ⟨requests, work, -, same⟩ :=
        receiveCommand_eq env { s with commands := rest } id request
      rw [same]
      exact sourced.frame env rfl rfl
  | @handOver request rest runs waiting room =>
      obtain ⟨requests, -, same⟩ := s.trySend_eq request
      rw [same]
      exact sourced.frame env rfl rfl
  | tryDisconnect =>
      obtain ⟨requests, -, same⟩ := s.trySend_eq .disconnect
      rw [same]
      exact sourced.frame env rfl rfl
  | _ => exact sourced.frame env rfl rfl

theorem sourced_of_reaches {ok : System F → Label F → Prop} {s : System F}
    (reached : (bridge env).Reaches ok s) : s.Sourced env :=
  Machine.Reaches.invariant (P := fun s => s.Sourced env)
    (fun _ initial => by rw [initial]; exact Explained.empty env _)
    (fun _ _ _ _ sourced _ step => step_sourced env step sourced) reached

/-! ## What is applied was read on the current connection -/

/-- A message read on the connection that is open now. -/
def ReadHere (s : System F) (p : Publish) : Prop :=
  ∃ c, s.eventloop.network = some c ∧ p.origin = .broker c

/-- Messages the bridge would hand to the store are where their connection is. -/
structure Isolated (s : System F) : Prop where
  buffered : ∀ p, s.Buffered p → env.operation p ≠ none → s.ReadHere p
  delivered : ∀ p, s.phase = .handle (.event (.incoming (.publish p))) → env.operation p ≠ none →
    s.ReadHere p
  applied : ∀ a ∈ s.applied, ∃ c, a.publish.origin = .broker c ∧ s.opened[c]? = some a.generation

/-- The condition: a connection breaks only while nothing is buffered that the
bridge would hand to the store, be it a leaf that the store then drops. -/
def BreaksDrained (s : System F) (l : Label F) : Prop :=
  s.Breaks l → ∀ p, s.Buffered p → env.operation p = none

/-- What a step does to the log of applied messages. -/
theorem step_applied {s t : System F} {l : Label F} (step : Step env s l t) :
    t.applied = s.applied ∨
      ∃ p, s.phase = .handle (.event (.incoming (.publish p))) ∧ env.operation p ≠ none ∧
        t.applied = s.applied ++ [⟨s.generation, s.now, p⟩] := by
  have apart := step_apart env step
  cases step with
  | @handle result pulled polled =>
      rcases s.handle_cases env pulled result with
        ⟨opened, -, same⟩ | same | ⟨p, op, rfl, known, same⟩ | ⟨phase, -, -, same⟩
      · rw [same]
        exact Or.inl rfl
      · rw [same]
        exact Or.inl rfl
      · rw [same]
        exact Or.inr ⟨p, polled, by rw [known]; exact Option.some_ne_none op, rfl⟩
      · rw [same]
        exact Or.inl (s.handleDisconnect_shared env pulled).2
  | receiveCommand | handOver | tryDisconnect => exact Or.inl (apart rfl).applied
  | _ => exact Or.inl rfl

/-- **Every step of the condition keeps messages where their connection is.** -/
theorem step_isolated {s t : System F} {l : Label F} (step : Step env s l t) (linked : s.Linked)
    (drained : s.BreaksDrained env l) (isolated : s.Isolated env) : t.Isolated env := by
  -- a buffered message stays with its connection, which no step without `Breaks` loses
  have stays : ∀ p, s.ReadHere p → s.Buffered p → env.operation p ≠ none → t.ReadHere p := by
    intro p here buffered applies
    obtain ⟨c, network, origin⟩ := here
    refine ⟨c, ?_, origin⟩
    by_contra lost
    exact applies (drained (step_breaks env step linked network lost) p buffered)
  refine ⟨?_, ?_, ?_⟩
  · intro p found applies
    rcases step_buffered env step found with earlier | ⟨c, -, network, origin⟩
    · exact stays p (isolated.buffered p earlier applies) earlier applies
    · exact ⟨c, network, origin⟩
  · intro p delivers applies
    rcases step_delivers env step delivers with earlier | same
    · exact stays p (isolated.buffered p earlier applies) earlier applies
    · obtain ⟨c, network, origin⟩ := isolated.delivered p same applies
      refine ⟨c, ?_, origin⟩
      by_contra lost
      have breaks := step_breaks env step linked network lost
      rcases step_network env step linked with kept | ⟨-, phase⟩ | ⟨-, -, phase⟩ | ⟨-, -, -, phase⟩
      · exact lost (kept.trans network)
      all_goals
        rw [delivers] at phase
        cases phase
  · intro a found
    obtain ⟨later, opened⟩ := step_opened env step
    have extended : ∀ c g : Nat, s.opened[c]? = some g → t.opened[c]? = some g := by
      intro c g place
      rw [opened, List.getElem?_append_left (List.getElem?_eq_some_iff.1 place).1]
      exact place
    rcases step_applied env step with same | ⟨p, delivered, applies, added⟩
    · rw [same] at found
      obtain ⟨c, origin, place⟩ := isolated.applied a found
      exact ⟨c, origin, extended c _ place⟩
    · rw [added] at found
      rcases List.mem_append.1 found with earlier | here
      · obtain ⟨c, origin, place⟩ := isolated.applied a earlier
        exact ⟨c, origin, extended c _ place⟩
      · obtain rfl := List.mem_singleton.1 here
        obtain ⟨c, network, origin⟩ := isolated.delivered p delivered applies
        have link := linked.link
        rw [delivered] at link
        have up : s.Up := link
        rw [up.network] at network
        obtain rfl := Option.some.inj network
        refine ⟨s.generation, origin, extended _ _ ?_⟩
        have within := up.opened
        rw [linked.numbered, List.getElem?_range (by omega)]

theorem isolated_of_reaches {s : System F} (reached : (bridge env).Reaches (BreaksDrained env) s) :
    s.Isolated env :=
  Machine.Reaches.invariant (P := fun s => s.Isolated env)
    (fun _ initial => by
      rw [initial]
      exact ⟨(fun _ found => by cases found), (fun _ polled => by cases polled),
        (fun _ found => by cases found)⟩)
    (fun _ _ _ before isolated drained step =>
      step_isolated env step (linked_of_reaches env before) drained isolated) reached

/-- **Session isolation.**  In the runs that break a connection only while nothing
is buffered that the bridge would hand to the store, every value shown came from a
message read on the connection of the current generation, and no message was ever
applied in another generation than that of the connection it was read on. -/
theorem telemetry_from_current_connection {s : System F}
    (reached : (bridge env).Reaches (BreaksDrained env) s) :
    Explained env s.Current s.shared.telemetry ∧
      ∀ a ∈ s.applied, ∃ c, a.publish.origin = .broker c ∧ s.opened[c]? = some a.generation := by
  have isolated := isolated_of_reaches env reached
  refine ⟨?_, isolated.applied⟩
  exact (sourced_of_reaches env reached).mono fun time p admitted =>
    ⟨admitted, isolated.applied _ admitted⟩

/-- A gateway for portal `p` whose decoder reads the payload of a pump mode. -/
def portalEnv : Env Int :=
  ⟨⟨"N/p/", "W/p/", "inverter"⟩, fun _ => some (.object [("value", .number (.posInt 1))])⟩

/-- A pump mode as the broker publishes it. -/
def pumpMode : Publish :=
  ⟨.atMostOnce, "N/p/pump/7/Mode", 0, ⟨#[123, 34, 118, 97, 108, 117, 101, 34, 58, 49, 125]⟩, .broker 0⟩

/-- A message that is none of the gateway's. -/
def foreign : Publish := ⟨.atMostOnce, "other/topic", 0, ⟨#[]⟩, .broker 0⟩

/-- A pump mode is read and applied on one connection.  This breaks in a bulk read that
leaves a foreign message buffered, and the pump mode is read again on the next one. -/
theorem telemetry_from_current_connection_pump :
    ∃ s : System Int, (bridge portalEnv).Reaches (BreaksDrained portalEnv) s ∧ s.generation = 1 ∧
      (s.shared.telemetry.snapshot.buckets .pump).get "7/Mode" = some (.number (.posInt 1)) ∧
      ∃ time p, s.Current time p := by
  have start : (bridge portalEnv).Reaches (BreaksDrained portalEnv) {} := .start rfl
  have opened := (start.next (by nofun) (.connectSucceeds false rfl rfl)).next
    (by intro breaks; cases breaks) (.handle false rfl)
  have read := (opened.next (by nofun) (.enterSelect rfl rfl rfl)).next (by nofun)
    (.readPacket (.publish pumpMode) rfl (by decide) rfl rfl)
  have flushed := (read.next (by intro breaks; cases breaks) (.endRead rfl (by decide))).next
    (by intro breaks; cases breaks) (.flush rfl rfl rfl)
  have shown := flushed.next (by intro breaks; cases breaks) (.handle false rfl)
  have filled := (shown.next (by nofun) (.enterSelect rfl rfl rfl)).next (by nofun)
    (.readPacket (.publish foreign) rfl (by decide) rfl rfl)
  have lost := filled.next ?drained (.fail false rfl)
  case drained =>
    intro _ p buffered
    cases List.mem_singleton.1 buffered
    rfl
  have asleep := lost.next (by intro breaks; cases breaks) (.handle false rfl)
  have again := (asleep.next (by nofun) (.wake rfl)).next (by nofun)
    (.connectSucceeds false rfl rfl)
  have opened' := (again.next (by intro breaks; cases breaks) (.handle false rfl)).next (by nofun)
    (.yieldBuffered rfl rfl rfl)
  have emptied := opened'.next (by intro breaks; cases breaks) (.handle false rfl)
  have read' := (emptied.next (by nofun) (.enterSelect rfl rfl rfl)).next (by nofun)
    (.readPacket (.publish pumpMode) rfl (by decide) rfl rfl)
  have flushed' := (read'.next (by intro breaks; cases breaks) (.endRead rfl (by decide))).next
    (by intro breaks; cases breaks) (.flush rfl rfl rfl)
  have shown' := flushed'.next (by intro breaks; cases breaks) (.handle false rfl)
  obtain ⟨time, p, u, current, -⟩ :=
    (telemetry_from_current_connection portalEnv shown').1.leaf .pump "7/Mode" _ rfl
  exact ⟨_, shown', rfl, rfl, time, p, current⟩

/-- A pump mode read in the bulk read that failed is shown, and commands the pump,
in the generation of the next connection. -/
theorem stale_message_applied : ∃ s : System Int, (bridge portalEnv).Reaches Machine.Any s ∧
    s.connected = true ∧ s.generation = 1 ∧
    (s.shared.telemetry.snapshot.buckets .pump).get "7/Mode" = some (.number (.posInt 1)) ∧
    ¬ Explained portalEnv s.Current s.shared.telemetry := by
  have start : (bridge portalEnv).Reaches Machine.Any {} := .start rfl
  have first := (start.next trivial (.connectSucceeds false rfl rfl)).next trivial (.handle false rfl)
  have read := (first.next trivial (.enterSelect rfl rfl rfl)).next
    trivial (.readPacket (.publish pumpMode) rfl (by decide) rfl rfl)
  have lost := ((read.next trivial (.fail false rfl)).next trivial (.handle false rfl)).next trivial
    (.wake rfl)
  have again := (lost.next trivial (.connectSucceeds false rfl rfl)).next trivial (.handle false rfl)
  have stale := (again.next trivial (.yieldBuffered rfl rfl rfl)).next trivial (.handle false rfl)
  refine ⟨_, stale, rfl, rfl, rfl, ?_⟩
  intro explained
  obtain ⟨time, p, u, ⟨applied, c, origin, opened⟩, -⟩ := explained.leaf .pump "7/Mode" _ rfl
  have same : p = { pumpMode with origin := .broker 0 } :=
    congrArg Applied.publish (List.mem_singleton.1 applied)
  rw [same] at origin
  cases origin
  have first_is_first : (some 0 : Option Nat) = some 1 := opened
  cases first_is_first

end System

end InverterGateway.Gateway

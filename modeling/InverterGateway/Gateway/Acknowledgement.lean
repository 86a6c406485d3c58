/-
# Gateway.Acknowledgement — the acknowledgement of a setpoint override

The controller publishes its state on one topic and acknowledges overrides on
another.  The two are stored apart and merged only when a snapshot is made, so
`acknowledgement` reads the shown value off the history alone: the last
dedicated payload received while connected, since the last disconnection or
removal of the state.
-/
import InverterGateway.Gateway.Bridge
import InverterGateway.Gateway.Isolation
import InverterGateway.Gateway.Events

namespace InverterGateway.Gateway

open InverterGateway.Theory InverterGateway.Rumqttc

set_option autoImplicit false

/-! ## Arrivals -/

/-- What reaches the shared state: connections, messages as they were published, and
the broadcast task and the subscribers. -/
inductive Arrival where
  | connected (up : Bool)
  | message (p : Publish)
  | broadcastSnapshot
  | subscribe
  | unsubscribe

section Arrivals

variable {F : Type} (env : Env F)

namespace Arrival

/-- The operation an arrival runs, if any. -/
def operation : Arrival → Option (SharedOp F)
  | .connected up => some (.setConnected up)
  | .message p => env.operation p
  | .broadcastSnapshot => some .broadcastSnapshot
  | .subscribe => some .subscribe
  | .unsubscribe => some .unsubscribe

/-- The payload of a dedicated acknowledgement. -/
def dedicated : Arrival → Option ByteArray
  | .message p => if p.topic = env.overrideTopic then some p.payload else none
  | _ => none

/-- A disconnection, or a removal of the controller state: an empty or null payload. -/
def resets : Arrival → Bool
  | .connected up => !up
  | .message p => p.topic == env.stateTopic && (env.parseInverter p.payload).any Value.isNull
  | _ => false

end Arrival

/-- The shared state after a history, latest arrival first. -/
def received : List (Instant × Arrival) → Shared F
  | [] => .new
  | (now, arrival) :: earlier =>
      match arrival.operation env with
      | none => received earlier
      | some op => (received earlier).apply (now, op)

def connectedAt : List (Instant × Arrival) → Bool
  | [] => false
  | (_, .connected up) :: _ => up
  | _ :: earlier => connectedAt earlier

/-- The dedicated payloads received while connected since the last reset, latest first. -/
def acknowledgements : List (Instant × Arrival) → List ByteArray
  | [] => []
  | (_, arrival) :: earlier =>
      if arrival.resets env then []
      else
        match arrival.dedicated env with
        | none => acknowledgements earlier
        | some payload =>
            if connectedAt earlier then payload :: acknowledgements earlier
            else acknowledgements earlier

/-- What the last of them says: null when there is none or it is no valid status. -/
def acknowledgement (history : List (Instant × Arrival)) : Value F :=
  match (acknowledgements env history).head? with
  | none => .null
  | some payload => (env.parseSetpointOverride payload).getD .null

/-- A confirmed status: a setpoint, the last error and the request it answers. -/
structure Confirmed (v : Value F) : Prop where
  object : v.isObject = true
  watts : ∃ watts, v.get "value" = some watts ∧
    (watts = .null ∨ ∃ i, watts.asI64 = some i ∧ -2 ^ 31 ≤ i ∧ i < 2 ^ 31)
  error : ∃ error, v.get "last_error" = some error ∧ (error = .null ∨ ∃ s, error = .string s)
  request : ∃ id, v.get "request_id" = some id ∧ (id = .null ∨ ∃ s, id = .string s)

end Arrivals

/-! ## What is stored -/

section Stored

variable {F : Type} {env : Env F}

theorem topics_ne (env : Env F) : env.overrideTopic ≠ env.stateTopic := by
  intro same
  have lists := congrArg String.toList same
  rw [Env.overrideTopic, Env.stateTopic, String.toList_append, String.toList_append,
    List.append_cancel_left_eq] at lists
  exact absurd lists (by decide)

theorem null_or_string {v : Value F} (shape : (v.isNull || v.isString) = true) :
    v = .null ∨ ∃ s, v = .string s := by
  cases v with
  | null => exact Or.inl rfl
  | string s => exact Or.inr ⟨s, rfl⟩
  | _ => cases shape

theorem parseInverter_shape {payload : ByteArray} {v : Value F}
    (parsed : env.parseInverter payload = some v) : v = .null ∨ v.isObject = true := by
  unfold Env.parseInverter at parsed
  split at parsed
  · exact Or.inl (Option.some.inj parsed).symm
  · obtain ⟨-, shape⟩ := Option.filter_eq_some_iff.1 parsed
    rcases Bool.or_eq_true_iff.1 shape with object | null
    · exact Or.inr object
    · cases v <;> first | exact Or.inl rfl | cases null

/-- What the parser accepts as a status is one. -/
theorem parseSetpointOverride_confirmed {payload : ByteArray} {v : Value F}
    (parsed : env.parseSetpointOverride payload = some v) (held : v ≠ .null) : Confirmed v := by
  unfold Env.parseSetpointOverride at parsed
  split at parsed
  · cases parsed
  · rename_i value inverter
    split at parsed
    · rename_i null
      cases parsed
      cases v <;> first | exact absurd rfl held | cases null
    · split at parsed
      · rename_i watts error requestId hasWatts hasError hasId
        split at parsed
        · rename_i valid
          cases parsed
          simp only [Bool.and_eq_true] at valid
          obtain ⟨⟨range, error⟩, id⟩ := valid
          refine ⟨(parseInverter_shape inverter).resolve_left held, ⟨watts, hasWatts, ?_⟩,
            ⟨_, hasError, null_or_string error⟩, ⟨_, hasId, null_or_string id⟩⟩
          unfold validSetpoint at range
          rcases Bool.or_eq_true_iff.1 range with null | bounded
          · cases watts <;> first | exact Or.inl rfl | cases null
          · obtain ⟨i, found, within⟩ := (Option.any_eq_true _ _).1 bounded
            simp only [Bool.and_eq_true, decide_eq_true_eq] at within
            exact Or.inr ⟨i, found, within⟩
        · cases parsed
      · cases parsed

theorem acknowledgement_confirmed {history : List (Instant × Arrival)}
    (held : acknowledgement env history ≠ .null) : Confirmed (acknowledgement env history) := by
  unfold acknowledgement at held ⊢
  cases last : (acknowledgements env history).head? with
  | none =>
      rw [last] at held
      exact absurd rfl held
  | some payload =>
      rw [last] at held
      cases parsed : env.parseSetpointOverride payload with
      | none =>
          simp only [parsed, Option.getD_none] at held
          exact absurd rfl held
      | some v =>
          simp only [parsed, Option.getD_some] at held ⊢
          exact parseSetpointOverride_confirmed parsed held

/-- Every operation but an acknowledgement, a removal of the state and a disconnection
keeps the stored acknowledgement. -/
theorem apply_keeps_override (s : Shared F) (timed : TimedOp F)
    (other : ∀ v, timed.2 ≠ .updateSetpointOverride v)
    (held : ∀ v, timed.2 = .updateInverter v → v.isNull = false)
    (up : timed.2 = .setConnected false → s.telemetry.connected = false) :
    (s.apply timed).telemetry.setpointOverride = s.telemetry.setpointOverride := by
  obtain ⟨now, op⟩ := timed
  cases op with
  | setConnected connected =>
      simp only [Shared.apply, Shared.setConnected, Telemetry.setConnected]
      split
      · rfl
      · rename_i changes
        cases connected with
        | true => rfl
        | false => exact absurd (up rfl) changes
  | update u =>
      simp only [Shared.apply, Shared.update]
      rcases s.telemetry.update_cases s.sse.receivers now u with same | ⟨-, -, same⟩ | ⟨-, -, -, same⟩ <;>
        rw [same] <;> rfl
  | updateInverter value =>
      have present := held value rfl
      simp only [Shared.apply, Shared.updateInverter, Telemetry.updateInverter, present]
      split
      · rfl
      · split <;> simp
  | updateSetpointOverride value => exact absurd rfl (other value)
  | broadcastSnapshot =>
      obtain ⟨dirty, same⟩ := s.broadcastSnapshot_telemetry now
      simp only [Shared.apply, same, Telemetry.expire]
      split <;> rfl
  | subscribe => rfl
  | unsubscribe => rfl

theorem received_connected (history : List (Instant × Arrival)) :
    (received env history).telemetry.connected = connectedAt history := by
  induction history with
  | nil => rfl
  | cons entry earlier ih =>
      obtain ⟨now, arrival⟩ := entry
      rw [received]
      cases arrival with
      | connected up =>
          simp only [Arrival.operation, Shared.apply_connected]
          rfl
      | message p =>
          have messages : ∀ op, env.operation p = some op → ∀ connected, op ≠ .setConnected connected := by
            intro op found connected
            unfold Env.operation at found
            split at found
            · obtain ⟨v, -, rfl⟩ := Option.map_eq_some_iff.1 found
              simp
            · split at found
              · cases found
                simp
              · obtain ⟨u, -, rfl⟩ := Option.map_eq_some_iff.1 found
                simp
          simp only [Arrival.operation, connectedAt]
          split
          · exact ih
          · rename_i op found
            rw [Shared.apply_connected]
            split
            · rename_i connected same
              exact absurd same (messages op found connected)
            · exact ih
      | _ =>
          simp only [Arrival.operation, Shared.apply_connected]
          exact ih

/-- An arrival that neither acknowledges nor resets. -/
theorem acknowledgements_skip {now : Instant} {arrival : Arrival} {earlier : List (Instant × Arrival)}
    (plain : arrival.dedicated env = none) (keeps : arrival.resets env = false) :
    acknowledgements env ((now, arrival) :: earlier) = acknowledgements env earlier := by
  rw [acknowledgements, keeps, plain]
  rfl

theorem acknowledgements_reset {now : Instant} {arrival : Arrival}
    {earlier : List (Instant × Arrival)} (resets : arrival.resets env = true) :
    acknowledgements env ((now, arrival) :: earlier) = [] := by
  rw [acknowledgements, resets]
  rfl

/-- What is recorded depends on the payloads only. -/
theorem acknowledgement_congr {history history' : List (Instant × Arrival)}
    (same : acknowledgements env history = acknowledgements env history') :
    acknowledgement env history = acknowledgement env history' := by
  rw [acknowledgement, acknowledgement, same]

/-- Without a connection there is no acknowledgement. -/
theorem acknowledgements_down {history : List (Instant × Arrival)}
    (down : connectedAt history = false) : acknowledgements env history = [] := by
  induction history with
  | nil => rfl
  | cons entry earlier ih =>
      obtain ⟨now, arrival⟩ := entry
      cases arrival with
      | connected up =>
          have lost : up = false := down
          refine acknowledgements_reset ?_
          rw [lost]
          rfl
      | message p =>
          have before : connectedAt earlier = false := down
          rw [acknowledgements, ih before, before]
          split
          · rfl
          · split <;> rfl
      | broadcastSnapshot => exact (acknowledgements_skip rfl rfl).trans (ih down)
      | subscribe => exact (acknowledgements_skip rfl rfl).trans (ih down)
      | unsubscribe => exact (acknowledgements_skip rfl rfl).trans (ih down)

theorem updateInverter_null (s : Shared F) (now : Instant)
    (clear : s.telemetry.connected = false → s.telemetry.setpointOverride = .null) :
    (s.updateInverter now .null).telemetry.setpointOverride = .null := by
  simp only [Shared.updateInverter, Telemetry.updateInverter]
  cases up : s.telemetry.connected with
  | true => simp [Value.isNull]
  | false => simpa [Value.isNull] using clear up

/-- **The store holds the acknowledgement of the history.** -/
theorem received_override (history : List (Instant × Arrival)) :
    (received env history).telemetry.setpointOverride = acknowledgement env history := by
  induction history with
  | nil => rfl
  | cons entry earlier ih =>
      obtain ⟨now, arrival⟩ := entry
      have flag : (received env earlier).telemetry.connected = connectedAt earlier :=
        received_connected earlier
      have clear : (received env earlier).telemetry.connected = false →
          (received env earlier).telemetry.setpointOverride = .null := by
        intro down
        rw [flag] at down
        rw [ih, acknowledgement, acknowledgements_down down]
        rfl
      -- an operation that keeps what is stored, and an arrival that says nothing
      have idle {op : SharedOp F} (runs : arrival.operation env = some op)
          (plain : arrival.dedicated env = none) (keeps : arrival.resets env = false)
          (same : ((received env earlier).apply (now, op)).telemetry.setpointOverride =
            (received env earlier).telemetry.setpointOverride) :
          (received env ((now, arrival) :: earlier)).telemetry.setpointOverride =
            acknowledgement env ((now, arrival) :: earlier) := by
        simp only [received, runs]
        rw [same, ih]
        exact (acknowledgement_congr (acknowledgements_skip plain keeps)).symm
      cases arrival with
      | connected up =>
          cases up with
          | true => exact idle rfl rfl rfl (apply_keeps_override _ _ (by simp) (by simp) (by simp))
          | false =>
              rw [acknowledgement, acknowledgements_reset rfl]
              simp only [received, Arrival.operation, Shared.apply, Shared.setConnected,
                Telemetry.setConnected]
              split
              · rename_i down
                exact clear down
              · rfl
      | message p =>
          by_cases state : p.topic = env.stateTopic
          · have plain : (Arrival.message p).dedicated env = none := by
              simp [Arrival.dedicated, state, (topics_ne env).symm]
            have runs : (Arrival.message p).operation env =
                (env.parseInverter p.payload).map .updateInverter := by
              simp [Arrival.operation, Env.operation, state]
            have removes : (Arrival.message p).resets env =
                (env.parseInverter p.payload).any Value.isNull := by
              simp [Arrival.resets, state]
            cases parsed : env.parseInverter p.payload with
            | none =>
                rw [parsed] at runs removes
                rw [received, runs]
                exact ih.trans (acknowledgement_congr (acknowledgements_skip plain removes)).symm
            | some v =>
                rw [parsed] at runs removes
                rcases parseInverter_shape parsed with rfl | object
                · rw [acknowledgement, acknowledgements_reset removes]
                  simp only [received, runs]
                  exact updateInverter_null _ now clear
                · have present : v.isNull = false := by
                    obtain ⟨m, rfl⟩ := Value.isObject_iff.1 object
                    rfl
                  refine idle runs plain (removes.trans present)
                    (apply_keeps_override _ _ (by simp) ?_ (by simp))
                  intro v' same
                  cases same
                  exact present
          · have keeps : (Arrival.message p).resets env = false := by
              simp [Arrival.resets, state]
            by_cases own : p.topic = env.overrideTopic
            · have carries : (Arrival.message p).dedicated env = some p.payload := by
                simp [Arrival.dedicated, own]
              have runs : (Arrival.message p).operation env = some (.updateSetpointOverride
                  ((env.parseSetpointOverride p.payload).getD .null)) := by
                simp [Arrival.operation, Env.operation, own, topics_ne env]
              simp only [received, runs, Shared.apply, Shared.updateSetpointOverride,
                Telemetry.updateSetpointOverride, acknowledgement, acknowledgements, keeps, carries,
                flag]
              cases up : connectedAt earlier with
              | true => rfl
              | false =>
                  rw [flag] at clear
                  simpa [acknowledgements_down up] using clear up
            · have plain : (Arrival.message p).dedicated env = none := by
                simp [Arrival.dedicated, own]
              have runs : (Arrival.message p).operation env =
                  (env.parse p.topic p.payload).map .update := by
                simp [Arrival.operation, Env.operation, state, own]
              cases parsed : env.parse p.topic p.payload with
              | none =>
                  rw [parsed] at runs
                  rw [received, runs]
                  exact ih.trans (acknowledgement_congr (acknowledgements_skip plain keeps)).symm
              | some u =>
                  rw [parsed] at runs
                  exact idle runs plain keeps
                    (apply_keeps_override _ _ (by simp) (by simp) (by simp))
      | broadcastSnapshot =>
          exact idle rfl rfl rfl (apply_keeps_override _ _ (by simp) (by simp) (by simp))
      | subscribe => exact idle rfl rfl rfl rfl
      | unsubscribe => exact idle rfl rfl rfl rfl

end Stored

/-! ## What is shown -/

section Shown

variable {F : Type} (env : Env F)

/-- The controller state `m` shows the acknowledgement of a history. -/
structure Acknowledges (history : List (Instant × Arrival)) (m : Entries F) : Prop where
  shown : m.get "setpoint_override" = some (acknowledgement env history)
  confirmed : acknowledgement env history ≠ .null → Confirmed (acknowledgement env history)

theorem currentSnapshot_acknowledges {history : List (Instant × Arrival)} {now : Instant}
    {m : Entries F}
    (held : ((received env history).telemetry.currentSnapshot now).inverter = some m) :
    Acknowledges env history m := by
  refine ⟨?_, acknowledgement_confirmed⟩
  have same : (received env history).telemetry.setpointOverride = acknowledgement env history :=
    received_override history
  rw [← same]
  simp only [Telemetry.currentSnapshot] at held
  obtain ⟨stored, -, rfl⟩ := Option.map_eq_some_iff.1 held
  rw [Entries.get_insert, if_pos rfl]

/-- A broadcast event shows the acknowledgement of its own moment. -/
theorem sent_acknowledges (history : List (Instant × Arrival)) :
    ∀ event ∈ (received env history).sse.sent, ∀ snap m, event.snapshot = some snap →
      snap.inverter = some m → ∃ now earlier, (now, .broadcastSnapshot) :: earlier <:+ history ∧
        Acknowledges env earlier m := by
  induction history with
  | nil => exact fun _ found => by cases found
  | cons entry earlier ih =>
      obtain ⟨now, arrival⟩ := entry
      have old : ∀ event ∈ (received env earlier).sse.sent, ∀ snap m, event.snapshot = some snap →
          snap.inverter = some m → ∃ t before,
            (t, .broadcastSnapshot) :: before <:+ (now, arrival) :: earlier ∧
              Acknowledges env before m := by
        intro event found snap m carries held
        obtain ⟨t, before, suffix, shown⟩ := ih event found snap m carries held
        exact ⟨t, before, suffix.trans (List.suffix_cons _ _), shown⟩
      intro event found snap m carries held
      rw [received] at found
      split at found
      · exact old event found snap m carries held
      · rename_i op runs
        rcases (received env earlier).apply_sent (now, op) with same | ⟨event', added, content⟩
        · rw [same] at found
          exact old event found snap m carries held
        · rw [added, List.mem_append, List.mem_singleton] at found
          rcases found with before | rfl
          · exact old event before snap m carries held
          · rcases content with empty | ⟨broadcasts, -, rfl⟩
            · rw [empty] at carries
              cases carries
            · have broadcasts : op = .broadcastSnapshot := broadcasts
              have arrived : arrival = .broadcastSnapshot := by
                cases arrival with
                | broadcastSnapshot => rfl
                | message p =>
                    have runs : env.operation p = some op := runs
                    rw [broadcasts, Env.operation] at runs
                    split at runs
                    · obtain ⟨v, -, same⟩ := Option.map_eq_some_iff.1 runs
                      cases same
                    · split at runs
                      · cases runs
                      · obtain ⟨u, -, same⟩ := Option.map_eq_some_iff.1 runs
                        cases same
                | _ =>
                    simp only [Arrival.operation, Option.some.injEq] at runs
                    rw [broadcasts] at runs
                    cases runs
              cases carries
              refine ⟨now, earlier, ?_, currentSnapshot_acknowledges env held⟩
              rw [arrived]

/-! ## Liveness -/

/-- Two stores that agree on the controller state and on when it was received. -/
structure SameController (t t' : Telemetry F) : Prop where
  connected : t.connected = t'.connected
  snapshot : t.snapshot = t'.snapshot
  received : t.inverterReceivedAt = t'.inverterReceivedAt

variable {env}

theorem SameController.inverterExpired {t t' : Telemetry F} (same : SameController t t')
    (now : Instant) : t.inverterExpired now = t'.inverterExpired now := by
  unfold Telemetry.inverterExpired
  rw [same.received]

theorem SameController.freshInverter {t t' : Telemetry F} (same : SameController t t')
    (now : Instant) : t.freshInverter now = t'.freshInverter now := by
  unfold Telemetry.freshInverter
  rw [same.inverterExpired now, same.snapshot]

theorem SameController.apply {s s' : Shared F} (same : SameController s.telemetry s'.telemetry)
    (timed : TimedOp F) : SameController (s.apply timed).telemetry (s'.apply timed).telemetry := by
  obtain ⟨now, op⟩ := timed
  have expired := same.inverterExpired now
  obtain ⟨connected, snapshot, received⟩ := same
  suffices both : (s.apply (now, op)).telemetry.snapshot = (s'.apply (now, op)).telemetry.snapshot ∧
      (s.apply (now, op)).telemetry.inverterReceivedAt =
        (s'.apply (now, op)).telemetry.inverterReceivedAt from
    ⟨by rw [Shared.apply_connected, Shared.apply_connected, connected], both.1, both.2⟩
  cases op with
  | setConnected up =>
      simp only [Shared.apply, Shared.setConnected, Telemetry.setConnected, connected]
      split
      · exact ⟨snapshot, received⟩
      · split
        · exact ⟨snapshot, received⟩
        · exact ⟨rfl, rfl⟩
  | update u =>
      simp only [Shared.apply, Shared.update, Telemetry.update, connected]
      split
      · exact ⟨snapshot, received⟩
      · split
        · exact ⟨snapshot, received⟩
        · split
          · exact ⟨by simp [Telemetry.removeDevice, snapshot], received⟩
          · exact ⟨by simp [Telemetry.storeLeaf, snapshot], received⟩
  | updateInverter value =>
      simp only [Shared.apply, Shared.updateInverter, Telemetry.updateInverter, connected, snapshot]
      split
      · exact ⟨snapshot, received⟩
      · split
        · exact ⟨snapshot, received⟩
        · exact ⟨rfl, rfl⟩
  | updateSetpointOverride value =>
      simp only [Shared.apply, Shared.updateSetpointOverride, Telemetry.updateSetpointOverride,
        connected]
      split <;> exact ⟨snapshot, received⟩
  | broadcastSnapshot =>
      obtain ⟨dirty, after⟩ := s.broadcastSnapshot_telemetry now
      obtain ⟨dirty', after'⟩ := s'.broadcastSnapshot_telemetry now
      simp only [Shared.apply, after, after', Telemetry.expire, expired, snapshot]
      split
      · exact ⟨rfl, rfl⟩
      · exact ⟨snapshot, received⟩
  | subscribe => exact ⟨snapshot, received⟩
  | unsubscribe => exact ⟨snapshot, received⟩

/-- An acknowledgement leaves the controller state and its age alone. -/
theorem sameController_override (s : Shared F) (now : Instant) (value : Value F) :
    SameController (s.apply (now, .updateSetpointOverride value)).telemetry s.telemetry := by
  simp only [Shared.apply, Shared.updateSetpointOverride, Telemetry.updateSetpointOverride]
  split <;> exact ⟨rfl, rfl, rfl⟩

variable (env)

/-- The arrivals of a history that are no dedicated acknowledgements. -/
def withoutDedicated (history : List (Instant × Arrival)) : List (Instant × Arrival) :=
  history.filter fun entry => (entry.2.dedicated env).isNone

theorem sameController_withoutDedicated (history : List (Instant × Arrival)) :
    SameController (received env history).telemetry
      (received env (withoutDedicated env history)).telemetry := by
  induction history with
  | nil => exact ⟨rfl, rfl, rfl⟩
  | cons entry earlier ih =>
      obtain ⟨now, arrival⟩ := entry
      rw [withoutDedicated, List.filter_cons]
      cases dedicated : arrival.dedicated env with
      | none =>
          simp only [Option.isNone_none, if_true]
          rw [received, received]
          split
          · exact ih
          · exact ih.apply _
      | some payload =>
          have runs : arrival.operation env = some (.updateSetpointOverride
              ((env.parseSetpointOverride payload).getD .null)) := by
            cases arrival with
            | message p =>
                have dedicated : (if p.topic = env.overrideTopic then some p.payload else none) =
                    some payload := dedicated
                split at dedicated
                · rename_i own
                  cases dedicated
                  simp [Arrival.operation, Env.operation, own, topics_ne env]
                · cases dedicated
            | _ => cases dedicated
          have alone := sameController_override (received env earlier) now
            ((env.parseSetpointOverride payload).getD .null)
          rw [received, runs]
          exact ⟨alone.connected.trans ih.connected, alone.snapshot.trans ih.snapshot,
            alone.received.trans ih.received⟩

/-- **The dedicated acknowledgement is authoritative.**  In every snapshot and event
that shows a controller state, the acknowledgement is the last dedicated one of
the connection since the state was last removed, and well formed; and the
controller state of any moment is what it were had no acknowledgement arrived. -/
theorem acknowledgement_authoritative (history : List (Instant × Arrival)) :
    (∀ now snap m, (received env history).snapshot now = some snap → snap.inverter = some m →
      Acknowledges env history m) ∧
    (∀ event ∈ (received env history).sse.sent, ∀ snap m, event.snapshot = some snap →
      snap.inverter = some m → ∃ now earlier, (now, .broadcastSnapshot) :: earlier <:+ history ∧
        Acknowledges env earlier m) ∧
    ∀ now, (received env history).telemetry.freshInverter now =
      (received env (withoutDedicated env history)).telemetry.freshInverter now := by
  refine ⟨fun now snap m shown held => ?_, sent_acknowledges env history, fun now =>
    (sameController_withoutDedicated env history).freshInverter now⟩
  unfold Shared.snapshot at shown
  split at shown
  · cases shown
    exact currentSnapshot_acknowledges env held
  · cases shown

end Shown

/-! ## The bridge -/

section Histories

variable {F : Type} [Binary64 F] (env : Env F)

/-- One step of the bridge adds at most one arrival. -/
theorem step_received {s t : System F} {l : Label F} (step : Step env s l t)
    {history : List (Instant × Arrival)} (same : s.shared = received env history) :
    ∃ history', t.shared = received env history' := by
  have connects (up : Bool) : ∃ history', s.shared.setConnected up = received env history' :=
    ⟨(s.now, .connected up) :: history, by rw [same]; rfl⟩
  cases step with
  | @handle result pulled polled =>
      cases result with
      | connAck => exact connects true
      | error =>
          rw [System.handle]
          show ∃ history', (s.handleDisconnect env pulled).shared = received env history'
          rw [(System.handleDisconnect_shared env s pulled).1]
          exact connects false
      | event e =>
          rw [System.handle]
          show ∃ history', (s.handleEvent env pulled e).shared = received env history'
          unfold System.handleEvent
          split
          · rename_i p
            refine ⟨(s.now, .message p) :: history, ?_⟩
            rw [System.handlePublish, received, Arrival.operation]
            cases env.operation p with
            | none => exact same
            | some op => rw [← same]
          · exact connects true
          · rw [(System.handleDisconnect_shared env s pulled).1]
            exact connects false
          · exact ⟨history, same⟩
  | @observe op observes =>
      cases op with
      | broadcastSnapshot =>
          exact ⟨(s.now, .broadcastSnapshot) :: history, by rw [same]; rfl⟩
      | subscribe => exact ⟨(s.now, .subscribe) :: history, by rw [same]; rfl⟩
      | unsubscribe => exact ⟨(s.now, .unsubscribe) :: history, by rw [same]; rfl⟩
      | _ => cases observes
  | stop running => exact connects false
  | @receiveCommand id request rest runs waits queued =>
      obtain ⟨requests, work, -, moved⟩ :=
        System.receiveCommand_eq env { s with commands := rest } id request
      exact ⟨history, by rw [moved]; exact same⟩
  | @handOver request rest runs waiting room =>
      obtain ⟨requests, -, moved⟩ := s.trySend_eq request
      exact ⟨history, by rw [moved]; exact same⟩
  | tryDisconnect =>
      obtain ⟨requests, -, moved⟩ := s.trySend_eq .disconnect
      exact ⟨history, by rw [moved]; exact same⟩
  | _ => exact ⟨history, same⟩

/-- The shared state of every run of the bridge is that of a history of arrivals. -/
theorem received_of_reaches {ok : System F → Label F → Prop} {s : System F}
    (reached : (bridge env).Reaches ok s) : ∃ history, s.shared = received env history :=
  Machine.Reaches.invariant (P := fun s => ∃ history, s.shared = received env history)
    (fun _ initial => ⟨[], by rw [initial]; rfl⟩)
    (fun _ _ _ _ ⟨_, same⟩ _ step => step_received env step same) reached

end Histories

end InverterGateway.Gateway

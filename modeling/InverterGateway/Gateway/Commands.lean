/-
# Gateway.Commands — guarded commands and when they are authorised

A guarded command is created only while its target is available, and carries
the connection generation and the time it was queued at.  `sendIfCurrent`
checks both again, and the availability, when the command is handed to the
MQTT client.

The availability test borrows the telemetry; clients see the published
snapshot, which overlays the dedicated acknowledgement and drops an expired
controller state.  `Snapshot.authorises` states the test over the published
snapshot, and `available_iff` says that the two agree: in every reachable state
a command is authorised exactly when the snapshot of that moment shows it.
-/
import InverterGateway.Gateway.Operations

namespace InverterGateway.Gateway

open InverterGateway.Theory

set_option autoImplicit false

variable {F : Type}

inductive CommandTarget where
  | controller
  | essSelection
  | setpointOverride
  | electricityTariff
  | water (inst : UInt32)
  deriving DecidableEq

structure CommandGuard where
  generation : Nat
  queued : Instant
  target : CommandTarget
  deriving DecidableEq

structure CommandRequest where
  topic : String
  payload : String
  guard : Option CommandGuard
  deriving DecidableEq

namespace CommandRequest

def isGuarded (r : CommandRequest) : Bool := r.guard.isSome

def isWaterCommand (r : CommandRequest) : Bool :=
  match r.guard with
  | some ⟨_, _, .water _⟩ => true
  | _ => false

end CommandRequest

/-! ## Availability -/

/-- An array index token of a JSON pointer: no plus sign and no leading zero. -/
def parseIndex (token : String) : Option Nat :=
  if Text.startsWith token "+" || (Text.startsWith token "0" && token.toList.length != 1) then none
  else Text.parseU64 token

/-- `Value::pointer` over the tokens of the pointer. -/
def Value.pointer (v : Value F) : List String → Option (Value F)
  | [] => some v
  | token :: rest =>
      match v with
      | .object m => (Entries.get m token).bind fun next => next.pointer rest
      | .array elements =>
          (parseIndex token).bind fun i => elements[i]?.bind fun next => next.pointer rest
      | _ => none

/-- A token that is no index follows object keys only. -/
theorem Value.pointer_key (v : Value F) {token : String} (rest : List String)
    (key : parseIndex token = none) :
    v.pointer (token :: rest) = (v.get token).bind fun next => next.pointer rest := by
  cases v <;> simp [Value.pointer, Value.get, Value.asObject, key]

/-- The key of a pump leaf. -/
def pumpKey (inst : UInt32) (leaf : String) : String :=
  toString inst.toNat ++ "/" ++ leaf

namespace Telemetry

/-- `command_target_available`. -/
def commandTargetAvailable (t : Telemetry F) (now : Instant) : CommandTarget → Bool
  | .controller => (t.freshInverter now).isSome
  | .essSelection =>
      (((t.freshInverter now).bind fun state => state.get "ess_mode").bind fun mode =>
        mode.get "selection_supported").bind Value.asBool == some true
  | .electricityTariff =>
      ((t.freshInverter now).bind fun inverter => (inverter.get "ui_config").bind fun ui =>
        ui.pointer ["electricity_tariff_status", "writable"]).bind Value.asBool == some true
  | .setpointOverride => (t.freshInverter now).any fun _ => t.setpointOverride.isObject
  | .water inst =>
      let pump := t.snapshot.buckets .pump
      let validMode := ((pump.get (pumpKey inst "Mode")).bind Value.asU64).any fun mode =>
        decide (mode ≤ 2)
      let connected := (pump.get (pumpKey inst "Connected")).all fun value =>
        value.asU64.any fun connected => connected == 1
      validMode && connected

end Telemetry

namespace Shared

/-- `guarded_command`. -/
def guardedCommand (s : Shared F) (now : Instant) (topic payload : String)
    (target : CommandTarget) : Option CommandRequest :=
  if s.telemetry.connected && s.telemetry.commandTargetAvailable now target then
    some ⟨topic, payload, some ⟨s.telemetry.generation, now, target⟩⟩
  else none

/-- `send_if_current`: whether the send runs. -/
def sendIfCurrent (s : Shared F) (now : Instant) (request : CommandRequest) : Bool :=
  match request.guard with
  | none => true
  | some guard =>
      !(!s.telemetry.connected || guard.generation != s.telemetry.generation ||
        decide (secs 5 < elapsed now guard.queued) ||
        !s.telemetry.commandTargetAvailable now guard.target)

end Shared

/-! ## What a published snapshot shows -/

/-- The condition on a published snapshot under which a target may be commanded. -/
def Snapshot.authorises (snap : Snapshot F) : CommandTarget → Prop
  | .controller => ∃ m, snap.inverter = some m
  | .essSelection => ∃ m, snap.inverter = some m ∧ ∃ mode, m.get "ess_mode" = some mode ∧
      mode.get "selection_supported" = some (.bool true)
  | .electricityTariff => ∃ m, snap.inverter = some m ∧ ∃ ui, m.get "ui_config" = some ui ∧
      ∃ status, ui.get "electricity_tariff_status" = some status ∧
        status.get "writable" = some (.bool true)
  | .setpointOverride => ∃ m, snap.inverter = some m ∧
      ∃ entries, m.get "setpoint_override" = some (.object entries)
  | .water inst =>
      (∃ mode : UInt64, mode.toNat ≤ 2 ∧
        (snap.buckets .pump).get (pumpKey inst "Mode") = some (.number (.posInt mode))) ∧
      ((snap.buckets .pump).get (pumpKey inst "Connected") = none ∨
        (snap.buckets .pump).get (pumpKey inst "Connected") = some (.number (.posInt 1)))

namespace Telemetry

theorem currentSnapshot_inverter (t : Telemetry F) (now : Instant) :
    (t.currentSnapshot now).inverter =
      (t.freshInverter now).map fun m => m.insert "setpoint_override" t.setpointOverride := rfl

@[simp] theorem currentSnapshot_buckets (t : Telemetry F) (now : Instant) :
    (t.currentSnapshot now).buckets = t.snapshot.buckets := rfl

/-- The overlay changes no other key of the controller state. -/
theorem overlay_get (m : Entries F) (value : Value F) {key : String}
    (other : key ≠ "setpoint_override") :
    (m.insert "setpoint_override" value).get key = m.get key := by
  rw [Entries.get_insert, if_neg other]

theorem validMode_iff (entry : Option (Value F)) :
    ((entry.bind Value.asU64).any fun mode => decide (mode ≤ 2)) = true ↔
      ∃ mode : UInt64, mode.toNat ≤ 2 ∧ entry = some (.number (.posInt mode)) := by
  cases entry with
  | none => simp
  | some v =>
      cases v with
      | number n =>
          cases n with
          | posInt k => simp only [Option.bind_some, Value.asU64, Option.any_some,
              decide_eq_true_eq, Option.some.injEq, Value.number.injEq, Number.posInt.injEq,
              exists_eq_right']
          | _ => simp [Value.asU64]
      | _ => simp [Value.asU64]

theorem pumpConnected_iff (entry : Option (Value F)) :
    (entry.all fun value => value.asU64.any fun connected => connected == 1) = true ↔
      entry = none ∨ entry = some (.number (.posInt 1)) := by
  cases entry with
  | none => simp
  | some v =>
      cases v with
      | number n =>
          cases n with
          | posInt k =>
              simp only [Option.all_some, Value.asU64, Option.any_some, beq_iff_eq, reduceCtorEq,
                Option.some.injEq, Value.number.injEq, Number.posInt.injEq, false_or]
              exact ⟨fun one => UInt64.toNat_inj.1 one, fun one => by rw [one]; rfl⟩
          | _ => simp [Value.asU64]
      | _ => simp [Value.asU64]

/-- **The borrowed test and the published snapshot agree.** -/
theorem available_iff (t : Telemetry F) (now : Instant) (target : CommandTarget) :
    t.commandTargetAvailable now target = true ↔ (t.currentSnapshot now).authorises target := by
  cases target with
  | controller =>
      simp only [commandTargetAvailable, Snapshot.authorises, currentSnapshot_inverter]
      cases t.freshInverter now <;> simp
  | essSelection =>
      simp only [commandTargetAvailable, Snapshot.authorises, currentSnapshot_inverter]
      cases t.freshInverter now with
      | none => simp
      | some m =>
          simp only [Option.map_some, Option.some.injEq, exists_eq_left',
            overlay_get m _ (show "ess_mode" ≠ "setpoint_override" by decide)]
          simp [Option.bind_eq_some_iff]
  | electricityTariff =>
      simp only [commandTargetAvailable, Snapshot.authorises, currentSnapshot_inverter]
      cases t.freshInverter now with
      | none => simp
      | some m =>
          have status : parseIndex "electricity_tariff_status" = none := by decide
          have writable : parseIndex "writable" = none := by decide
          simp only [Option.map_some, Option.some.injEq, exists_eq_left',
            overlay_get m _ (show "ui_config" ≠ "setpoint_override" by decide),
            Value.pointer_key _ _ status, Value.pointer_key _ _ writable]
          simp [Option.bind_eq_some_iff, Value.pointer]
  | setpointOverride =>
      simp only [commandTargetAvailable, Snapshot.authorises, currentSnapshot_inverter]
      cases t.freshInverter now with
      | none => simp
      | some m => simp [Entries.get_insert]
  | water inst =>
      simp only [commandTargetAvailable, Snapshot.authorises, currentSnapshot_buckets,
        Bool.and_eq_true]
      exact and_congr (validMode_iff _) (pumpConnected_iff _)

/-! ## What is stored makes the snapshot ready -/

/-- Everything a target can depend on was stored together with readiness. -/
structure Sound (t : Telemetry F) : Prop where
  inverter_ready : t.snapshot.inverter.isSome = true → t.ready = true
  leaf_ready : ∀ bucket key value, (t.snapshot.buckets bucket).get key = some value → t.ready = true

theorem sound_default : Sound ({} : Telemetry F) where
  inverter_ready := by simp
  leaf_ready := by simp

theorem Sound.setConnected {t : Telemetry F} (sound : t.Sound) (connected : Bool) :
    (t.setConnected connected).Sound := by
  unfold Telemetry.setConnected
  split
  · exact sound
  split
  · exact ⟨sound.inverter_ready, sound.leaf_ready⟩
  · exact ⟨by simp, by simp⟩

theorem Sound.update {t : Telemetry F} (sound : t.Sound) (receivers : Nat) (now : Instant)
    (u : ParsedUpdate F) : (t.update receivers now u).Sound := by
  rcases t.update_cases receivers now u with h | ⟨-, -, h⟩ | ⟨-, -, -, h⟩ <;> rw [h]
  · exact sound
  · refine ⟨fun held => sound.inverter_ready ?_, fun bucket key value found => ?_⟩
    · revert held
      simp only [removeDevice]
      cases bucketMut u.service <;> simp
    · revert found
      simp only [removeDevice]
      cases bucketMut u.service with
      | none => exact sound.leaf_ready bucket key value
      | some target =>
          simp only [Snapshot.setBucket_buckets]
          split
          · simp only [Table.get_retain]
            split
            · exact sound.leaf_ready _ key value
            · simp
          · exact sound.leaf_ready bucket key value
  · exact ⟨fun _ => rfl, fun _ _ _ _ => rfl⟩

theorem Sound.updateInverter {t : Telemetry F} (sound : t.Sound) (receivers : Nat) (now : Instant)
    (value : Value F) : (t.updateInverter receivers now value).Sound := by
  unfold Telemetry.updateInverter
  split
  · exact sound
  split
  · exact sound
  · refine ⟨fun held => ?_, fun bucket key v found => ?_⟩
    · cases value <;> simp_all [Value.asObject, Value.isObject]
    · simp [sound.leaf_ready bucket key v found]

theorem Sound.updateSetpointOverride {t : Telemetry F} (sound : t.Sound) (receivers : Nat)
    (value : Value F) : (t.updateSetpointOverride receivers value).Sound := by
  unfold Telemetry.updateSetpointOverride
  split
  · exact sound
  · exact ⟨sound.inverter_ready, sound.leaf_ready⟩

theorem Sound.expire {t : Telemetry F} (sound : t.Sound) (receivers : Nat) (now : Instant) :
    (t.expire receivers now).Sound := by
  unfold Telemetry.expire
  split
  · exact ⟨by simp, sound.leaf_ready⟩
  · exact sound

theorem Sound.ready_of_authorises {t : Telemetry F} (sound : t.Sound) {now : Instant}
    {target : CommandTarget} (shown : (t.currentSnapshot now).authorises target) :
    t.ready = true := by
  have ofInverter : ∀ m, (t.currentSnapshot now).inverter = some m → t.ready = true := by
    intro m held
    rw [currentSnapshot_inverter] at held
    apply sound.inverter_ready
    unfold freshInverter at held
    split at held
    · simp at held
    · cases h : t.snapshot.inverter <;> simp_all
  cases target with
  | controller => obtain ⟨m, held⟩ := shown; exact ofInverter m held
  | essSelection => obtain ⟨m, held, -⟩ := shown; exact ofInverter m held
  | electricityTariff => obtain ⟨m, held, -⟩ := shown; exact ofInverter m held
  | setpointOverride => obtain ⟨m, held, -⟩ := shown; exact ofInverter m held
  | water inst => obtain ⟨⟨mode, -, found⟩, -⟩ := shown; exact sound.leaf_ready _ _ _ found

end Telemetry

namespace Shared

theorem apply_sound (s : Shared F) (op : TimedOp F) (sound : s.telemetry.Sound) :
    (s.apply op).telemetry.Sound := by
  obtain ⟨now, op⟩ := op
  cases op with
  | setConnected connected => exact sound.setConnected connected
  | update u => exact sound.update _ now u
  | updateInverter value => exact sound.updateInverter _ now value
  | updateSetpointOverride value => exact sound.updateSetpointOverride _ value
  | broadcastSnapshot =>
      obtain ⟨dirty, same⟩ := s.broadcastSnapshot_telemetry now
      have expired := sound.expire s.sse.receivers now
      simp only [apply, same]
      exact ⟨expired.inverter_ready, expired.leaf_ready⟩
  | subscribe => exact sound
  | unsubscribe => exact sound

theorem runOps_sound (ops : List (TimedOp F)) : ((new : Shared F).runOps ops).telemetry.Sound :=
  runOps_invariant (P := fun s => s.telemetry.Sound) Telemetry.sound_default apply_sound ops

/-- The snapshot published now shows that the target may be commanded. -/
def Publishes (s : Shared F) (now : Instant) (target : CommandTarget) : Prop :=
  ∃ snap, s.snapshot now = some snap ∧ snap.authorises target

/-- In a sound state, connected and available is what the snapshot publishes. -/
theorem publishes_iff {s : Shared F} (sound : s.telemetry.Sound) (now : Instant)
    (target : CommandTarget) :
    s.Publishes now target ↔
      s.telemetry.connected = true ∧ s.telemetry.commandTargetAvailable now target = true := by
  rw [Telemetry.available_iff]
  unfold Publishes snapshot
  constructor
  · rintro ⟨snap, published, shown⟩
    split at published
    · rename_i live
      cases published
      exact ⟨(Bool.and_eq_true_iff.1 live).1, shown⟩
    · cases published
  · rintro ⟨up, shown⟩
    exact ⟨_, if_pos (by simp [up, sound.ready_of_authorises shown]), shown⟩

theorem guardedCommand_eq_some {s : Shared F} {now : Instant} {topic payload : String}
    {target : CommandTarget} {request : CommandRequest} :
    s.guardedCommand now topic payload target = some request ↔
      (s.telemetry.connected = true ∧ s.telemetry.commandTargetAvailable now target = true) ∧
        request = ⟨topic, payload, some ⟨s.telemetry.generation, now, target⟩⟩ := by
  unfold guardedCommand
  split
  · rename_i authorised
    simp only [Bool.and_eq_true] at authorised
    simp [authorised, eq_comm]
  · rename_i refused
    simp only [Bool.and_eq_true] at refused
    simp [refused]

/-- A guarded request is sent exactly when the connection, the generation, its
age and its target all still allow it. -/
theorem sendIfCurrent_guarded {s : Shared F} {handoff : Instant} {topic payload : String}
    {guard : CommandGuard} :
    s.sendIfCurrent handoff ⟨topic, payload, some guard⟩ = true ↔
      (s.telemetry.connected = true ∧
        s.telemetry.commandTargetAvailable handoff guard.target = true) ∧
        guard.generation = s.telemetry.generation ∧ elapsed handoff guard.queued ≤ secs 5 := by
  simp only [sendIfCurrent, Bool.not_or, Bool.not_not, Bool.and_eq_true, Bool.not_eq_true',
    bne_eq_false_iff_eq, decide_eq_false_iff_not, Nat.not_lt]
  tauto

/-- **What is authorised is what is published.**  In every reachable state a
guarded command is created exactly when the snapshot of that moment shows its
target available; once queued, it is sent exactly when the snapshot at handoff
still does, no disconnection lies between, and it waited at most five seconds. -/
theorem command_authorised_iff_published (ops : List (TimedOp F)) (now : Instant)
    (target : CommandTarget) (topic payload : String) :
    ((((new : Shared F).runOps ops).guardedCommand now topic payload target).isSome = true ↔
      ((new : Shared F).runOps ops).Publishes now target) ∧
    ∀ request, ((new : Shared F).runOps ops).guardedCommand now topic payload target = some request →
      ∀ (later : List (TimedOp F)) (handoff : Instant),
        (((new : Shared F).runOps ops).runOps later).sendIfCurrent handoff request = true ↔
          (((new : Shared F).runOps ops).runOps later).Publishes handoff target ∧
            (∀ op ∈ later, op.2 ≠ .setConnected false) ∧ elapsed handoff now ≤ secs 5 := by
  have sound := runOps_sound ops
  refine ⟨?_, ?_⟩
  · rw [publishes_iff sound, Option.isSome_iff_exists]
    simp only [guardedCommand_eq_some, exists_and_left, exists_eq, and_true]
  · intro request queued later handoff
    obtain ⟨⟨up, -⟩, rfl⟩ := guardedCommand_eq_some.1 queued
    have soundLater : (((new : Shared F).runOps ops).runOps later).telemetry.Sound := by
      rw [← runOps_append]; exact runOps_sound _
    rw [sendIfCurrent_guarded, publishes_iff soundLater, ← generation_runOps_iff up later]

/-- A pump mode read at time 0, and a command for it queued then and handed over
five seconds later, after a broadcast. -/
theorem command_authorised_iff_published_pump :
    (((new : Shared Unit).runOps [(0, .setConnected true),
        (0, .update ⟨"pump", "7/Mode", .number (.posInt 1), by decide⟩)]).runOps
      [(secs 1, .broadcastSnapshot)]).sendIfCurrent (secs 5)
        ⟨"W/p/pump/7/Mode", "", some ⟨0, 0, .water 7⟩⟩ = true :=
  ((command_authorised_iff_published [(0, .setConnected true),
      (0, .update ⟨"pump", "7/Mode", .number (.posInt 1), by decide⟩)] 0 (.water 7)
      "W/p/pump/7/Mode" "").2 _ (by decide) [(secs 1, .broadcastSnapshot)] (secs 5)).2
    ⟨(publishes_iff (by rw [← runOps_append]; exact runOps_sound _) _ _).2 (by decide),
      by simp, by decide⟩

end Shared

end InverterGateway.Gateway

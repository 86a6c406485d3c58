/-
# Gateway.History — the two telemetry stores as functions of the history

`accepted` is the part of a history that the current connection took in, latest
operation first.  For an energy path, `lastEffect` is the last accepted update
that concerns it: a leaf update of exactly that path, or the null root of its
device.  `update_reading` and `update_stored` say what one update does to the
entry of one path; the run lemmas lift them to `lastEffect`, so the readings
and the snapshot buckets are both read off the same history.
-/
import InverterGateway.Gateway.Operations

namespace InverterGateway.Gateway

open InverterGateway.Theory

set_option autoImplicit false

variable {F : Type}

/-! ## Histories, latest operation first -/

/-- Whether the gateway is connected after a history. -/
def connectedAfter : List (TimedOp F) → Bool
  | [] => false
  | (_, .setConnected connected) :: _ => connected
  | _ :: earlier => connectedAfter earlier

/-- The operations the current connection has seen. -/
def accepted : List (TimedOp F) → List (TimedOp F)
  | [] => []
  | op :: earlier =>
      if op.2 matches .setConnected false then []
      else if connectedAfter earlier then op :: accepted earlier
      else []

/-- What an update means for one energy path. -/
inductive Effect (F : Type) where
  | leaf (value : Value F) (receivedAt : Instant)
  | removed

namespace Effect

def reading : Effect F → Option (Reading F)
  | .leaf value receivedAt => if value.isNull then none else some ⟨value, receivedAt⟩
  | .removed => none

def stored : Effect F → Option (Value F)
  | .leaf value _ => some value
  | .removed => none

end Effect

/-- The device instance a path belongs to. -/
def deviceOf (path : String) : String :=
  match Text.splitOnce path '/' with
  | some (inst, _) => inst
  | none => path

/-- The effect of an update on a path: a leaf update of exactly that path, or the
null root of its device. -/
def effectOf (service path : String) (now : Instant) (u : ParsedUpdate F) : Option (Effect F) :=
  if u.service = service then
    if u.path = path then some (.leaf u.value now)
    else if u.path = deviceOf path ∧ u.value.isNull then some .removed
    else none
  else none

/-- The last accepted effect on a path. -/
def lastEffect (service path : String) (history : List (TimedOp F)) : Option (Effect F) :=
  (accepted history).findSome? fun op =>
    match op.2 with
    | .update u => effectOf service path op.1 u
    | _ => none

/-- An operation that makes the snapshot available: a kept leaf, or an object
controller envelope. -/
def makesReady : SharedOp F → Bool
  | .update u => !u.removesDevice && pathKeep u.service u.path
  | .updateInverter value => value.isObject
  | _ => false

/-! ## Energy paths -/

/-- An energy path split into its instance and its leaf, with what the store
relies on. -/
structure EnergyPath (service path inst leaf : String) : Prop where
  whole : path.toList = inst.toList ++ '/' :: leaf.toList
  inst_plain : '/' ∉ inst.toList
  inst_number : (Text.parseU32 inst).isSome = true
  service_plain : '/' ∉ service.toList
  device : deviceOf path = inst
  energy : isEnergyPath service path = true

theorem energyPath {service path : String} (energy : isEnergyPath service path = true) :
    ∃ inst leaf, EnergyPath service path inst leaf := by
  obtain ⟨inst, leaf, parts, canonical, known⟩ := isEnergyPath_shape energy
  obtain ⟨whole, fresh⟩ := Text.splitOnce_eq_some.1 parts
  refine ⟨inst, leaf, whole, fresh, ?_, ?_, by simp [deviceOf, parts], energy⟩
  · simp only [canonicalInstance, Bool.and_eq_true] at canonical
    exact canonical.2
  · have plain : ∀ s ∈ energyServices, '/' ∉ s.toList := by decide
    exact plain service known

namespace EnergyPath

variable {service path inst leaf : String}

theorem path_slash (p : EnergyPath service path inst leaf) : '/' ∈ path.toList := by
  rw [p.whole]; simp

/-- A device root removes exactly its own device. -/
theorem removesDevice_iff (p : EnergyPath service path inst leaf) {u : ParsedUpdate F}
    (root : u.path = inst) : u.removesDevice = u.value.isNull := by
  have plain : Text.containsChar inst '/' = false := by
    rw [← Bool.not_eq_true, Text.containsChar_iff]; exact p.inst_plain
  simp [ParsedUpdate.removesDevice, root, plain, p.inst_number]

theorem sourceKey_eq_iff (p : EnergyPath service path inst leaf) (u : ParsedUpdate F) :
    sourceKey service path = sourceKey u.service u.path ↔ u.service = service ∧ u.path = path := by
  have slash : "/".toList = ['/'] := by decide
  rw [← String.toList_inj]
  simp only [sourceKey, String.toList_append, slash, List.append_assoc, List.singleton_append]
  rw [Text.append_sep_inj p.service_plain u.plain, String.toList_inj, String.toList_inj]
  exact and_congr eq_comm eq_comm

/-- The joined prefix of a device is a prefix of this path's key only for its own device. -/
theorem source_startsWith_iff (p : EnergyPath service path inst leaf) {u : ParsedUpdate F}
    (root : '/' ∉ u.path.toList) :
    Text.startsWith (sourceKey service path) (u.service ++ "/" ++ u.path ++ "/") = true ↔
      u.service = service ∧ u.path = inst := by
  have slash : "/".toList = ['/'] := by decide
  simp only [Text.startsWith_iff, sourceKey, String.toList_append, slash, p.whole,
    List.append_assoc, List.cons_append, List.nil_append]
  rw [Text.prefix_sep_iff u.plain p.service_plain, Text.prefix_sep_iff root p.inst_plain,
    String.toList_inj, String.toList_inj]
  simp

theorem path_startsWith_iff (p : EnergyPath service path inst leaf) {u : ParsedUpdate F}
    (root : '/' ∉ u.path.toList) :
    Text.startsWith path (u.path ++ "/") = true ↔ u.path = inst := by
  have slash : "/".toList = ['/'] := by decide
  simp only [Text.startsWith_iff, String.toList_append, slash, p.whole]
  rw [Text.prefix_sep_iff root p.inst_plain, String.toList_inj]
  simp

end EnergyPath

/-! ## One update -/

theorem removesDevice_plain {u : ParsedUpdate F} (removes : u.removesDevice = true) :
    '/' ∉ u.path.toList ∧ u.value.isNull = true := by
  simp only [ParsedUpdate.removesDevice, Bool.and_eq_true, Bool.not_eq_true'] at removes
  refine ⟨fun slash => ?_, removes.1.1⟩
  rw [Text.containsChar_iff.2 slash] at removes
  exact absurd removes.1.2 (by simp)

/-- The effect of a device removal. -/
theorem effectOf_removes {service path inst leaf : String}
    (p : EnergyPath service path inst leaf) {u : ParsedUpdate F} (now : Instant)
    (removes : u.removesDevice = true) :
    effectOf service path now u =
      if u.service = service ∧ u.path = inst then some .removed else none := by
  obtain ⟨plain, null⟩ := removesDevice_plain removes
  have different : u.path ≠ path := fun same => plain (same ▸ p.path_slash)
  simp only [effectOf, different, if_false, p.device, null, and_true]
  by_cases here : u.service = service <;> simp [here]

/-- The effect of an update that is no device removal. -/
theorem effectOf_leaf {service path inst leaf : String}
    (p : EnergyPath service path inst leaf) {u : ParsedUpdate F} (now : Instant)
    (kept : u.removesDevice = false) :
    effectOf service path now u =
      if u.service = service ∧ u.path = path then some (.leaf u.value now) else none := by
  have notRoot : ¬(u.path = inst ∧ u.value.isNull = true) := by
    rintro ⟨root, null⟩
    rw [p.removesDevice_iff root, null] at kept
    cases kept
  simp only [effectOf, p.device, notRoot, if_false]
  by_cases here : u.service = service <;> simp [here]

namespace Telemetry

variable {service path inst leaf : String}

/-- What one update does to the reading of one energy path. -/
theorem update_reading (p : EnergyPath service path inst leaf) {t : Telemetry F}
    (up : t.connected = true) (receivers : Nat) (now : Instant) (u : ParsedUpdate F) :
    (t.update receivers now u).energyReadings.get (sourceKey service path) =
      match effectOf service path now u with
      | some effect => effect.reading
      | none => t.energyReadings.get (sourceKey service path) := by
  cases removes : u.removesDevice with
  | true =>
      have plain := (removesDevice_plain removes).1
      rw [t.update_removes receivers now u up removes, effectOf_removes p now removes]
      simp only [removeDevice, Table.get_retain, Bool.not_eq_true', ← Bool.not_eq_true,
        p.source_startsWith_iff plain]
      split <;> simp_all [Effect.reading]
  | false =>
      rw [effectOf_leaf p now removes]
      cases kept : pathKeep u.service u.path with
      | false =>
          have other : ¬(u.service = service ∧ u.path = path) := by
            rintro ⟨rfl, rfl⟩
            rw [pathKeep_of_isEnergyPath p.energy] at kept
            cases kept
          rw [t.update_rejected receivers now u (Or.inr ⟨removes, kept⟩), if_neg other]
      | true =>
          rw [t.update_stores receivers now u up removes kept]
          by_cases here : u.service = service ∧ u.path = path
          · obtain ⟨rfl, rfl⟩ := here
            simp only [storeLeaf, p.energy, if_true, and_self, Effect.reading]
            cases null : u.value.isNull <;> simp
          · have otherKey : ¬ sourceKey service path = sourceKey u.service u.path :=
              fun same => here ((p.sourceKey_eq_iff u).1 same)
            simp only [storeLeaf, if_neg here]
            split
            · split
              · rw [Table.get_remove, if_neg otherKey]
              · rw [Table.get_insert, if_neg otherKey]
            · rfl

/-- Updates of other services leave a service's bucket alone. -/
theorem update_other_bucket {bucket : Bucket} {u : ParsedUpdate F}
    (other : bucketMut u.service ≠ some bucket) (t : Telemetry F) (receivers : Nat)
    (now : Instant) :
    (t.update receivers now u).snapshot.buckets bucket = t.snapshot.buckets bucket := by
  rcases t.update_cases receivers now u with h | ⟨-, -, h⟩ | ⟨-, -, -, h⟩ <;> rw [h]
  · simp only [removeDevice]
    cases found : bucketMut u.service with
    | none => rfl
    | some b =>
        have apart : ¬ bucket = b := fun same => other (same ▸ found)
        simp only [Snapshot.setBucket_buckets, if_neg apart]
  · simp only [storeLeaf, applyUpdate]
    cases found : bucketMut u.service with
    | none => rfl
    | some b =>
        have apart : ¬ bucket = b := fun same => other (same ▸ found)
        simp only [Snapshot.setBucket_buckets, if_neg apart]

/-- What one update does to the bucket entry of one energy path. -/
theorem update_stored (p : EnergyPath service path inst leaf) {bucket : Bucket}
    (kept : bucketMut service = some bucket) (alone : ∀ s, bucketMut s = some bucket → s = service)
    {t : Telemetry F} (up : t.connected = true) (receivers : Nat) (now : Instant)
    (u : ParsedUpdate F) :
    ((t.update receivers now u).snapshot.buckets bucket).get path =
      match effectOf service path now u with
      | some effect => effect.stored
      | none => (t.snapshot.buckets bucket).get path := by
  by_cases same : u.service = service
  swap
  · -- another service writes another bucket
    have nothing : effectOf service path now u = none := by simp [effectOf, same]
    rw [nothing, update_other_bucket fun found => same (alone _ found)]
  obtain rfl := same
  cases removes : u.removesDevice with
  | true =>
      have plain := (removesDevice_plain removes).1
      rw [t.update_removes receivers now u up removes, effectOf_removes p now removes]
      simp only [removeDevice, kept, Snapshot.setBucket_buckets, if_true, Table.get_retain,
        true_and]
      by_cases here : u.path = inst
      · rw [(p.path_startsWith_iff plain).2 here, if_pos here]; rfl
      · have apart := mt (p.path_startsWith_iff plain).1 here
        rw [Bool.not_eq_true] at apart
        rw [apart, if_neg here]; rfl
  | false =>
      rw [effectOf_leaf p now removes]
      cases keep : pathKeep u.service u.path with
      | false =>
          have other : ¬(u.service = u.service ∧ u.path = path) := by
            rintro ⟨-, rfl⟩
            rw [pathKeep_of_isEnergyPath p.energy] at keep
            cases keep
          rw [t.update_rejected receivers now u (Or.inr ⟨removes, keep⟩), if_neg other]
      | true =>
          rw [t.update_stores receivers now u up removes keep]
          simp only [storeLeaf, applyUpdate, kept, Snapshot.setBucket_buckets, if_true,
            Table.get_insert, true_and]
          by_cases here : u.path = path
          · obtain rfl := here
            have named : ¬ u.path = "" := fun empty => by
              have slash := p.path_slash
              rw [empty] at slash
              exact absurd slash (by decide)
            simp [named, Effect.stored]
          · have otherKey : ¬ path = if u.path = "" then "_" else u.path := by
              have slash := p.path_slash
              split
              · rintro rfl
                exact absurd slash (by decide)
              · exact fun whole => here whole.symm
            simp [otherKey, here]

end Telemetry

/-! ## Whole histories -/

namespace Shared

/-- The state after a history, latest operation first. -/
def after : List (TimedOp F) → Shared F
  | [] => new
  | op :: earlier => (after earlier).apply op

theorem runOps_eq_after (ops : List (TimedOp F)) : (new : Shared F).runOps ops = after ops.reverse := by
  have folded : ∀ history : List (TimedOp F),
      after history = history.foldr (fun op s => s.apply op) new := by
    intro history
    induction history with
    | nil => rfl
    | cons op earlier ih => rw [after, ih, List.foldr_cons]
  rw [folded, List.foldr_reverse]
  rfl

theorem after_connected (history : List (TimedOp F)) :
    (after history).telemetry.connected = connectedAfter history := by
  induction history with
  | nil => rfl
  | cons op earlier ih =>
      obtain ⟨now, op⟩ := op
      rw [after, apply_connected]
      cases op <;> simp [connectedAfter, ih]

/-- Every operation but an update and a real disconnection keeps all leaves. -/
theorem apply_keeps_leaves (s : Shared F) (timed : TimedOp F) (quiet : ∀ u, timed.2 ≠ .update u)
    (up : timed.2 = .setConnected false → s.telemetry.connected = false) :
    (s.apply timed).telemetry.energyReadings = s.telemetry.energyReadings ∧
      (s.apply timed).telemetry.snapshot.buckets = s.telemetry.snapshot.buckets := by
  obtain ⟨now, op⟩ := timed
  cases op with
  | update u => exact absurd rfl (quiet u)
  | setConnected connected =>
      cases connected with
      | true =>
          simp only [apply, setConnected, Telemetry.setConnected]
          split <;> exact ⟨rfl, rfl⟩
      | false =>
          have down := up rfl
          simp [apply, setConnected, Telemetry.setConnected, down]
  | updateInverter value =>
      simp only [apply, updateInverter, Telemetry.updateInverter]
      split
      · exact ⟨rfl, rfl⟩
      · split <;> exact ⟨rfl, rfl⟩
  | updateSetpointOverride value =>
      simp only [apply, updateSetpointOverride, Telemetry.updateSetpointOverride]
      split <;> exact ⟨rfl, rfl⟩
  | broadcastSnapshot =>
      obtain ⟨dirty, same⟩ := s.broadcastSnapshot_telemetry now
      simp only [apply, same, Telemetry.expire]
      split <;> exact ⟨rfl, rfl⟩
  | subscribe => exact ⟨rfl, rfl⟩
  | unsubscribe => exact ⟨rfl, rfl⟩

end Shared

theorem accepted_down {history : List (TimedOp F)} (down : connectedAfter history = false) :
    accepted history = [] := by
  cases history with
  | nil => rfl
  | cons op earlier =>
      obtain ⟨now, op⟩ := op
      cases op with
      | setConnected connected =>
          obtain rfl : connected = false := down
          simp [accepted]
      | _ => simp_all [accepted, connectedAfter]

theorem accepted_cons {op : TimedOp F} {earlier : List (TimedOp F)}
    (up : connectedAfter earlier = true) (stays : op.2 ≠ .setConnected false) :
    accepted (op :: earlier) = op :: accepted earlier := by
  obtain ⟨now, op⟩ := op
  cases op with
  | setConnected connected =>
      cases connected with
      | false => exact absurd rfl stays
      | true => simp [accepted, up]
  | _ => simp [accepted, up]

/-- A part of the telemetry that only the leaves of one energy path determine:
`view` reads it, `of` says what an effect leaves there. -/
structure Tracks {X : Type} (service path : String) (view : Telemetry F → Option X)
    (of : Effect F → Option X) : Prop where
  leaves : ∀ t t' : Telemetry F, t.energyReadings = t'.energyReadings →
    t.snapshot.buckets = t'.snapshot.buckets → view t = view t'
  fresh : ∀ generation, view { generation := generation } = none
  update : ∀ (t : Telemetry F) (receivers : Nat) (now : Instant) (u : ParsedUpdate F),
    t.connected = true → view (t.update receivers now u) =
      match effectOf service path now u with
      | some effect => of effect
      | none => view t

namespace Tracks

variable {X : Type} {service path : String} {view : Telemetry F → Option X}
  {of : Effect F → Option X}

/-- **The run lemma of the stores**: what is held is the last accepted effect. -/
theorem after_eq (tracks : Tracks service path view of) (history : List (TimedOp F)) :
    view (Shared.after history).telemetry = (lastEffect service path history).bind of := by
  induction history with
  | nil => exact tracks.fresh 0
  | cons timed earlier ih =>
      have flag := Shared.after_connected earlier
      cases up : connectedAfter earlier with
      | false =>
          rw [up] at flag
          have nothing : view (Shared.after earlier).telemetry = none := by
            rw [ih, lastEffect, accepted_down up]; rfl
          have still : accepted (timed :: earlier) = [] := by
            simp [accepted, up]
          rw [lastEffect, still, List.findSome?_nil, Option.bind_none, ← nothing, Shared.after]
          by_cases updates : ∃ u, timed.2 = .update u
          · obtain ⟨u, same⟩ := updates
            simp only [Shared.apply, same, Shared.update]
            rw [Telemetry.update_rejected _ _ _ _ (Or.inl flag)]
          · obtain ⟨readings, buckets⟩ := Shared.apply_keeps_leaves (Shared.after earlier) timed
              (fun u same => updates ⟨u, same⟩) (fun _ => flag)
            exact tracks.leaves _ _ readings buckets
      | true =>
          rw [up] at flag
          by_cases drop : timed.2 = .setConnected false
          · -- a real disconnection resets the record
            have still : accepted (timed :: earlier) = [] := by simp [accepted, drop]
            rw [lastEffect, still, List.findSome?_nil, Option.bind_none, Shared.after]
            simp only [Shared.apply, drop, Shared.setConnected, Telemetry.setConnected, flag]
            exact tracks.fresh _
          · rw [lastEffect, accepted_cons up drop, List.findSome?_cons, Shared.after]
            by_cases updates : ∃ u, timed.2 = .update u
            · obtain ⟨u, same⟩ := updates
              simp only [Shared.apply, same, Shared.update]
              rw [tracks.update _ _ _ _ flag, ih]
              cases effectOf service path timed.1 u <;> rfl
            · obtain ⟨readings, buckets⟩ := Shared.apply_keeps_leaves (Shared.after earlier) timed
                (fun u same => updates ⟨u, same⟩) (fun same => absurd same drop)
              rw [tracks.leaves _ _ readings buckets, ih]
              obtain ⟨now, op⟩ := timed
              cases op with
              | update u => exact absurd ⟨u, rfl⟩ updates
              | _ => rfl

end Tracks

theorem reading_tracks {service path inst leaf : String} (p : EnergyPath service path inst leaf) :
    Tracks (F := F) service path (fun t => t.energyReadings.get (sourceKey service path))
      Effect.reading where
  leaves t t' readings _ := by rw [readings]
  fresh _ := rfl
  update t receivers now u up := Telemetry.update_reading p up receivers now u

theorem stored_tracks {service path inst leaf : String} (p : EnergyPath service path inst leaf)
    {bucket : Bucket} (kept : bucketMut service = some bucket)
    (alone : ∀ s, bucketMut s = some bucket → s = service) :
    Tracks (F := F) service path (fun t => (t.snapshot.buckets bucket).get path)
      Effect.stored where
  leaves t t' _ buckets := by rw [buckets]
  fresh _ := rfl
  update t receivers now u up := Telemetry.update_stored p kept alone up receivers now u

/-- A bucket belongs to one service. -/
theorem bucketMut_inj {s s' : String} {bucket : Bucket} (kept : bucketMut s = some bucket)
    (kept' : bucketMut s' = some bucket) : s = s' := by
  unfold bucketMut at kept
  split at kept <;> first | (cases kept; done) | skip
  all_goals
    cases kept
    unfold bucketMut at kept'
    split at kept' <;> first | rfl | cases kept'

theorem energy_bucket {service : String} (known : service ∈ energyServices) :
    ∃ bucket, bucketMut service = some bucket := by
  have each : ∀ s ∈ energyServices, (bucketMut s).isSome = true := by decide
  exact Option.isSome_iff_exists.1 (each service known)

namespace Shared

/-- One operation of a live connection and the readiness flag. -/
theorem apply_ready (s : Shared F) (timed : TimedOp F) (up : s.telemetry.connected = true)
    (stays : timed.2 ≠ .setConnected false) :
    (s.apply timed).telemetry.ready = (s.telemetry.ready || makesReady timed.2) := by
  obtain ⟨now, op⟩ := timed
  cases op with
  | update u =>
      simp only [apply, update, makesReady, Telemetry.update, up]
      cases u.removesDevice <;> cases pathKeep u.service u.path <;>
        simp [Telemetry.removeDevice, Telemetry.storeLeaf]
  | setConnected connected =>
      cases connected with
      | false => exact absurd rfl stays
      | true => simp [apply, setConnected, Telemetry.setConnected, up, makesReady]
  | updateInverter value =>
      simp only [apply, updateInverter, Telemetry.updateInverter, up, makesReady]
      cases value <;> simp [Value.isObject, Value.isNull]
  | updateSetpointOverride value =>
      simp [apply, updateSetpointOverride, Telemetry.updateSetpointOverride, up, makesReady]
  | broadcastSnapshot =>
      obtain ⟨dirty, same⟩ := s.broadcastSnapshot_telemetry now
      simp only [apply, same, Telemetry.expire, makesReady, Bool.or_false]
      split <;> rfl
  | subscribe => simp [apply, makesReady]
  | unsubscribe => simp [apply, makesReady]

/-- Without a connection nothing becomes ready. -/
theorem apply_ready_down (s : Shared F) (timed : TimedOp F) (down : s.telemetry.connected = false) :
    (s.apply timed).telemetry.ready = s.telemetry.ready := by
  obtain ⟨now, op⟩ := timed
  cases op with
  | update u => simp only [apply, update, Telemetry.update_rejected _ _ _ _ (Or.inl down)]
  | setConnected connected =>
      simp only [apply, setConnected, Telemetry.setConnected, down]
      cases connected <;> simp
  | updateInverter value =>
      simp [apply, updateInverter, Telemetry.updateInverter, down]
  | updateSetpointOverride value =>
      simp [apply, updateSetpointOverride, Telemetry.updateSetpointOverride, down]
  | broadcastSnapshot =>
      obtain ⟨dirty, same⟩ := s.broadcastSnapshot_telemetry now
      simp only [apply, same, Telemetry.expire]
      split <;> rfl
  | subscribe => rfl
  | unsubscribe => rfl

/-- The readiness flag says whether the current connection stored something. -/
theorem after_ready (history : List (TimedOp F)) :
    (after history).telemetry.ready = (accepted history).any fun op => makesReady op.2 := by
  induction history with
  | nil => rfl
  | cons timed earlier ih =>
      have flag := after_connected earlier
      cases up : connectedAfter earlier with
      | false =>
          rw [up] at flag
          have still : accepted (timed :: earlier) = [] := by simp [accepted, up]
          rw [still, after, apply_ready_down _ _ flag, ih, accepted_down up]
      | true =>
          rw [up] at flag
          by_cases drop : timed.2 = .setConnected false
          · have still : accepted (timed :: earlier) = [] := by simp [accepted, drop]
            rw [still, after]
            simp [apply, drop, setConnected, Telemetry.setConnected, flag]
          · rw [after, apply_ready _ _ flag drop, ih, accepted_cons up drop, List.any_cons,
              Bool.or_comm]

/-- An update of another path, service or device instance. -/
def Elsewhere (service path : String) (u : ParsedUpdate F) : Prop :=
  u.service ≠ service ∨ (u.path ≠ path ∧ ¬(u.path = deviceOf path ∧ u.value.isNull = true))

theorem effectOf_elsewhere {service path : String} {u : ParsedUpdate F} (now : Instant)
    (other : Elsewhere service path u) : effectOf service path now u = none := by
  unfold effectOf
  rcases other with service' | ⟨path', root⟩
  · rw [if_neg service']
  · rw [if_neg path', if_neg root, ite_self]

theorem reading_eq_some {effect : Option (Effect F)} {v : Value F} {t : Instant} :
    effect.bind Effect.reading = some ⟨v, t⟩ ↔ v.isNull = false ∧ effect = some (.leaf v t) := by
  cases effect with
  | none => simp
  | some e =>
      cases e with
      | removed => simp [Effect.reading]
      | leaf v' t' =>
          simp only [Option.bind_some, Effect.reading, Option.some.injEq, Effect.leaf.injEq]
          cases null : v'.isNull with
          | true =>
              simp only [if_true, reduceCtorEq, false_iff]
              rintro ⟨kept, rfl, -⟩
              rw [null] at kept
              cases kept
          | false =>
              simp only [Bool.false_eq_true, if_false, Option.some.injEq, Reading.mk.injEq]
              constructor
              · rintro ⟨rfl, rfl⟩; exact ⟨null, rfl, rfl⟩
              · rintro ⟨-, rfl, rfl⟩; exact ⟨rfl, rfl⟩

/-- **Both stores are one function of the history.**  After any history an
energy path has a reading exactly when its last accepted effect is a non-null
leaf; its bucket holds that leaf, null included, and nothing after a removal; no
update elsewhere touches either entry.  The snapshot is published exactly while
connected with something stored.  The updates are parsed messages, whose services
have no slash. -/
theorem stores_follow_history (ops : List (TimedOp F)) :
    (∀ service path, isEnergyPath service path = true →
      (∀ v t, ((new : Shared F).runOps ops).telemetry.energyReadings.get (sourceKey service path) =
          some ⟨v, t⟩ ↔
        v.isNull = false ∧ lastEffect service path ops.reverse = some (.leaf v t)) ∧
      ∃ bucket, bucketMut service = some bucket ∧
        (((new : Shared F).runOps ops).telemetry.snapshot.buckets bucket).get path =
          (lastEffect service path ops.reverse).bind Effect.stored ∧
        ∀ now u, Elsewhere service path u →
          (((new : Shared F).runOps ops).update now u).telemetry.energyReadings.get
              (sourceKey service path) =
            ((new : Shared F).runOps ops).telemetry.energyReadings.get (sourceKey service path) ∧
          ((((new : Shared F).runOps ops).update now u).telemetry.snapshot.buckets bucket).get path =
            (((new : Shared F).runOps ops).telemetry.snapshot.buckets bucket).get path) ∧
    ∀ now, (((new : Shared F).runOps ops).snapshot now).isSome = true ↔
      connectedAfter ops.reverse = true ∧
        ∃ op ∈ accepted ops.reverse, makesReady op.2 = true := by
  rw [runOps_eq_after]
  refine ⟨fun service path energy => ?_, fun now => ?_⟩
  · obtain ⟨inst, leaf, p⟩ := energyPath energy
    obtain ⟨-, -, -, -, known⟩ := isEnergyPath_shape energy
    obtain ⟨bucket, kept⟩ := energy_bucket known
    have readings := reading_tracks (F := F) p
    have stored := stored_tracks (F := F) p kept fun s found => bucketMut_inj found kept
    refine ⟨fun v t => ?_, bucket, kept, stored.after_eq _, fun now u other => ?_⟩
    · rw [readings.after_eq, reading_eq_some]
    · cases up : (after ops.reverse).telemetry.connected with
      | false =>
          simp only [update, Telemetry.update_rejected _ _ _ _ (Or.inl up), and_self]
      | true =>
          have reading := readings.update _ (after ops.reverse).sse.receivers now u up
          have leafKept := stored.update _ (after ops.reverse).sse.receivers now u up
          rw [effectOf_elsewhere now other] at reading leafKept
          exact ⟨reading, leafKept⟩
  · unfold snapshot
    have stored : (∃ op ∈ accepted ops.reverse, makesReady op.2 = true) ↔
        ((accepted ops.reverse).any fun op => makesReady op.2) = true :=
      List.any_eq_true.symm
    rw [after_connected, after_ready, stored, ← Bool.and_eq_true]
    split
    · rename_i live; simp only [live, Option.isSome_some]
    · rename_i dead; simp only [dead, Option.isSome_none, Bool.false_eq_true]

/-- Device 10 keeps its reading when device 1 is removed. -/
theorem stores_follow_history_devices :
    ((new : Shared Unit).runOps [(0, .setConnected true),
        (3, .update ⟨"battery", "10/Soc", .number (.posInt 80), by decide⟩),
        (4, .update ⟨"battery", "1", .null, by decide⟩)]).telemetry.energyReadings.get
      (sourceKey "battery" "10/Soc") = some ⟨.number (.posInt 80), 3⟩ :=
  (((stores_follow_history [(0, .setConnected true),
        (3, .update ⟨"battery", "10/Soc", .number (.posInt 80), by decide⟩),
        (4, .update ⟨"battery", "1", .null, by decide⟩)]).1 "battery" "10/Soc"
      (by decide)).1 _ _).2 ⟨rfl, rfl⟩

end Shared

end InverterGateway.Gateway

/-
# Gateway.Telemetry — the state shared by the bridge and the HTTP handlers

The telemetry record of `state.rs` and its operations, each as one function of
the state and the clock.  All of them run under one lock, so a history of the
gateway is a list of operations with the times they ran at (`runOps`).

The clock counts nanoseconds; `generation` counts disconnections.
-/
import InverterGateway.Theory.Broadcast
import InverterGateway.Theory.Table
import InverterGateway.Gateway.EnergyPath
import InverterGateway.Gateway.Json

namespace InverterGateway.Gateway

open InverterGateway.Theory

set_option autoImplicit false

/-! ## Time -/

/-- A point on the monotonic clock, in nanoseconds. -/
abbrev Instant := Nat

/-- A length of time, in nanoseconds. -/
abbrev Duration := Nat

def secs (n : Nat) : Duration := n * 1000000000

/-- `Instant::elapsed` at `now`. -/
def elapsed (now earlier : Instant) : Duration := now - earlier

/-! ## Data -/

/-- The telemetry maps of a snapshot, one per mirrored service. -/
inductive Bucket where
  | system | vebus | battery | solarcharger | pvinverter | tank | pump | ev | evcharger | acload
  | platform | settings
  deriving DecidableEq

/-- `Snapshot::bucket_mut`: the map a service is kept in. -/
def bucketMut : String → Option Bucket
  | "system" => some .system
  | "vebus" => some .vebus
  | "battery" => some .battery
  | "solarcharger" => some .solarcharger
  | "pvinverter" => some .pvinverter
  | "tank" => some .tank
  | "pump" => some .pump
  | "ev" => some .ev
  | "evcharger" => some .evcharger
  | "acload" => some .acload
  | "platform" => some .platform
  | "settings" => some .settings
  | _ => none

structure Capabilities where
  setEssMode : Bool := true
  waterMode : Bool := true
  setpointOverride : Bool := true
  electricityTariff : Bool := true

/-- Leaf values by bucket and path, and the retained controller state. -/
structure Snapshot (F : Type) where
  capabilities : Capabilities := {}
  inverter : Option (Entries F) := none
  buckets : Bucket → Table (Value F) := fun _ => .empty

structure Reading (F : Type) where
  value : Value F
  receivedAt : Instant

/-- The stores.  `generation` is a `u64` of the source, kept as a natural number. -/
structure Telemetry (F : Type) where
  snapshot : Snapshot F := {}
  energyReadings : Table (Reading F) := .empty
  connected : Bool := false
  ready : Bool := false
  generation : Nat := 0
  dirty : Bool := false
  inverterReceivedAt : Option Instant := none
  setpointOverride : Value F := .null

structure SnapshotEvent (F : Type) where
  generation : Nat
  snapshot : Option (Snapshot F)

/-- The lock-protected telemetry and the event channel of its subscribers. -/
structure Shared (F : Type) where
  telemetry : Telemetry F
  sse : Broadcast (SnapshotEvent F)

/-- A parsed telemetry message.  The service is the part of the topic before
its first slash, so it contains none: `plain` holds of whatever `Env.parse` builds,
and the gateway builds no other. -/
structure ParsedUpdate (F : Type) where
  service : String
  path : String
  value : Value F
  plain : '/' ∉ service.toList

namespace Snapshot

variable {F : Type}

def setBucket (s : Snapshot F) (bucket : Bucket) (table : Table (Value F)) : Snapshot F :=
  { s with buckets := fun b => if b = bucket then table else s.buckets b }

@[simp] theorem setBucket_inverter (s : Snapshot F) (bucket : Bucket) (table : Table (Value F)) :
    (s.setBucket bucket table).inverter = s.inverter := rfl

@[simp] theorem setBucket_buckets (s : Snapshot F) (bucket b : Bucket) (table : Table (Value F)) :
    (s.setBucket bucket table).buckets b = if b = bucket then table else s.buckets b := rfl

end Snapshot

/-! ## Which leaves are kept -/

/-- `path_keep`: the leaves some client reads. -/
def pathKeep (service path : String) : Bool :=
  if isEnergyPath service path then true
  else
    let leaf := match Text.splitOnce path '/' with
      | some (_, rest) => rest
      | none => path
    match service with
    | "settings" => ["Settings/CGwacs/Hub4Mode", "Settings/CGwacs/BatteryLife/State"].contains leaf
    | "system" => ["Ac/Grid/L1/Power", "Ac/Grid/L2/Power", "Ac/Consumption/L1/Power",
        "Ac/Consumption/L2/Power", "Dc/Battery/Voltage", "Dc/Battery/Current", "Dc/Battery/Power",
        "Dc/Pv/Power", "Dc/Pv/Current"].contains leaf
    | "vebus" => leaf == "State" || leaf == "Hub4/L1/AcPowerSetpoint" ||
        Text.startsWith leaf "Ac/Out/" || Text.startsWith leaf "Ac/ActiveIn/" ||
        Text.startsWith leaf "Alarms/"
    | "battery" => ["Soc", "Connected", "Dc/0/Voltage", "Dc/0/Current", "Dc/0/Power", "ProductName",
        "CustomName", "Serial", "TimeToGo", "System/MaxCellVoltage", "System/MinCellVoltage",
        "System/MaxVoltageCellId", "System/MinVoltageCellId"].contains leaf ||
        Text.startsWith leaf "Alarms/"
    | "solarcharger" => ["Yield/Power", "Dc/0/Power", "Dc/0/Current", "Pv/V", "ProductName",
        "CustomName", "Serial"].contains leaf
    | "pvinverter" => ["Ac/Power", "Ac/L1/Power", "Ac/L2/Power", "Ac/L1/Voltage", "Ac/L2/Voltage",
        "Ac/L1/Current", "Ac/L2/Current", "ProductName", "CustomName", "Serial"].contains leaf
    | "tank" => ["Level", "Status", "Connected", "ProductName", "CustomName"].contains leaf
    | "pump" => ["State", "Mode", "Status", "Connected", "ProductName", "CustomName"].contains leaf
    | "ev" | "evcharger" => Text.contains leaf "Power" || ["Soc", "VIN", "Connected", "ProductName",
        "CustomName", "Status", "Mode"].contains leaf
    | "acload" => ["Ac/Power", "Ac/L1/Power", "Connected", "ProductName", "CustomName"].contains leaf
    | "platform" =>
        match Text.split leaf '/' with
        | [kind, slot, field] => kind == "Notifications" &&
            (Text.parseU32 slot).any (fun n => decide (n ≤ 20)) &&
            ["Description", "DeviceName", "Service", "DateTime", "Type", "Active", "Acknowledged",
              "Silenced"].contains field
        | _ => false
    | _ => false

theorem pathKeep_of_isEnergyPath {service path : String} (energy : isEnergyPath service path = true) :
    pathKeep service path = true := by
  simp [pathKeep, energy]

variable {F : Type}

/-- `apply_update`: store a leaf in its service's bucket. -/
def applyUpdate (s : Snapshot F) (u : ParsedUpdate F) : Snapshot F :=
  let key := if u.path = "" then "_" else u.path
  match bucketMut u.service with
  | none => s
  | some bucket => s.setBucket bucket ((s.buckets bucket).insert key u.value)

@[simp] theorem applyUpdate_inverter (s : Snapshot F) (u : ParsedUpdate F) :
    (applyUpdate s u).inverter = s.inverter := by
  unfold applyUpdate
  cases bucketMut u.service <;> rfl

/-- The joined key of an energy reading. -/
def sourceKey (service path : String) : String :=
  service ++ "/" ++ path

namespace ParsedUpdate

/-- A null device root: it invalidates every leaf of the device. -/
def removesDevice (u : ParsedUpdate F) : Bool :=
  u.value.isNull && !Text.containsChar u.path '/' && (Text.parseU32 u.path).isSome

end ParsedUpdate

/-! ## Operations on the telemetry -/

namespace Telemetry

/-- Whether the controller state is missing or older than 120 seconds. -/
def inverterExpired (t : Telemetry F) (now : Instant) : Bool :=
  match t.inverterReceivedAt with
  | none => true
  | some received => decide (secs 120 < elapsed now received)

/-- `fresh_inverter`. -/
def freshInverter (t : Telemetry F) (now : Instant) : Option (Entries F) :=
  if t.inverterExpired now then none else t.snapshot.inverter

/-- `current_snapshot`: the controller state with its dedicated acknowledgement. -/
def currentSnapshot (t : Telemetry F) (now : Instant) : Snapshot F :=
  let inverter := if t.inverterExpired now then none else t.snapshot.inverter
  { t.snapshot with
    inverter := inverter.map fun m => m.insert "setpoint_override" t.setpointOverride }

def setConnected (t : Telemetry F) (connected : Bool) : Telemetry F :=
  if t.connected = connected then t
  else if connected then { t with connected := true }
  else { connected := false, generation := t.generation + 1 }

/-- `update_inverter`: objects replace the controller state, null removes it. -/
def updateInverter (t : Telemetry F) (receivers : Nat) (now : Instant) (value : Value F) :
    Telemetry F :=
  if !value.isObject && !value.isNull then t
  else if !t.connected then t
  else
    { t with
      setpointOverride := if value.isNull then .null else t.setpointOverride
      snapshot := { t.snapshot with inverter := value.asObject }
      inverterReceivedAt := if value.isObject then some now else none
      ready := t.ready || value.isObject
      dirty := decide (0 < receivers) }

def updateSetpointOverride (t : Telemetry F) (receivers : Nat) (value : Value F) : Telemetry F :=
  if !t.connected then t
  else { t with setpointOverride := value, dirty := decide (0 < receivers) }

/-- The readings and the bucket without the leaves of a removed device. -/
def removeDevice (t : Telemetry F) (u : ParsedUpdate F) : Telemetry F :=
  { t with
    energyReadings := t.energyReadings.retain fun source =>
      !Text.startsWith source (u.service ++ "/" ++ u.path ++ "/")
    snapshot := match bucketMut u.service with
      | none => t.snapshot
      | some bucket => t.snapshot.setBucket bucket
          ((t.snapshot.buckets bucket).retain fun path => !Text.startsWith path (u.path ++ "/")) }

/-- Store a kept leaf, in the readings too when it is an energy path. -/
def storeLeaf (t : Telemetry F) (now : Instant) (u : ParsedUpdate F) : Telemetry F :=
  { t with
    energyReadings :=
      if isEnergyPath u.service u.path then
        if u.value.isNull then t.energyReadings.remove (sourceKey u.service u.path)
        else t.energyReadings.insert (sourceKey u.service u.path) ⟨u.value, now⟩
      else t.energyReadings
    snapshot := applyUpdate t.snapshot u
    ready := true }

/-- `Shared::update`: only whitelisted leaves received during the current connection. -/
def update (t : Telemetry F) (receivers : Nat) (now : Instant) (u : ParsedUpdate F) : Telemetry F :=
  if !u.removesDevice && !pathKeep u.service u.path then t
  else if !t.connected then t
  else
    let t := if u.removesDevice then t.removeDevice u else t.storeLeaf now u
    { t with dirty := decide (0 < receivers) }

/-- Drop an expired controller state, which is itself a change. -/
def expire (t : Telemetry F) (receivers : Nat) (now : Instant) : Telemetry F :=
  if t.snapshot.inverter.isSome && t.inverterExpired now then
    { t with
      snapshot := { t.snapshot with inverter := none }
      inverterReceivedAt := none
      dirty := decide (0 < receivers) }
  else t

end Telemetry

/-! ## Operations on the shared state -/

namespace Shared

/-- The capacity of the event channel. -/
def sseCapacity : Nat := 64

def new : Shared F := ⟨{}, .new sseCapacity⟩

def isConnected (s : Shared F) : Bool := s.telemetry.connected

def setConnected (s : Shared F) (connected : Bool) : Shared F :=
  { telemetry := s.telemetry.setConnected connected
    sse :=
      if s.telemetry.connected && !connected then
        s.sse.send ⟨s.telemetry.generation + 1, none⟩
      else s.sse }

def snapshot (s : Shared F) (now : Instant) : Option (Snapshot F) :=
  if s.telemetry.connected && s.telemetry.ready then some (s.telemetry.currentSnapshot now) else none

def updateInverter (s : Shared F) (now : Instant) (value : Value F) : Shared F :=
  { s with telemetry := s.telemetry.updateInverter s.sse.receivers now value }

def updateSetpointOverride (s : Shared F) (value : Value F) : Shared F :=
  { s with telemetry := s.telemetry.updateSetpointOverride s.sse.receivers value }

def update (s : Shared F) (now : Instant) (u : ParsedUpdate F) : Shared F :=
  { s with telemetry := s.telemetry.update s.sse.receivers now u }

/-- `broadcast_snapshot`: send the coalesced snapshot when something changed. -/
def broadcastSnapshot (s : Shared F) (now : Instant) : Shared F :=
  let t := s.telemetry.expire s.sse.receivers now
  if !t.connected || !t.dirty then { s with telemetry := t }
  else
    { telemetry := { t with dirty := false }
      sse := s.sse.send ⟨t.generation, some (t.currentSnapshot now)⟩ }

end Shared

end InverterGateway.Gateway

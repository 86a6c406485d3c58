/-
# Gateway.EnergyPath — which telemetry paths an energy source may name

`metricKind` classifies a service and a path below it: the instance must be a
canonical decimal, so one device has one spelling, and the leaf must belong to
the service.  `alarmLabel` is the English label of an alarm leaf; a leaf is an
alarm source exactly when it has one.
-/
import InverterGateway.Theory.Text

namespace InverterGateway.Gateway

open InverterGateway.Theory

set_option autoImplicit false

/-! ## Alarm labels -/

/-- The `vebus` alarms that exist once per phase. -/
def phaseAlarms : List String :=
  ["HighTemperature", "LowBattery", "Overload", "Ripple", "InverterImbalance", "MainsImbalance"]

def phases : List String := ["L1", "L2", "L3"]

/-- The English label of each known alarm, by service and name. -/
def alarmLabels : List ((String × String) × String) := [
    (("vebus", "HighDcCurrent"), "High inverter DC current"),
    (("vebus", "HighDcVoltage"), "High inverter DC voltage"),
    (("vebus", "LowBattery"), "Low inverter battery voltage"),
    (("vebus", "PhaseRotation"), "Incorrect AC phase rotation"),
    (("vebus", "Ripple"), "High DC ripple"),
    (("vebus", "TemperatureSensor"), "Battery temperature sensor fault"),
    (("vebus", "VoltageSensor"), "Battery voltage sensor fault"),
    (("vebus", "GridLost"), "Grid connection lost"),
    (("vebus", "BmsConnectionLost"), "Battery management connection lost"),
    (("vebus", "InverterImbalance"), "Inverter imbalance"),
    (("vebus", "MainsImbalance"), "Mains imbalance"),
    (("vebus", "HighTemperature"), "High inverter temperature"),
    (("vebus", "Overload"), "Inverter overload"),
    (("battery", "Alarm"), "Battery alarm"),
    (("battery", "CommunicationError"), "Battery communication error"),
    (("battery", "LowVoltage"), "Low battery voltage"),
    (("battery", "HighVoltage"), "High battery voltage"),
    (("battery", "HighCellVoltage"), "High battery cell voltage"),
    (("battery", "LowCellVoltage"), "Low battery cell voltage"),
    (("battery", "LowStarterVoltage"), "Low starter battery voltage"),
    (("battery", "HighStarterVoltage"), "High starter battery voltage"),
    (("battery", "LowSoc"), "Low battery charge"),
    (("battery", "HighChargeCurrent"), "High battery charging current"),
    (("battery", "HighDischargeCurrent"), "High battery discharging current"),
    (("battery", "HighCurrent"), "High battery current"),
    (("battery", "CellImbalance"), "Battery cell imbalance"),
    (("battery", "InternalFailure"), "Internal battery fault"),
    (("battery", "HighChargeTemperature"), "High battery charging temperature"),
    (("battery", "LowChargeTemperature"), "Low battery charging temperature"),
    (("battery", "LowTemperature"), "Low battery temperature"),
    (("battery", "HighTemperature"), "High battery temperature"),
    (("battery", "MidVoltage"), "Battery midpoint voltage deviation"),
    (("battery", "Contactor"), "Battery contactor fault"),
    (("battery", "BmsCable"), "Battery management cable fault"),
    (("battery", "HighInternalTemperature"), "High internal battery temperature"),
    (("battery", "FuseBlown"), "Battery fuse blown"),
    (("battery", "CircuitBreakerTripped"), "Battery circuit breaker tripped")]

/-- The alarm named by a leaf: its name and, for the phase alarms of `vebus`, its phase. -/
def alarmName (service name : String) : Option (String × Option String) :=
  if service = "vebus" then
    match Text.splitOnce name '/' with
    | some (phase, name) =>
        if phase ∈ phases ∧ name ∈ phaseAlarms then some (name, some phase) else none
    | none => some (name, none)
  else some (name, none)

/-- `alarms::alarm_label`. -/
def alarmLabel (service leaf : String) : Option String := do
  let name ← Text.stripPrefix leaf "Alarms/"
  let (name, phase) ← alarmName service name
  let label ← alarmLabels.lookup (service, name)
  match phase with
  | some phase => some (label ++ " on phase " ++ phase)
  | none => some label

/-! ## Metric kinds -/

inductive MetricKind where
  | battery
  | power
  | today
  | alarm
  | loadPower
  | gridPower
  | batteryPower
  deriving DecidableEq

/-- Canonical numeric instances only, so alternate spellings cannot name one device twice. -/
def canonicalInstance (inst : String) : Bool :=
  inst.toList.all Text.isDigit && !(decide (1 < inst.toList.length) && Text.startsWith inst "0") &&
    (Text.parseU32 inst).isSome

/-- The system power leaves `Ac/<family>/<phase>/Power`. -/
def systemPowerKind (leaf : String) : Option MetricKind :=
  match Text.split leaf '/' with
  | [ac, family, phase, power] =>
      if ac ≠ "Ac" ∨ power ≠ "Power" then none
      else if family ∈ ["PvOnGrid", "PvOnOutput", "PvOnGenset"] ∧ phase ∈ ["L1", "L2", "L3", "Total"] then
        some .power
      else if family ∈ ["Consumption", "ConsumptionOnInput", "ConsumptionOnOutput"] ∧ phase ∈ phases then
        some .loadPower
      else if family = "Grid" ∧ phase ∈ phases then some .gridPower
      else none
  | _ => none

/-- The kind of a leaf under a service, its instance already checked. -/
def leafKind (service leaf : String) : Option MetricKind :=
  if (service, leaf) ∈ [("system", "Dc/Battery/Soc"), ("battery", "Soc"), ("vebus", "Soc")] then
    some .battery
  else if (service, leaf) = ("system", "Dc/Battery/Power") then some .batteryPower
  else if (service, leaf) ∈ [("system", "Dc/Pv/Power"), ("solarcharger", "Yield/Power"),
      ("pvinverter", "Ac/Power"), ("pvinverter", "Ac/L1/Power"), ("pvinverter", "Ac/L2/Power"),
      ("pvinverter", "Ac/L3/Power")] then some .power
  else if (service, leaf) ∈ [("solarcharger", "History/Daily/0/Yield"),
      ("pvinverter", "Ac/Energy/Daily")] then some .today
  else if service ∈ ["battery", "vebus"] ∧ (alarmLabel service leaf).isSome then some .alarm
  else if service = "system" then systemPowerKind leaf
  else none

/-- `energy::metric_kind`. -/
def metricKind (service path : String) : Option MetricKind :=
  match Text.splitOnce path '/' with
  | none => none
  | some (inst, leaf) => if canonicalInstance inst then leafKind service leaf else none

/-- `energy::is_energy_path`. -/
def isEnergyPath (service path : String) : Bool :=
  (metricKind service path).isSome

example : metricKind "system" "0/Ac/Consumption/L2/Power" = some .loadPower ∧
    metricKind "battery" "01/Soc" = none ∧
    metricKind "vebus" "7/Alarms/L3/Ripple" = some .alarm := by decide

/-- The services that have energy paths. -/
def energyServices : List String := ["system", "battery", "vebus", "solarcharger", "pvinverter"]

theorem leafKind_service {service leaf : String} {kind : MetricKind}
    (known : leafKind service leaf = some kind) : service ∈ energyServices := by
  unfold leafKind at known
  simp only [List.mem_cons, List.not_mem_nil, or_false, Prod.mk.injEq] at known
  split at known
  · rename_i h; rcases h with ⟨rfl, -⟩ | ⟨rfl, -⟩ | ⟨rfl, -⟩ <;> decide
  split at known
  · rename_i h; rcases h with ⟨rfl, -⟩; decide
  split at known
  · rename_i h
    rcases h with ⟨rfl, -⟩ | ⟨rfl, -⟩ | ⟨rfl, -⟩ | ⟨rfl, -⟩ | ⟨rfl, -⟩ | ⟨rfl, -⟩ <;> decide
  split at known
  · rename_i h; rcases h with ⟨rfl, -⟩ | ⟨rfl, -⟩ <;> decide
  split at known
  · rename_i h; rcases h.1 with rfl | rfl <;> decide
  split at known
  · rename_i h; subst h; decide
  · cases known

/-- An energy path is a canonical instance, a slash and a leaf, under a known service. -/
theorem isEnergyPath_shape {service path : String} (energy : isEnergyPath service path = true) :
    ∃ inst leaf : String, Text.splitOnce path '/' = some (inst, leaf) ∧
      canonicalInstance inst = true ∧ service ∈ energyServices := by
  obtain ⟨kind, known⟩ := Option.isSome_iff_exists.1 energy
  unfold metricKind at known
  split at known
  · cases known
  · rename_i inst leaf parts
    split at known
    · rename_i canonical
      exact ⟨inst, leaf, parts, canonical, leafKind_service known⟩
    · cases known

end InverterGateway.Gateway

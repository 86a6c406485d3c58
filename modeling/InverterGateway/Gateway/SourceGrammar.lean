/-
# Gateway.SourceGrammar — the documented energy sources and what a list may combine

A `Source` is a leaf of the documentation's tables under a device instance; its
text is the topic suffix a user writes.  The raw string tests of the validation
are shown to decide the rules on sources: which texts are sources of a metric,
which solar readings overlap, which flow readings share a system.
-/
import InverterGateway.Gateway.Sources

namespace InverterGateway.Gateway

open InverterGateway.Theory

set_option autoImplicit false

/-! ## Leaves -/

inductive AcPhase where
  | l1
  | l2
  | l3
  deriving DecidableEq

def AcPhase.text : AcPhase → String
  | .l1 => "L1"
  | .l2 => "L2"
  | .l3 => "L3"

/-- The AC buses a system reports solar power on. -/
inductive PvBus where
  | onGrid
  | onOutput
  | onGenset
  deriving DecidableEq

def PvBus.text : PvBus → String
  | .onGrid => "PvOnGrid"
  | .onOutput => "PvOnOutput"
  | .onGenset => "PvOnGenset"

/-- The consumption aggregate and its two components. -/
inductive Consumption where
  | total
  | onInput
  | onOutput
  deriving DecidableEq

def Consumption.text : Consumption → String
  | .total => "Consumption"
  | .onInput => "ConsumptionOnInput"
  | .onOutput => "ConsumptionOnOutput"

/-- The VE.Bus alarm names the documentation lists without a phase. -/
def documentedVebusAlarms : List String :=
  ["HighDcCurrent", "HighDcVoltage", "LowBattery", "PhaseRotation", "Ripple", "TemperatureSensor",
    "VoltageSensor", "GridLost", "BmsConnectionLost", "HighTemperature", "Overload"]

/-- The phase alarms that the documentation lists with a phase only. -/
def phaseOnlyAlarms : List String := ["InverterImbalance", "MainsImbalance"]

def vebusAlarms : List String := documentedVebusAlarms ++ phaseOnlyAlarms

def batteryAlarms : List String :=
  ["Alarm", "CommunicationError", "LowVoltage", "HighVoltage", "HighCellVoltage", "LowCellVoltage",
    "LowStarterVoltage", "HighStarterVoltage", "LowSoc", "HighChargeCurrent",
    "HighDischargeCurrent", "HighCurrent", "CellImbalance", "InternalFailure",
    "HighChargeTemperature", "LowChargeTemperature", "LowTemperature", "HighTemperature",
    "MidVoltage", "Contactor", "BmsCable", "HighInternalTemperature", "FuseBlown",
    "CircuitBreakerTripped"]

/-- The leaves of the documentation's tables.  No phase means `Total` on a system
bus and the whole device on a PV inverter. -/
inductive Leaf where
  | systemSoc
  | batterySoc
  | vebusSoc
  | dcPv
  | acPv (bus : PvBus) (phase : Option AcPhase)
  | chargerPower
  | inverterPower (phase : Option AcPhase)
  | chargerYield
  | inverterYield
  | vebusAlarm (name : { name : String // name ∈ vebusAlarms })
  | vebusPhaseAlarm (phase : AcPhase) (name : { name : String // name ∈ phaseAlarms })
  | batteryAlarm (name : { name : String // name ∈ batteryAlarms })
  | load (part : Consumption) (phase : AcPhase)
  | grid (phase : AcPhase)
  | batteryPower
  deriving DecidableEq

namespace Leaf

def service : Leaf → String
  | systemSoc | dcPv | acPv _ _ | load _ _ | grid _ | batteryPower => "system"
  | batterySoc | batteryAlarm _ => "battery"
  | vebusSoc | vebusAlarm _ | vebusPhaseAlarm _ _ => "vebus"
  | chargerPower | chargerYield => "solarcharger"
  | inverterPower _ | inverterYield => "pvinverter"

def path : Leaf → String
  | systemSoc => "Dc/Battery/Soc"
  | batterySoc | vebusSoc => "Soc"
  | dcPv => "Dc/Pv/Power"
  | acPv bus (some phase) => "Ac/" ++ bus.text ++ "/" ++ phase.text ++ "/Power"
  | acPv bus none => "Ac/" ++ bus.text ++ "/Total/Power"
  | chargerPower => "Yield/Power"
  | inverterPower (some phase) => "Ac/" ++ phase.text ++ "/Power"
  | inverterPower none => "Ac/Power"
  | chargerYield => "History/Daily/0/Yield"
  | inverterYield => "Ac/Energy/Daily"
  | vebusAlarm name => "Alarms/" ++ name.1
  | vebusPhaseAlarm phase name => "Alarms/" ++ phase.text ++ "/" ++ name.1
  | batteryAlarm name => "Alarms/" ++ name.1
  | load part phase => "Ac/" ++ part.text ++ "/" ++ phase.text ++ "/Power"
  | grid phase => "Ac/Grid/" ++ phase.text ++ "/Power"
  | batteryPower => "Dc/Battery/Power"

def kind : Leaf → MetricKind
  | systemSoc | batterySoc | vebusSoc => .battery
  | dcPv | acPv _ _ | chargerPower | inverterPower _ => .power
  | chargerYield | inverterYield => .today
  | vebusAlarm _ | vebusPhaseAlarm _ _ | batteryAlarm _ => .alarm
  | load _ _ => .loadPower
  | grid _ => .gridPower
  | batteryPower => .batteryPower

/-- Whether the documentation lists the leaf: all but the two phase alarms that
it lists with a phase only. -/
def Documented : Leaf → Prop
  | vebusAlarm name => name.1 ∈ documentedVebusAlarms
  | _ => True

end Leaf

/-- A source: a leaf of a device whose instance fits 32 bits. -/
structure Source where
  inst : Nat
  fits : inst < 2 ^ 32
  leaf : Leaf

/-- The text of a source. -/
def Source.render (source : Source) : String :=
  source.leaf.service ++ "/" ++ toString source.inst ++ "/" ++ source.leaf.path

/-! ## The leaf table decides the grammar -/

/-- A labelled alarm of a service is an alarm source. -/
theorem leafKind_alarm {service name : String} (known : service = "battery" ∨ service = "vebus")
    (labelled : (alarmLabel service ("Alarms/" ++ name)).isSome = true) :
    leafKind service ("Alarms/" ++ name) = some .alarm := by
  have other : ("Alarms/" ++ name) ≠ "Soc" := by
    intro same
    have heads : ("Alarms/".toList ++ name.toList).head? = some 'S' := by
      rw [← String.toList_append, same]
      decide
    have first : ("Alarms/".toList ++ name.toList).head? = some 'A' := rfl
    rw [first] at heads
    exact absurd heads (by decide)
  have services : service ≠ "system" ∧ service ≠ "solarcharger" ∧ service ≠ "pvinverter" := by
    rcases known with rfl | rfl <;> decide
  have device : service ∈ ["battery", "vebus"] := by
    rcases known with rfl | rfl <;> simp
  unfold leafKind
  rw [if_neg, if_neg, if_neg, if_neg, if_pos ⟨device, labelled⟩]
  · simp [services]
  · simp [services]
  · simp [services]
  · simp [services, other]

theorem vebus_labelled : ∀ name ∈ vebusAlarms ++ phaseAlarms,
    (alarmLabels.lookup ("vebus", name)).isSome = true ∧ '/' ∉ name.toList := by decide

theorem battery_labelled : ∀ name ∈ batteryAlarms,
    (alarmLabels.lookup ("battery", name)).isSome = true ∧ '/' ∉ name.toList := by decide

theorem alarmLabel_isSome {service name alarm : String} {phase : Option String}
    (parsed : alarmName service name = some (alarm, phase))
    (labelled : (alarmLabels.lookup (service, alarm)).isSome = true) :
    (alarmLabel service ("Alarms/" ++ name)).isSome = true := by
  obtain ⟨label, looked⟩ := Option.isSome_iff_exists.1 labelled
  simp only [alarmLabel, Text.stripPrefix_eq_some.2 rfl, Option.bind_eq_bind, Option.bind_some,
    parsed, looked]
  cases phase <;> rfl

theorem leafKind_of_leaf (leaf : Leaf) : leafKind leaf.service leaf.path = some leaf.kind := by
  cases leaf with
  | acPv bus phase =>
      cases phase with
      | none => cases bus <;> decide
      | some phase => cases bus <;> cases phase <;> decide
  | inverterPower phase =>
      cases phase with
      | none => decide
      | some phase => cases phase <;> decide
  | vebusAlarm name =>
      obtain ⟨labelled, flat⟩ := vebus_labelled name.1 (List.mem_append_left _ name.2)
      show leafKind "vebus" ("Alarms/" ++ name.1) = some .alarm
      have parsed : alarmName "vebus" name.1 = some (name.1, none) := by
        rw [alarmName, if_pos rfl, Text.splitOnce_eq_none.2 flat]
      exact leafKind_alarm (Or.inr rfl) (alarmLabel_isSome parsed labelled)
  | vebusPhaseAlarm phase name =>
      obtain ⟨labelled, -⟩ := vebus_labelled name.1 (List.mem_append_right _ name.2)
      have parts : Text.splitOnce (phase.text ++ "/" ++ name.1) '/' = some (phase.text, name.1) := by
        rw [Text.splitOnce_eq_some]
        refine ⟨by simp [String.toList_append], ?_⟩
        cases phase <;> decide
      have legal : phase.text ∈ phases ∧ name.1 ∈ phaseAlarms :=
        ⟨by cases phase <;> decide, name.2⟩
      have whole : Leaf.path (.vebusPhaseAlarm phase name) =
          "Alarms/" ++ (phase.text ++ "/" ++ name.1) := by
        rw [Leaf.path, String.append_assoc, String.append_assoc, String.append_assoc]
      show leafKind "vebus" (Leaf.path (.vebusPhaseAlarm phase name)) = some .alarm
      rw [whole]
      have parsed : alarmName "vebus" (phase.text ++ "/" ++ name.1) =
          some (name.1, some phase.text) := by
        simp only [alarmName, if_true, parts, if_pos legal]
      exact leafKind_alarm (Or.inr rfl) (alarmLabel_isSome parsed labelled)
  | batteryAlarm name =>
      obtain ⟨labelled, -⟩ := battery_labelled name.1 name.2
      show leafKind "battery" ("Alarms/" ++ name.1) = some .alarm
      have parsed : alarmName "battery" name.1 = some (name.1, none) := by
        rw [alarmName, if_neg (by decide)]
      exact leafKind_alarm (Or.inl rfl) (alarmLabel_isSome parsed labelled)
  | load part phase => cases part <;> cases phase <;> decide
  | grid phase => cases phase <;> decide
  | _ => decide

/-- The phase of a text. -/
theorem phase_of_mem {text : String} (listed : text ∈ phases) : ∃ phase : AcPhase, phase.text = text := by
  simp only [phases, List.mem_cons, List.not_mem_nil, or_false] at listed
  rcases listed with rfl | rfl | rfl
  · exact ⟨.l1, rfl⟩
  · exact ⟨.l2, rfl⟩
  · exact ⟨.l3, rfl⟩

/-- The leaf behind an alarm label. -/
theorem leaf_of_alarmLabel {service text : String}
    (labelled : (alarmLabel service text).isSome = true) :
    ∃ leaf : Leaf, leaf.service = service ∧ leaf.path = text ∧ leaf.kind = .alarm := by
  obtain ⟨label, found⟩ := Option.isSome_iff_exists.1 labelled
  simp only [alarmLabel, Option.bind_eq_bind, Option.bind_eq_some_iff] at found
  obtain ⟨name, strip, ⟨alarm, phase⟩, parsed, base, looked, -⟩ := found
  have whole : text = "Alarms/" ++ name := Text.stripPrefix_eq_some.1 strip
  obtain ⟨before, after, same, -⟩ := List.lookup_eq_some_iff.1 looked
  have listed : ((service, alarm), base) ∈ alarmLabels := by rw [same]; simp
  have keys : ∀ entry ∈ alarmLabels, (entry.1.1 = "vebus" ∧ entry.1.2 ∈ vebusAlarms) ∨
      (entry.1.1 = "battery" ∧ entry.1.2 ∈ batteryAlarms) := by decide
  unfold alarmName at parsed
  rcases keys _ listed with ⟨vebus, known⟩ | ⟨battery, known⟩
  · have service_eq : service = "vebus" := vebus
    subst service_eq
    rw [if_pos rfl] at parsed
    split at parsed
    · rename_i head tail parts
      split at parsed
      · rename_i legal
        cases parsed
        obtain ⟨phase, rfl⟩ := phase_of_mem legal.1
        have slash : name = phase.text ++ "/" ++ alarm := by
          apply Text.toList_injective
          rw [(Text.splitOnce_eq_some.1 parts).1]
          simp [String.toList_append]
        refine ⟨.vebusPhaseAlarm phase ⟨alarm, legal.2⟩, rfl, ?_, rfl⟩
        rw [whole, slash, Leaf.path, String.append_assoc, String.append_assoc, String.append_assoc]
      · cases parsed
    · cases parsed
      exact ⟨.vebusAlarm ⟨name, known⟩, rfl, whole.symm, rfl⟩
  · have service_eq : service = "battery" := battery
    subst service_eq
    rw [if_neg (by decide)] at parsed
    cases parsed
    exact ⟨.batteryAlarm ⟨name, known⟩, rfl, whole.symm, rfl⟩

/-- The leaf behind a system power path. -/
theorem leaf_of_systemPowerKind {text : String} {kind : MetricKind}
    (known : systemPowerKind text = some kind) :
    ∃ leaf : Leaf, leaf.service = "system" ∧ leaf.path = text ∧ leaf.kind = kind := by
  unfold systemPowerKind at known
  split at known
  · rename_i ac family phase power levels
    have whole : text = Text.joinAt '/' [ac, family, phase, power] := by
      rw [← levels, Text.joinAt_split]
    split at known
    · cases known
    rename_i frame
    rw [not_or, not_not, not_not] at frame
    obtain ⟨rfl, rfl⟩ := frame
    split at known
    · rename_i pv
      cases known
      simp only [List.mem_cons, List.not_mem_nil, or_false] at pv
      rcases pv with ⟨rfl | rfl | rfl, rfl | rfl | rfl | rfl⟩
      · exact ⟨.acPv .onGrid (some .l1), rfl, by rw [whole]; decide, rfl⟩
      · exact ⟨.acPv .onGrid (some .l2), rfl, by rw [whole]; decide, rfl⟩
      · exact ⟨.acPv .onGrid (some .l3), rfl, by rw [whole]; decide, rfl⟩
      · exact ⟨.acPv .onGrid none, rfl, by rw [whole]; decide, rfl⟩
      · exact ⟨.acPv .onOutput (some .l1), rfl, by rw [whole]; decide, rfl⟩
      · exact ⟨.acPv .onOutput (some .l2), rfl, by rw [whole]; decide, rfl⟩
      · exact ⟨.acPv .onOutput (some .l3), rfl, by rw [whole]; decide, rfl⟩
      · exact ⟨.acPv .onOutput none, rfl, by rw [whole]; decide, rfl⟩
      · exact ⟨.acPv .onGenset (some .l1), rfl, by rw [whole]; decide, rfl⟩
      · exact ⟨.acPv .onGenset (some .l2), rfl, by rw [whole]; decide, rfl⟩
      · exact ⟨.acPv .onGenset (some .l3), rfl, by rw [whole]; decide, rfl⟩
      · exact ⟨.acPv .onGenset none, rfl, by rw [whole]; decide, rfl⟩
    split at known
    · rename_i load
      cases known
      obtain ⟨phase, rfl⟩ := phase_of_mem load.2
      have part := load.1
      simp only [List.mem_cons, List.not_mem_nil, or_false] at part
      rcases part with rfl | rfl | rfl
      · exact ⟨.load .total phase, rfl, by rw [whole]; cases phase <;> decide, rfl⟩
      · exact ⟨.load .onInput phase, rfl, by rw [whole]; cases phase <;> decide, rfl⟩
      · exact ⟨.load .onOutput phase, rfl, by rw [whole]; cases phase <;> decide, rfl⟩
    split at known
    · rename_i grid
      cases known
      obtain ⟨rfl, listed⟩ := grid
      obtain ⟨phase, rfl⟩ := phase_of_mem listed
      exact ⟨.grid phase, rfl, by rw [whole]; cases phase <;> decide, rfl⟩
    · cases known
  · cases known

theorem leafKind_eq_some {service text : String} {kind : MetricKind} :
    leafKind service text = some kind ↔
      ∃ leaf : Leaf, leaf.service = service ∧ leaf.path = text ∧ leaf.kind = kind := by
  constructor
  · intro known
    unfold leafKind at known
    simp only [List.mem_cons, List.not_mem_nil, or_false, Prod.mk.injEq] at known
    split at known
    · rename_i soc
      cases known
      rcases soc with ⟨rfl, rfl⟩ | ⟨rfl, rfl⟩ | ⟨rfl, rfl⟩
      · exact ⟨.systemSoc, rfl, rfl, rfl⟩
      · exact ⟨.batterySoc, rfl, rfl, rfl⟩
      · exact ⟨.vebusSoc, rfl, rfl, rfl⟩
    split at known
    · rename_i power
      cases known
      obtain ⟨rfl, rfl⟩ := power
      exact ⟨.batteryPower, rfl, rfl, rfl⟩
    split at known
    · rename_i solar
      cases known
      rcases solar with ⟨rfl, rfl⟩ | ⟨rfl, rfl⟩ | ⟨rfl, rfl⟩ | ⟨rfl, rfl⟩ | ⟨rfl, rfl⟩ | ⟨rfl, rfl⟩
      · exact ⟨.dcPv, rfl, rfl, rfl⟩
      · exact ⟨.chargerPower, rfl, rfl, rfl⟩
      · exact ⟨.inverterPower none, rfl, rfl, rfl⟩
      · exact ⟨.inverterPower (some .l1), rfl, by decide, rfl⟩
      · exact ⟨.inverterPower (some .l2), rfl, by decide, rfl⟩
      · exact ⟨.inverterPower (some .l3), rfl, by decide, rfl⟩
    split at known
    · rename_i yield
      cases known
      rcases yield with ⟨rfl, rfl⟩ | ⟨rfl, rfl⟩
      · exact ⟨.chargerYield, rfl, rfl, rfl⟩
      · exact ⟨.inverterYield, rfl, rfl, rfl⟩
    split at known
    · rename_i alarm
      cases known
      exact leaf_of_alarmLabel alarm.2
    split at known
    · rename_i system
      subst system
      exact leaf_of_systemPowerKind known
    · cases known
  · rintro ⟨leaf, rfl, rfl, rfl⟩
    exact leafKind_of_leaf leaf

/-! ## Sources and their texts -/

/-- The accepted instances are the decimals that fit 32 bits. -/
theorem canonicalInstance_iff {inst : String} :
    canonicalInstance inst = true ↔ ∃ n, n < 2 ^ 32 ∧ toString n = inst := by
  constructor
  · intro canonical
    simp only [canonicalInstance, Bool.and_eq_true, Bool.not_eq_true', List.all_eq_true] at canonical
    obtain ⟨⟨digits, leading⟩, fits⟩ := canonical
    obtain ⟨value, parsed⟩ := Option.isSome_iff_exists.1 fits
    have nonempty : inst.toList ≠ [] := by
      intro empty
      simp [Text.parseU32, Text.parseUnsigned, empty] at parsed
    have small : Text.digitsValue inst.toList < 2 ^ 32 := by
      by_contra large
      rw [Text.parseU32, Text.parseUnsigned_of_digits ⟨nonempty, digits⟩, if_neg large] at parsed
      cases parsed
    refine ⟨Text.digitsValue inst.toList, small, ?_⟩
    apply Text.toList_injective
    rw [Nat.toString_eq_repr, Nat.toList_repr]
    refine Text.toDigits_digitsValue nonempty digits fun long zero => ?_
    have starts : Text.startsWith inst "0" = true := by
      rw [Text.startsWith_iff]
      cases chars : inst.toList with
      | nil => exact absurd chars nonempty
      | cons c rest =>
          rw [chars] at zero
          cases zero
          exact ⟨rest, rfl⟩
    rw [starts, decide_eq_true long] at leading
    cases leading
  · rintro ⟨n, fits, rfl⟩
    obtain ⟨nonempty, digits⟩ := Text.digits_toString n
    have parsed : Text.parseU32 (toString n) = some n := Text.parseUnsigned_toString fits
    have leading : 1 < (toString n).toList.length → Text.startsWith (toString n) "0" = false := by
      intro long
      by_contra zero
      rw [Bool.not_eq_false, Text.startsWith_iff] at zero
      obtain ⟨rest, whole⟩ := zero
      exact Text.toString_leading long (by rw [← whole]; rfl)
    simp only [canonicalInstance, Bool.and_eq_true, Bool.not_eq_true', List.all_eq_true, parsed,
      Option.isSome_some, and_true]
    refine ⟨digits, ?_⟩
    by_cases long : 1 < (toString n).toList.length
    · rw [leading long, Bool.and_false]
    · rw [decide_eq_false long, Bool.false_and]

end InverterGateway.Gateway

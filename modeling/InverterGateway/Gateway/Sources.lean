/-
# Gateway.Sources — the configured energy sources and their validation

A list of sources is one text: items between commas, trimmed, each of the kind
its metric asks for, sorted and free of duplicates.  Solar power lists must not
add one array twice, and the flow lists must come from one system.
`parseSources_eq_ok` says when a text is accepted and which list it becomes.
-/
import InverterGateway.Gateway.EnergyPath
import InverterGateway.Gateway.Metric
import InverterGateway.Theory.Fallible
import InverterGateway.Theory.Fields
import Mathlib.Data.List.Sort
import Mathlib.Data.String.Basic

namespace InverterGateway.Gateway

open InverterGateway.Theory

set_option autoImplicit false

/-- The message of a rejected configuration. -/
abbrev ConfigError := String

/-- `if refused { return Err(message.into()); }`. -/
def check (refused : Bool) (message : String) : Except ConfigError Unit :=
  if refused then .error message else .ok ()

@[simp] theorem check_eq_ok {refused : Bool} {message : String} {u : Unit} :
    check refused message = .ok u ↔ refused = false := by
  cases refused <;> simp [check]

theorem accepted_of_isOk {α : Type} {x : Except ConfigError α} (ok : x.isOk = true) :
    ∃ a, x = .ok a := by
  cases x with
  | ok a => exact ⟨a, rfl⟩
  | error message => cases ok

/-! ## One list -/

/-- The kind of a source: a service and a path below it. -/
def sourceKind (source : String) : Option MetricKind :=
  (Text.splitOnce source '/').bind fun parts => metricKind parts.1 parts.2

/-- The loop over the items of a list. -/
def acceptSources (kind : MetricKind) : List String → Except ConfigError (List String)
  | [] => .ok []
  | source :: rest =>
      if sourceKind source = some kind then (acceptSources kind rest).map (source :: ·)
      else .error ("unsupported energy source: " ++ source)

/-- `sources.windows(2).any(|pair| pair[0] == pair[1])`. -/
def adjacentEqual : List String → Bool
  | a :: b :: rest => a == b || adjacentEqual (b :: rest)
  | _ => false

/-- `sources.sort()`.  It stays folded in proofs, which use `sorted_perm` and
`sorted_pairwise`. -/
@[irreducible] def sorted (sources : List String) : List String := sources.insertionSort (· ≤ ·)

/-- `energy::parse_sources`. -/
def parseSources (raw : String) (kind : MetricKind) : Except ConfigError (List String) :=
  if (Text.trim raw).toList = [] then .ok []
  else do
    let sources ← acceptSources kind ((Text.split raw ',').map Text.trim)
    check (adjacentEqual (sorted sources)) "duplicate energy sources would double count readings"
    .ok (sorted sources)

/-- The items of a list: none in a blank text, else the trimmed texts between the commas. -/
def items (raw : String) : List String :=
  if (Text.trim raw).toList = [] then [] else (Text.split raw ',').map Text.trim

theorem acceptSources_eq_ok {kind : MetricKind} {sources accepted : List String} :
    acceptSources kind sources = .ok accepted ↔
      accepted = sources ∧ ∀ source ∈ sources, sourceKind source = some kind := by
  induction sources generalizing accepted with
  | nil => simp [acceptSources, eq_comm]
  | cons source rest ih =>
      by_cases known : sourceKind source = some kind
      · simp only [acceptSources, List.forall_mem_cons, known, true_and]
        constructor
        · intro accept
          cases step : acceptSources kind rest with
          | error message => rw [step] at accept; cases accept
          | ok tail =>
              rw [step] at accept
              cases accept
              obtain ⟨rfl, others⟩ := ih.1 step
              exact ⟨rfl, others⟩
        · rintro ⟨rfl, others⟩
          rw [ih.2 ⟨rfl, others⟩]
          rfl
      · simp [acceptSources, known]

theorem sorted_perm (sources : List String) : (sorted sources).Perm sources := by
  rw [sorted]
  exact List.perm_insertionSort _ sources

theorem sorted_pairwise (sources : List String) : (sorted sources).Pairwise (· ≤ ·) := by
  rw [sorted]
  exact List.pairwise_insertionSort _ sources

/-- A list of texts has one sorted form. -/
theorem sorted_eq_of_perm {l l' : List String} (perm : l.Perm l') : sorted l = sorted l' :=
  ((sorted_perm l).trans (perm.trans (sorted_perm l').symm)).eq_of_pairwise'
    (sorted_pairwise l) (sorted_pairwise l')

/-- In a sorted list, duplicates are neighbours. -/
theorem adjacentEqual_eq_false {l : List String} (order : l.Pairwise (· ≤ ·)) :
    adjacentEqual l = false ↔ l.Nodup := by
  induction l with
  | nil => simp [adjacentEqual]
  | cons a rest ih =>
      obtain ⟨least, tail⟩ := List.pairwise_cons.1 order
      cases rest with
      | nil => simp [adjacentEqual]
      | cons b rest =>
          have step : adjacentEqual (a :: b :: rest) = (a == b || adjacentEqual (b :: rest)) := rfl
          rw [step, Bool.or_eq_false_iff, beq_eq_false_iff_ne, ih tail, List.nodup_cons (a := a)]
          constructor
          · rintro ⟨different, distinct⟩
            refine ⟨fun again => ?_, distinct⟩
            have below := (List.pairwise_cons.1 tail).1
            rcases List.mem_cons.1 again with same | later
            · exact different same
            · exact different (le_antisymm (least b List.mem_cons_self) (below a later))
          · rintro ⟨fresh, distinct⟩
            exact ⟨fun same => fresh (by rw [same]; exact List.mem_cons_self), distinct⟩

/-- **Acceptance of a list**: every item has the kind, none occurs twice, and the
result is the items in order. -/
theorem parseSources_eq_ok {raw : String} {kind : MetricKind} {sources : List String} :
    parseSources raw kind = .ok sources ↔
      sources = sorted (items raw) ∧ (∀ item ∈ items raw, sourceKind item = some kind) ∧
        (items raw).Nodup := by
  unfold parseSources items
  by_cases blank : (Text.trim raw).toList = []
  · simp [blank, sorted, eq_comm]
  · simp only [if_neg blank, bind_eq_ok, acceptSources_eq_ok, check_eq_ok, Except.ok.injEq]
    have distinct := adjacentEqual_eq_false (sorted_pairwise ((Text.split raw ',').map Text.trim))
    rw [(sorted_perm _).nodup_iff] at distinct
    constructor
    · rintro ⟨_, ⟨rfl, known⟩, _, unique, rfl⟩
      exact ⟨rfl, known, distinct.1 unique⟩
    · rintro ⟨rfl, known, unique⟩
      exact ⟨_, ⟨rfl, known⟩, (), distinct.2 unique, rfl⟩

/-! ## The whole configuration -/

/-- The total power a source stands for, as the stem of its phase readings. -/
def phasePrefix (source : String) : Option String :=
  match Text.stripSuffix source "/Total/Power" with
  | some stem => some (stem ++ "/L")
  | none => (Text.stripSuffix source "/Ac/Power").map fun stem => stem ++ "/Ac/L"

/-- `source.split('/').nth(1)`. -/
def instanceOf (source : String) : Option String := (Text.split source '/')[1]?

/-- Whether the first of some instances differs from a later one. -/
def mixed (instances : List String) : Bool :=
  match instances with
  | [] => false
  | first :: rest => rest.any fun inst => inst != first

/-- `energy::validate_power_overlap`. -/
def validatePowerOverlap (sources : List String) : Except ConfigError Unit := do
  let systemDc := sources.any fun s => Text.endsWith s "/Dc/Pv/Power"
  let chargers := sources.any fun s => Text.startsWith s "solarcharger/"
  let systemAc := sources.any fun s => Text.contains s "/Ac/PvOn"
  let inverters := sources.any fun s => Text.startsWith s "pvinverter/"
  check (systemDc && chargers || systemAc && inverters)
    "solar power sources must not combine a system aggregate with its device readings"
  check (sources.any fun source => (phasePrefix source).any fun stem =>
      sources.any fun s => Text.startsWith s stem)
    "solar power sources must not combine total power with its phase readings"
  check (mixed ((sources.filter fun s => Text.startsWith s "system/").filterMap instanceOf))
    "solar power system aggregates must use one system instance"

/-- `EnergyConfig::parse`. -/
def EnergyConfig.parse (battery power today maxAge : String) : Except ConfigError EnergyConfig := do
  let batterySources ← parseSources battery .battery
  check (decide (1 < batterySources.length))
    "GATEWAY_ENERGY_BATTERY_SOURCE must select exactly one battery source"
  let solarPowerSources ← parseSources power .power
  validatePowerOverlap solarPowerSources
  let solarTodaySources ← parseSources today .today
  match Text.parseU64 maxAge with
  | none => .error "invalid GATEWAY_ENERGY_MAX_AGE_SECS"
  | some seconds =>
      check (seconds == 0) "GATEWAY_ENERGY_MAX_AGE_SECS must be greater than zero"
      .ok { batterySources, solarPowerSources, solarTodaySources, maxAge := secs seconds }

/-- `EnergyConfig::with_alarm_sources`. -/
def EnergyConfig.withAlarmSources (cfg : EnergyConfig) (raw : String) :
    Except ConfigError EnergyConfig := do
  let alarmSources ← parseSources raw .alarm
  .ok { cfg with alarmSources }

/-- Whether a consumption total stands beside one of its components. -/
def combinesConsumption (load : List String) : Bool :=
  load.any fun source => (Text.splitOnceText source "/Ac/Consumption/").any fun parts =>
    ["ConsumptionOnInput", "ConsumptionOnOutput"].any fun component =>
      load.contains (parts.1 ++ "/Ac/" ++ component ++ "/" ++ parts.2)

/-- `EnergyConfig::with_flow_sources`. -/
def EnergyConfig.withFlowSources (cfg : EnergyConfig) (load grid battery : String) :
    Except ConfigError EnergyConfig := do
  let loadPowerSources ← parseSources load .loadPower
  let gridPowerSources ← parseSources grid .gridPower
  let batteryPowerSources ← parseSources battery .batteryPower
  check (decide (1 < batteryPowerSources.length))
    "GATEWAY_ENERGY_BATTERY_POWER_SOURCE must select one system battery"
  check (mixed ((loadPowerSources ++ gridPowerSources ++ batteryPowerSources).filterMap instanceOf))
    "energy flow sources must use one system instance"
  check (combinesConsumption loadPowerSources)
    "AC consumption must not combine a phase total with its input or output component"
  .ok { cfg with loadPowerSources, gridPowerSources, batteryPowerSources }

end InverterGateway.Gateway

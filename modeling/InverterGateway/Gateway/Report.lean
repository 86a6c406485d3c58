/-
# Gateway.Report — the energy response and its English reports

The spoken texts of `energy.rs`: amounts, one report per metric, the power-flow
report, and the status reports that join them with the alarm report.  Every
number spoken here is a metric value, so it is finite and not negative
(`metric_presentable`), and its text has digits and units only (`Quiet`).
-/
import InverterGateway.Gateway.Alarms

namespace InverterGateway.Gateway

open InverterGateway.Theory

set_option autoImplicit false

inductive EnergyLocale where
  | en
  | ru
  deriving DecidableEq

structure Metrics (F : Type) where
  batterySoc : Metric F
  solarPower : Metric F
  solarToday : Metric F
  loadPower : Option (Metric F)
  gridPower : Option (Metric F)
  batteryPower : Option (Metric F)

structure Reports where
  battery : Report
  solar : Report
  solarToday : Report
  alarms : Report
  status : Report
  flow : Option Report

structure EnergyResponse (F : Type) where
  schemaVersion : Nat
  locale : EnergyLocale
  generatedAt : Nat
  mqttConnected : Bool
  metrics : Metrics F
  alarms : Alarms
  reports : Reports

/-- `worst_status`. -/
def worstStatus (statuses : List Status) : Status :=
  if statuses.contains .unavailable then .unavailable
  else if statuses.contains .stale then .stale
  else if statuses.contains .unconfigured then .unconfigured
  else .fresh

/-- The trailing zeros of a decimal, and then its point, are not spoken. -/
def trimDecimal (text : String) : String :=
  if Text.containsChar text '.' then
    Text.trimEndMatches (Text.trimEndMatches text '0') '.'
  else text

section Speech

variable {F : Type} [Binary64 F]

/-- `energy::decimal`. -/
def decimal (value : F) (digits : Nat) : String :=
  let value := Binary64.normalizeZero value
  let text := trimDecimal (Binary64.fixed value digits)
  if Binary64.le (Binary64.ofNat 1000000000) value then
    match Text.splitOnce (Binary64.scientific value digits) 'e' with
    | some (coefficient, exponent) =>
        trimDecimal coefficient ++ " times ten to the power of " ++ exponent
    | none => text
  else text

/-- The number and the plural unit of an amount. -/
def amountAndUnit (value : F) (unit : String) : String × String :=
  match unit with
  | "%" => (decimal value 1, "percent")
  | "W" =>
      if Binary64.le (Binary64.ofNat 1000) value then
        (decimal (Binary64.div value (Binary64.ofNat 1000)) 2, "kilowatts")
      else (decimal value 0, "watts")
  | _ => (decimal value 2, "kilowatt hours")

/-- `spoken_amount`. -/
def spokenAmount (value : F) (unit : String) : String :=
  let (amount, unit) := amountAndUnit value unit
  let unit :=
    if amount = "1" then
      match unit with
      | "watts" => "watt"
      | "kilowatts" => "kilowatt"
      | "kilowatt hours" => "kilowatt hour"
      | _ => unit
    else unit
  amount ++ " " ++ unit

/-- `energy::report`. -/
def report (metric : Metric F) (label : String) (connected : Bool) : Report :=
  { text :=
      match metric.status, metric.value with
      | .fresh, some value => label ++ " is " ++ spokenAmount value metric.unit ++ "."
      | .unconfigured, _ => label ++ " is not configured."
      | .stale, _ => label ++ " data is stale. Please try again after telemetry updates."
      | _, _ =>
          if !connected then
            label ++ " is unavailable because the gateway is disconnected from Cerbo GX."
          else label ++ " is unavailable because current telemetry is missing or invalid."
    status := metric.status
    briefText := none }

/-- `brief_metric`. -/
def briefMetric (metric : Metric F) (detailed : Report) (label : String) : String :=
  match metric.status, metric.value with
  | .fresh, some value => label ++ " " ++ spokenAmount value metric.unit ++ "."
  | _, _ => detailed.text

/-- `directional_power_report`. -/
def directionalPowerReport (metric : Metric F) (grid : Bool) : Report :=
  let label := if grid then "Net grid power" else "System battery power"
  match metric.status, metric.value with
  | .fresh, some value =>
      let magnitude := Binary64.abs value
      let amount :=
        if Binary64.lt (Binary64.ofNat 0) magnitude && Binary64.lt magnitude (Binary64.ofNat 1) then
          "less than 1 watt"
        else spokenAmount magnitude "W"
      { text :=
          if Binary64.eq value (Binary64.ofNat 0) then label ++ " is 0 watts."
          else
            match grid, Binary64.totalCmp value (Binary64.ofNat 0) with
            | true, .gt => "Net grid import is " ++ amount ++ "."
            | true, _ => "Net grid export is " ++ amount ++ "."
            | false, .gt => "System battery is charging at " ++ amount ++ "."
            | false, _ => "System battery is discharging at " ++ amount ++ "."
        status := metric.status
        briefText := none }
  | _, _ => report metric label true

/-- `flow_report`. -/
def flowReport (load grid battery : Metric F) (connected : Bool) : Report :=
  if !connected then
    { text := "Energy flow is unavailable because the gateway is disconnected from Cerbo GX."
      status := .unavailable
      briefText := none }
  else
    { text := (report load "Configured AC consumption" connected).text ++ " " ++
        (directionalPowerReport grid true).text ++ " " ++ (directionalPowerReport battery false).text
      status := worstStatus [load.status, grid.status, battery.status]
      briefText := none }

/-- Whether today's solar energy comes from solar chargers only. -/
def chargersOnly (sources : List String) : Bool :=
  !sources.isEmpty && sources.all fun source => Text.startsWith source "solarcharger/"

/-- The metrics of a response. -/
def Metrics.build (cfg : EnergyConfig) (connected : Bool) (readings : Table (Reading F))
    (now : Instant) : Metrics F :=
  { batterySoc := metric cfg.batterySources "%" connected readings now cfg.maxAge
    solarPower := metric cfg.solarPowerSources "W" connected readings now cfg.maxAge
    solarToday := metric cfg.solarTodaySources "kWh" connected readings now cfg.maxAge
    loadPower :=
      if cfg.flowEnabled then
        some (metric cfg.loadPowerSources "W" connected readings now cfg.maxAge)
      else none
    gridPower :=
      if cfg.flowEnabled then
        some (signedPowerMetric cfg.gridPowerSources connected readings now cfg.maxAge)
      else none
    batteryPower :=
      if cfg.flowEnabled then
        some (signedPowerMetric cfg.batteryPowerSources connected readings now cfg.maxAge)
      else none }

/-- What every status text says without a connection. -/
def disconnectedText : String :=
  "Energy data is unavailable because the gateway is disconnected from Cerbo GX."

/-- `EnergyResponse::build`. -/
def EnergyResponse.build (cfg : EnergyConfig) (connected : Bool) (readings : Table (Reading F))
    (now : Instant) (generatedAt : Nat) : EnergyResponse F :=
  let metrics := Metrics.build cfg connected readings now
  let flow :=
    match metrics.loadPower, metrics.gridPower, metrics.batteryPower with
    | some load, some grid, some battery => some (flowReport load grid battery connected)
    | _, _, _ => none
  let battery := report metrics.batterySoc "Battery charge" connected
  let solar := report metrics.solarPower "Solar power" connected
  let chargers := chargersOnly cfg.solarTodaySources
  let dailyLabel := if chargers then "Solar charger generation today" else "Solar generation today"
  let solarToday := report metrics.solarToday dailyLabel connected
  let alarms := Alarms.build cfg connected readings now
  let alarmReport := alarms.report connected
  let parts :=
    [briefMetric metrics.batterySoc battery "Battery", briefMetric metrics.solarPower solar "Solar",
      briefMetric metrics.solarToday solarToday
        (if chargers then "Solar chargers today" else "Solar today")]
  let status : Report :=
    { briefText := some (
        if connected then
          -- the alarm report comes first when alarms are active
          Text.joinSpace (
            if alarms.active.isEmpty then parts ++ [alarmReport.text] else alarmReport.text :: parts)
        else disconnectedText)
      status :=
        if connected then
          worstStatus [battery.status, solar.status, solarToday.status, alarmReport.status]
        else .unavailable
      text :=
        if connected then
          battery.text ++ " " ++ solar.text ++ " " ++ solarToday.text ++ " " ++ alarmReport.text
        else disconnectedText }
  { schemaVersion := 1
    locale := .en
    generatedAt := generatedAt
    mqttConnected := connected
    metrics := metrics
    alarms := alarms
    reports :=
      { battery := battery
        solar := solar
        solarToday := solarToday
        alarms := alarmReport
        status := status
        flow := flow } }

end Speech

/-! ## The values that are spoken -/

section Lawful

variable {F : Type} [Binary64 F] [Binary64.Lawful F]

theorem total_nonneg {values : List F}
    (each : ∀ x ∈ values, Binary64.le (Binary64.ofNat 0) x = true) :
    Binary64.le (Binary64.ofNat 0) (total values) = true := by
  have general : ∀ start : F, Binary64.le (Binary64.ofNat 0) start = true →
      Binary64.le (Binary64.ofNat 0) (values.foldl Binary64.add start) = true := by
    induction values with
    | nil => exact fun _ nonneg => nonneg
    | cons x rest ih =>
        intro start nonneg
        obtain ⟨here, later⟩ := List.forall_mem_cons.1 each
        exact ih later _ (Binary64.Lawful.add_nonneg start x nonneg here)
  exact general _ Binary64.Lawful.le_zero

theorem metric_presentable {sources : List String} {unit : String} {connected : Bool}
    {readings : Table (Reading F)} {now : Instant} {maxAge : Duration} {v : F}
    (spoken : (metric sources unit connected readings now maxAge).value = some v) :
    Binary64.Presentable v := by
  obtain ⟨finite, rfl⟩ := collectMetric_value spoken
  refine .of_le finite (total_nonneg fun x found => ?_)
  obtain ⟨source, -, value⟩ := List.mem_filterMap.1 found
  unfold sourceValue at value
  obtain ⟨-, ok⟩ := Option.filter_eq_some_iff.1 value
  simp only [admits, Bool.false_or, Bool.and_eq_true] at ok
  exact ok.1.2

/-! ## Quiet texts -/

theorem Quiet.of_subset {s t : String} (quiet : Quiet t) (kept : s.toList ⊆ t.toList) : Quiet s :=
  fun found => quiet (kept found)

theorem quiet_trimDecimal {s : String} (quiet : Quiet s) : Quiet (trimDecimal s) := by
  unfold trimDecimal
  split
  · exact quiet.of_subset
      (((Text.trimEndMatches_prefix _ _).trans (Text.trimEndMatches_prefix _ _)).subset)
  · exact quiet

theorem quiet_fraction {digits : Nat} {s : String} (shape : Binary64.FractionText digits s) :
    Quiet s := by
  unfold Binary64.FractionText at shape
  split at shape
  · subst shape; exact quiet_literal rfl rfl
  · obtain ⟨fraction, rfl, all, -⟩ := shape
    rw [quiet_append]
    exact ⟨quiet_literal rfl rfl, .of_digits all⟩

theorem quiet_decimal {value : F} (present : Binary64.Presentable value) (digits : Nat) :
    Quiet (decimal value digits) := by
  obtain ⟨finite, unsigned⟩ := present.normalizeZero
  unfold decimal
  dsimp only
  cases large : Binary64.le (Binary64.ofNat 1000000000) (Binary64.normalizeZero value) with
  | true =>
      obtain ⟨lead, fraction, exponent, same, leadDigits, -, fractionText, exponentDigits, -⟩ :=
        Binary64.Lawful.scientific_text (Binary64.normalizeZero value) digits finite large
      have quiet : Quiet (Binary64.scientific (Binary64.normalizeZero value) digits) := by
        rw [same, quiet_append, quiet_append, quiet_append]
        exact ⟨⟨⟨.of_digits leadDigits, quiet_fraction fractionText⟩, quiet_literal rfl rfl⟩,
          .of_digits exponentDigits⟩
      simp only [if_true]
      split
      · rename_i coefficient power parts
        obtain ⟨whole, -⟩ := Text.splitOnce_eq_some.1 parts
        have coefficientQuiet : Quiet coefficient :=
          quiet.of_subset (by rw [whole]; exact List.subset_append_left _ _)
        have powerQuiet : Quiet power :=
          quiet.of_subset (by rw [whole]; exact fun _ found => by simp [found])
        rw [quiet_append, quiet_append]
        exact ⟨⟨quiet_trimDecimal coefficientQuiet, quiet_literal rfl rfl⟩, powerQuiet⟩
      · rename_i unsplit
        have letter : 'e' ∈ (Binary64.scientific (Binary64.normalizeZero value) digits).toList := by
          have e : "e".toList = ['e'] := by decide
          simp [same, String.toList_append, e]
        exact absurd letter (Text.splitOnce_eq_none.1 unsplit)
  | false =>
      obtain ⟨whole, fraction, same, wholeDigits, -, fractionText⟩ :=
        Binary64.Lawful.fixed_text (Binary64.normalizeZero value) digits finite unsigned large
      simp only [Bool.false_eq_true, if_false]
      apply quiet_trimDecimal
      rw [same, quiet_append]
      exact ⟨.of_digits wholeDigits, quiet_fraction fractionText⟩

theorem quiet_spokenAmount {value : F} (present : Binary64.Presentable value) (unit : String) :
    Quiet (spokenAmount value unit) := by
  have parts : Quiet (amountAndUnit value unit).1 ∧ Quiet (amountAndUnit value unit).2 := by
    unfold amountAndUnit
    split
    · exact ⟨quiet_decimal present 1, (quiet_literal rfl rfl : Quiet "percent")⟩
    · split
      · rename_i large
        obtain ⟨finite, pos⟩ := Binary64.Lawful.div_thousand value present.1 large
        exact ⟨quiet_decimal ⟨finite, Or.inr pos⟩ 2, (quiet_literal rfl rfl : Quiet "kilowatts")⟩
      · exact ⟨quiet_decimal present 0, (quiet_literal rfl rfl : Quiet "watts")⟩
    · exact ⟨quiet_decimal present 2, (quiet_literal rfl rfl : Quiet "kilowatt hours")⟩
  unfold spokenAmount
  rw [quiet_append, quiet_append]
  refine ⟨⟨parts.1, quiet_literal rfl rfl⟩, ?_⟩
  split
  · split
    · exact quiet_literal rfl rfl
    · exact quiet_literal rfl rfl
    · exact quiet_literal rfl rfl
    · exact parts.2
  · exact parts.2

theorem quiet_report {m : Metric F} (present : ∀ v, m.value = some v → Binary64.Presentable v)
    {label : String} (quiet : Quiet label) (connected : Bool) :
    Quiet (report m label connected).text := by
  unfold report
  dsimp only
  split
  · rename_i value _ shown
    simp only [quiet_append]
    exact ⟨⟨⟨quiet, quiet_literal rfl rfl⟩, quiet_spokenAmount (present value shown) _⟩, quiet_literal rfl rfl⟩
  · rw [quiet_append]
    exact ⟨quiet, quiet_literal rfl rfl⟩
  · rw [quiet_append]
    exact ⟨quiet, quiet_literal rfl rfl⟩
  · split
    · rw [quiet_append]
      exact ⟨quiet, quiet_literal rfl rfl⟩
    · rw [quiet_append]
      exact ⟨quiet, quiet_literal rfl rfl⟩

theorem quiet_briefMetric {m : Metric F}
    (present : ∀ v, m.value = some v → Binary64.Presentable v) {detailed : Report}
    (detailedQuiet : Quiet detailed.text) {label : String} (quiet : Quiet label) :
    Quiet (briefMetric m detailed label) := by
  unfold briefMetric
  split
  · rename_i value _ shown
    simp only [quiet_append]
    exact ⟨⟨⟨quiet, quiet_literal rfl rfl⟩, quiet_spokenAmount (present value shown) _⟩, quiet_literal rfl rfl⟩
  · exact detailedQuiet

theorem forall_mem_three {P : String → Prop} {a b c : String} (first : P a) (second : P b)
    (third : P c) : ∀ s ∈ [a, b, c], P s :=
  List.forall_mem_cons.2 ⟨first, List.forall_mem_cons.2 ⟨second, by simpa using third⟩⟩

/-- The English texts stay quiet unless nothing is wrong. -/
theorem EnergyResponse.build_quiet (cfg : EnergyConfig) (connected : Bool)
    (readings : Table (Reading F)) (now : Instant) (generatedAt : Nat)
    (wrong : ¬((Alarms.build cfg connected readings now).status = .fresh ∧
      (Alarms.build cfg connected readings now).active = [])) :
    let reports := (EnergyResponse.build cfg connected readings now generatedAt).reports
    Quiet reports.alarms.text ∧ Quiet reports.status.text ∧
      ∀ brief, reports.status.briefText = some brief → Quiet brief := by
  intro reports
  have alarms : Quiet reports.alarms.text :=
    Alarms.report_quiet connected
      (fun alarm found => sourceLabel_quiet (Alarms.build_labels cfg connected readings now alarm found))
      wrong
  have each : ∀ (sources : List String) (unit label : String), Quiet label →
      Quiet (report (metric sources unit connected readings now cfg.maxAge) label connected).text :=
    fun _ _ _ quiet => quiet_report (fun _ shown => metric_presentable shown) quiet connected
  have brief : ∀ (sources : List String) (unit label short : String), Quiet label → Quiet short →
      Quiet (briefMetric (metric sources unit connected readings now cfg.maxAge)
        (report (metric sources unit connected readings now cfg.maxAge) label connected) short) :=
    fun sources unit label _ quiet shortQuiet =>
      quiet_briefMetric (fun _ shown => metric_presentable shown) (each sources unit label quiet)
        shortQuiet
  have daily : Quiet (if chargersOnly cfg.solarTodaySources then "Solar charger generation today"
      else "Solar generation today") := by
    split <;> exact quiet_literal rfl rfl
  have dailyShort : Quiet (if chargersOnly cfg.solarTodaySources then "Solar chargers today"
      else "Solar today") := by
    split <;> exact quiet_literal rfl rfl
  refine ⟨alarms, ?_, fun text shown => ?_⟩
  · show Quiet (if connected then _ else disconnectedText)
    split
    · simp only [quiet_append]
      exact ⟨⟨⟨⟨⟨⟨each _ _ _ (quiet_literal rfl rfl), quiet_literal rfl rfl⟩, each _ _ _ (quiet_literal rfl rfl)⟩, quiet_literal rfl rfl⟩,
        each _ _ _ daily⟩, quiet_literal rfl rfl⟩, alarms⟩
    · exact quiet_literal rfl rfl
  · have same : text = if connected then _ else disconnectedText := (Option.some.inj shown).symm
    rw [same]
    split
    · apply quiet_joinSpace
      intro s found
      have parts := forall_mem_three (P := Quiet)
        (brief cfg.batterySources "%" "Battery charge" "Battery" (quiet_literal rfl rfl) (quiet_literal rfl rfl))
        (brief cfg.solarPowerSources "W" "Solar power" "Solar" (quiet_literal rfl rfl) (quiet_literal rfl rfl))
        (brief cfg.solarTodaySources "kWh" _ _ daily dailyShort)
      split at found
      · rw [List.mem_append, List.mem_singleton] at found
        rcases found with part | rfl
        · exact parts s part
        · exact alarms
      · rcases List.mem_cons.1 found with rfl | part
        · exact alarms
        · exact parts s part
    · exact quiet_literal rfl rfl

end Lawful

end InverterGateway.Gateway

/-
# Gateway.Locales — the facts of a whole response

`Facts` collects what a response says; `Facts.english` and `Facts.russian` put
one value of it into all the texts of a response.  The English reports are the
first and the localized ones the second of the same facts, and localizing
changes nothing but words.
-/
import InverterGateway.Gateway.Facts

namespace InverterGateway.Gateway

open InverterGateway.Theory

set_option autoImplicit false

/-! ## The facts of a response -/

inductive FlowFact where
  | disconnected
  | powers (load : MetricFact) (grid battery : PowerFact)

/-- Everything a response says. -/
structure Facts where
  connected : Bool
  chargers : Bool
  battery : MetricFact
  solar : MetricFact
  today : MetricFact
  alarms : AlarmFact
  /-- some alarm is active, so that the alarm report comes first -/
  alerting : Bool
  flow : Option FlowFact

/-- The texts of the reports. -/
structure Texts where
  battery : String
  solar : String
  solarToday : String
  alarms : String
  status : String
  brief : Option String
  flow : Option String

def Reports.texts (reports : Reports) : Texts where
  battery := reports.battery.text
  solar := reports.solar.text
  solarToday := reports.solarToday.text
  alarms := reports.alarms.text
  status := reports.status.text
  brief := reports.status.briefText
  flow := reports.flow.map Report.text

/-- The alarm report before the other parts while alarms are active, else after them. -/
def orderParts (alerting : Bool) (alarms : String) (parts : List String) : List String :=
  if alerting then alarms :: parts else parts ++ [alarms]

def FlowFact.english : FlowFact → String
  | .disconnected => "Energy flow is unavailable because the gateway is disconnected from Cerbo GX."
  | .powers load grid battery =>
      load.english "Configured AC consumption" ++ " " ++ grid.english true ++ " " ++
        battery.english false

def FlowFact.russian : FlowFact → Option String
  | .disconnected => some "Данные о потоках энергии недоступны: нет связи с Cerbo GX."
  | .powers load grid battery => do
      let load ← load.russian "Выбранные нагрузки переменного тока"
      let grid ← grid.russian true
      let battery ← battery.russian false
      some (load ++ " " ++ grid ++ " " ++ battery)

/-- The Russian flow text, when there is one. -/
def flowWords : Option FlowFact → Option (Option String)
  | some flow => flow.russian.map some
  | none => some none

/-- What solar energy today is called, in full and in brief. -/
def englishToday (chargers : Bool) : String :=
  if chargers then "Solar charger generation today" else "Solar generation today"

def englishTodayBrief (chargers : Bool) : String :=
  if chargers then "Solar chargers today" else "Solar today"

def russianToday (chargers : Bool) : String :=
  if chargers then "Выработка солнечных контроллеров сегодня" else "Солнечная выработка сегодня"

def russianTodayBrief (chargers : Bool) : String :=
  if chargers then "Солнечные контроллеры сегодня" else "Солнце сегодня"

def Facts.english (facts : Facts) : Texts :=
  let battery := facts.battery.english "Battery charge"
  let solar := facts.solar.english "Solar power"
  let today := facts.today.english (englishToday facts.chargers)
  let alarms := facts.alarms.english
  { battery := battery
    solar := solar
    solarToday := today
    alarms := alarms
    status :=
      if facts.connected then battery ++ " " ++ solar ++ " " ++ today ++ " " ++ alarms
      else disconnectedText
    brief := some (
      if facts.connected then
        Text.joinSpace (orderParts facts.alerting alarms
          [facts.battery.englishBrief "Battery charge" "Battery",
            facts.solar.englishBrief "Solar power" "Solar",
            facts.today.englishBrief (englishToday facts.chargers) (englishTodayBrief facts.chargers)])
      else disconnectedText)
    flow := facts.flow.map FlowFact.english }

def Facts.russian (facts : Facts) : Option Texts := do
  let battery ← facts.battery.russian "Заряд аккумулятора"
  let solar ← facts.solar.russian "Солнечная мощность"
  let today ← facts.today.russian (russianToday facts.chargers)
  let alarms ← facts.alarms.russian
  let batteryBrief ← facts.battery.russian "Аккумулятор"
  let solarBrief ← facts.solar.russian "Солнце"
  let todayBrief ← facts.today.russian (russianTodayBrief facts.chargers)
  let flow ← flowWords facts.flow
  some
    { battery := battery
      solar := solar
      solarToday := today
      alarms := alarms
      status :=
        if facts.connected then Text.joinSpace [battery, solar, today, alarms]
        else Russian.disconnectedText
      brief := some (
        if facts.connected then
          Text.joinSpace (orderParts facts.alerting alarms [batteryBrief, solarBrief, todayBrief])
        else Russian.disconnectedText)
      flow := flow }

section Responses

variable {F : Type} [Binary64 F]

def FlowFact.of (metrics : Metrics F) (connected : Bool) : Option FlowFact :=
  match metrics.loadPower, metrics.gridPower, metrics.batteryPower with
  | some load, some grid, some battery =>
      some (if connected then .powers (.of load true) (.of grid) (.of battery) else .disconnected)
  | _, _, _ => none

/-- The facts of a response: its metrics, its alarms and its connection. -/
def Facts.of (response : EnergyResponse F) : Facts where
  connected := response.mqttConnected
  chargers := chargersOnly response.metrics.solarToday.sources
  battery := .of response.metrics.batterySoc response.mqttConnected
  solar := .of response.metrics.solarPower response.mqttConnected
  today := .of response.metrics.solarToday response.mqttConnected
  alarms := .of response.alarms response.mqttConnected
  alerting := !response.alarms.active.isEmpty
  flow := FlowFact.of response.metrics response.mqttConnected

/-- A report without its words. -/
def Report.unworded (report : Report) : Report :=
  { report with text := "", briefText := report.briefText.map fun _ => "" }

/-- A response without its language: neither locale, texts nor alarm labels. -/
def EnergyResponse.unworded (response : EnergyResponse F) : EnergyResponse F :=
  { response with
    locale := .en
    alarms := response.alarms.relabel fun _ => ""
    reports :=
      { battery := response.reports.battery.unworded
        solar := response.reports.solar.unworded
        solarToday := response.reports.solarToday.unworded
        alarms := response.reports.alarms.unworded
        status := response.reports.status.unworded
        flow := response.reports.flow.map Report.unworded } }

/-- The facts do not depend on the language. -/
theorem facts_relabelled {response russian : EnergyResponse F}
    (unworded : russian.unworded = response.unworded)
    (alarms : russian.alarms = response.alarms.relabel Russian.alarmLabel) :
    Facts.of russian = Facts.of response := by
  have connected : russian.mqttConnected = response.mqttConnected := by
    have fields := congrArg EnergyResponse.mqttConnected unworded
    exact fields
  have metrics : russian.metrics = response.metrics := by
    have fields := congrArg EnergyResponse.metrics unworded
    exact fields
  have none : (response.alarms.relabel Russian.alarmLabel).active.isEmpty =
      response.alarms.active.isEmpty := List.isEmpty_map
  simp only [Facts.of, connected, metrics, alarms, alarmFact_relabel, none]

section Lawful

variable [Binary64.Lawful F] [Binary64.Ordered F]

theorem flowReport_eq (load : Metric F) {grid battery : Metric F}
    (grid_finite : ∀ v, grid.value = some v → Binary64.isFinite v = true)
    (battery_finite : ∀ v, battery.value = some v → Binary64.isFinite v = true) (connected : Bool) :
    (flowReport load grid battery connected).text =
      (if connected then FlowFact.powers (.of load true) (.of grid) (.of battery)
        else .disconnected).english := by
  unfold flowReport
  cases connected with
  | true =>
      simp only [Bool.not_true, Bool.false_eq_true, if_false, if_true, FlowFact.english, report_eq,
        directionalPowerReport_eq grid_finite, directionalPowerReport_eq battery_finite]
  | false => rfl

/-- **The English reports of a response state its facts.** -/
theorem build_english (cfg : EnergyConfig) (connected : Bool) (readings : Table (Reading F))
    (now : Instant) (generatedAt : Nat) :
    (Facts.of (EnergyResponse.build cfg connected readings now generatedAt)).english =
      (EnergyResponse.build cfg connected readings now generatedAt).reports.texts := by
  have spoken := Russian.spoken_build cfg connected readings now
  have labelled := Alarms.build_labels cfg connected readings now
  have sources : (Metrics.build cfg connected readings now).solarToday.sources =
      cfg.solarTodaySources := by
    show (collectMetric cfg.solarTodaySources _ _ _ _ _ _).sources = _
    unfold collectMetric
    dsimp only
    repeat' split
    all_goals rfl
  have flow : (FlowFact.of (Metrics.build cfg connected readings now) connected).map FlowFact.english =
      (EnergyResponse.build cfg connected readings now generatedAt).reports.texts.flow := by
    simp only [EnergyResponse.build, Reports.texts, FlowFact.of]
    generalize Metrics.build cfg connected readings now = metrics at spoken ⊢
    cases metrics.loadPower with
    | none => rfl
    | some load =>
        cases grid_found : metrics.gridPower with
        | none => rfl
        | some grid =>
            cases battery_found : metrics.batteryPower with
            | none => rfl
            | some battery =>
                have text := flowReport_eq load (spoken.grid grid grid_found)
                  (spoken.flow battery battery_found) connected
                simp only [Option.map_some, text]
  have alarms := alarms_report_eq connected labelled
  simp only [EnergyResponse.build, Reports.texts] at flow
  simp only [Facts.english, Facts.of, EnergyResponse.build, Reports.texts, Texts.mk.injEq, flow,
    sources]
  have order : ∀ (text : String) (parts : List String),
      orderParts (!(Alarms.build cfg connected readings now).active.isEmpty) text parts =
        if (Alarms.build cfg connected readings now).active.isEmpty then parts ++ [text]
        else text :: parts := by
    intro text parts
    unfold orderParts
    cases (Alarms.build cfg connected readings now).active.isEmpty <;> rfl
  simp only [report_eq, briefMetric_eq, alarms, englishToday, englishTodayBrief, order, and_self]

theorem flowText_facts {metrics : Metrics F} (spoken : Russian.Spoken metrics) {connected : Bool}
    {flow localized : Option Report} (shape : flow.isSome = (FlowFact.of metrics connected).isSome)
    (text : Russian.flowText metrics connected flow = some localized) :
    flowWords (FlowFact.of metrics connected) = some (localized.map Report.text) ∧
      localized.map Report.unworded = flow.map Report.unworded := by
  unfold FlowFact.of at shape ⊢
  unfold Russian.flowText at text
  cases flow with
  | none =>
      cases load_found : metrics.loadPower with
      | none => cases text; exact ⟨rfl, rfl⟩
      | some load =>
          cases grid_found : metrics.gridPower with
          | none => cases text; exact ⟨rfl, rfl⟩
          | some grid =>
              cases battery_found : metrics.batteryPower with
              | none => cases text; exact ⟨rfl, rfl⟩
              | some battery =>
                  rw [load_found, grid_found, battery_found] at shape
                  cases shape
  | some report =>
      cases load_found : metrics.loadPower with
      | none => rw [load_found] at shape; cases shape
      | some load =>
          cases grid_found : metrics.gridPower with
          | none => rw [load_found, grid_found] at shape; cases shape
          | some grid =>
              cases battery_found : metrics.batteryPower with
              | none => rw [load_found, grid_found, battery_found] at shape; cases shape
              | some battery =>
                  simp only [load_found, grid_found, battery_found,
                    metricReport_facts (spoken.load load load_found),
                    directionalReport_facts (spoken.grid grid grid_found),
                    directionalReport_facts (spoken.flow battery battery_found)] at text
                  cases connected with
                  | false =>
                      cases text
                      exact ⟨rfl, rfl⟩
                  | true =>
                      simp only [if_true, Option.bind_eq_bind, Option.bind_eq_some_iff,
                        Option.some.injEq] at text
                      obtain ⟨l, load_text, g, grid_text, b, battery_text, rfl⟩ := text
                      simp only [flowWords, if_true, FlowFact.russian, load_text, grid_text,
                        battery_text, Option.bind_eq_bind, Option.bind_some, Option.map_some]
                      exact ⟨trivial, rfl⟩

/-- **The Russian reports of a response state its facts**, and nothing but the
words has changed. -/
theorem localize_facts {response : EnergyResponse F} (spoken : Russian.Spoken response.metrics)
    (shape : response.reports.flow.isSome =
      (FlowFact.of response.metrics response.mqttConnected).isSome)
    (brief : response.reports.status.briefText.isSome = true) :
    ∃ russian, Russian.localize response = some russian ∧
      (Facts.of response).russian = some russian.reports.texts ∧
      russian.unworded = response.unworded ∧ russian.locale = response.locale ∧
      russian.alarms = response.alarms.relabel Russian.alarmLabel := by
  obtain ⟨russian, localized, -⟩ := Russian.localize_eq response spoken
  refine ⟨russian, localized, ?_⟩
  have relabelled : ∀ alarm ∈ (response.alarms.relabel Russian.alarmLabel).active,
      alarm.label = Russian.alarmLabel alarm.source := by
    intro alarm found
    obtain ⟨original, -, rfl⟩ := List.mem_map.1 found
    rfl
  have alarms : Russian.alarmReport (response.alarms.relabel Russian.alarmLabel)
      response.mqttConnected = (AlarmFact.of response.alarms response.mqttConnected).russian := by
    rw [alarmReport_facts _ relabelled, alarmFact_relabel]
  have none : (response.alarms.relabel Russian.alarmLabel).active.isEmpty =
      response.alarms.active.isEmpty := List.isEmpty_map
  simp only [Russian.localize, metricReport_facts spoken.battery, metricReport_facts spoken.solar,
    metricReport_facts spoken.today, Option.bind_eq_bind, Option.bind_eq_some_iff,
    Option.some.injEq] at localized
  obtain ⟨battery, battery_text, solar, solar_text, today, today_text, alarm, alarm_text, batteryBrief,
    batteryBrief_text, solarBrief, solarBrief_text, todayBrief, todayBrief_text, flow, flow_text, rfl⟩ :=
    localized
  have alarm_text : (AlarmFact.of response.alarms response.mqttConnected).russian = some alarm := by
    rw [← alarms]
    exact alarm_text
  have today_text : (MetricFact.of response.metrics.solarToday response.mqttConnected).russian
      (russianToday (chargersOnly response.metrics.solarToday.sources)) = some today := today_text
  have todayBrief_text : (MetricFact.of response.metrics.solarToday response.mqttConnected).russian
      (russianTodayBrief (chargersOnly response.metrics.solarToday.sources)) = some todayBrief :=
    todayBrief_text
  obtain ⟨words, kept⟩ := flowText_facts spoken shape flow_text
  have order : ∀ (text : String) (parts : List String),
      orderParts (!response.alarms.active.isEmpty) text parts =
        if (response.alarms.relabel Russian.alarmLabel).active.isEmpty then parts ++ [text]
        else text :: parts := by
    intro text parts
    rw [none]
    unfold orderParts
    cases response.alarms.active.isEmpty <;> rfl
  refine ⟨?_, ?_, rfl, rfl⟩
  · simp only [Facts.russian, Facts.of, battery_text, solar_text, today_text, alarm_text,
      batteryBrief_text, solarBrief_text, todayBrief_text, words, order, Option.bind_eq_bind,
      Option.bind_some]
    rfl
  · have again : (response.alarms.relabel Russian.alarmLabel).relabel (fun _ => "") =
        response.alarms.relabel fun _ => "" := by
      simp only [Alarms.relabel, List.map_map]
      rfl
    obtain ⟨text, spokenBrief⟩ := Option.isSome_iff_exists.1 brief
    have status : response.reports.status.unworded =
        ⟨"", response.reports.status.status, some ""⟩ := by
      rw [Report.unworded, spokenBrief]
      rfl
    simp only [EnergyResponse.unworded, kept, status]
    rw [← again]
    rfl

/-- **Both locales state the same facts.**  The Russian response of a built one
exists and differs from it in its locale, texts and alarm labels only; both
state the same facts, and the Russian label of a labelled alarm source is its
own label of the same alarm and phase. -/
theorem locales_state_same_facts (cfg : EnergyConfig) (connected : Bool)
    (readings : Table (Reading F)) (now : Instant) (generatedAt : Nat) :
    let english := EnergyResponse.build cfg connected readings now generatedAt
    ∃ russian, english.localized .ru = some russian ∧ english.locale = .en ∧ russian.locale = .ru ∧
      russian.unworded = english.unworded ∧ Facts.of russian = Facts.of english ∧
      (Facts.of english).english = english.reports.texts ∧
      (Facts.of russian).russian = some russian.reports.texts ∧
      (∀ alarm ∈ english.alarms.active, sourceLabel alarm.source = some alarm.label) ∧
      (∀ alarm ∈ russian.alarms.active, alarm.label = Russian.alarmLabel alarm.source) ∧
      ∀ source ∈ cfg.alarmSources, ∀ label, sourceLabel source = some label →
        SameAlarm source label := by
  intro english
  have shape : english.reports.flow.isSome =
      (FlowFact.of english.metrics english.mqttConnected).isSome := by
    show Option.isSome (match (Metrics.build cfg connected readings now).loadPower,
        (Metrics.build cfg connected readings now).gridPower,
        (Metrics.build cfg connected readings now).batteryPower with
      | some load, some grid, some battery => some (flowReport load grid battery connected)
      | _, _, _ => none) =
        (FlowFact.of (Metrics.build cfg connected readings now) connected).isSome
    unfold FlowFact.of
    cases (Metrics.build cfg connected readings now).loadPower <;>
      cases (Metrics.build cfg connected readings now).gridPower <;>
        cases (Metrics.build cfg connected readings now).batteryPower <;> rfl
  obtain ⟨russian, localized, facts, unworded, locale, alarms⟩ :=
    @localize_facts F _ _ _ { english with locale := .ru }
      (Russian.spoken_build cfg connected readings now) shape rfl
  have unworded : russian.unworded = english.unworded := unworded
  have same : Facts.of russian = Facts.of english := facts_relabelled unworded alarms
  refine ⟨russian, localized, rfl, locale, unworded, same,
    build_english cfg connected readings now generatedAt, ?_, ?_, ?_, ?_⟩
  · rw [same]
    exact facts
  · exact Alarms.build_labels cfg connected readings now
  · intro alarm found
    rw [alarms] at found
    obtain ⟨original, -, rfl⟩ := List.mem_map.1 found
    rfl
  · exact fun source _ label labelled => sameAlarm_of_label labelled

end Lawful

end Responses

/-- Solar power read while the battery was never read. -/
theorem locales_state_same_facts_solar :
    ∃ russian, (EnergyResponse.build (F := Int) { solarPowerSources := ["system/0/Dc/Pv/Power"] } true
        (Table.empty.insert "system/0/Dc/Pv/Power" ⟨.number (.posInt 1500), 0⟩) (secs 1) 0).localized
          .ru = some russian ∧
      Facts.of russian = Facts.of (EnergyResponse.build (F := Int)
        { solarPowerSources := ["system/0/Dc/Pv/Power"] } true
        (Table.empty.insert "system/0/Dc/Pv/Power" ⟨.number (.posInt 1500), 0⟩) (secs 1) 0) := by
  obtain ⟨russian, localized, -, -, -, facts, -⟩ := locales_state_same_facts (F := Int)
    { solarPowerSources := ["system/0/Dc/Pv/Power"] } true
    (Table.empty.insert "system/0/Dc/Pv/Power" ⟨.number (.posInt 1500), 0⟩) (secs 1) 0
  exact ⟨russian, localized, facts⟩

end InverterGateway.Gateway

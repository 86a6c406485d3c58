/-
# Gateway.Russian — the Russian wording of an energy response

`localize` replaces the English texts over the same facts.  Numbers are spoken
in words, so the amounts are first formatted and parsed back; the parses that
the source expects to succeed are `Option` here, and `amount_eq` shows that
they do for every number a response contains.

Of all texts of this module only the all-clear sentence contains `ет.`; a
`Clean` text is one without it.
-/
import InverterGateway.Gateway.Report

namespace InverterGateway.Gateway.Russian

open InverterGateway.Theory

set_option autoImplicit false

/-! ## Numbers in words -/

/-- `form`: the plural form of a noun for a number. -/
def form (value : Nat) (one few many : String) : String :=
  if 11 ≤ value % 100 ∧ value % 100 ≤ 14 then many
  else
    match value % 10 with
    | 1 => one
    | 2 | 3 | 4 => few
    | _ => many

def hundreds : List String :=
  ["", "сто", "двести", "триста", "четыреста", "пятьсот", "шестьсот", "семьсот", "восемьсот",
    "девятьсот"]

def tens : List String :=
  ["", "", "двадцать", "тридцать", "сорок", "пятьдесят", "шестьдесят", "семьдесят", "восемьдесят",
    "девяносто"]

def teens : List String :=
  ["десять", "одиннадцать", "двенадцать", "тринадцать", "четырнадцать", "пятнадцать",
    "шестнадцать", "семнадцать", "восемнадцать", "девятнадцать"]

def ones (feminine : Bool) : List String :=
  ["", if feminine then "одна" else "один", if feminine then "две" else "два", "три", "четыре",
    "пять", "шесть", "семь", "восемь", "девять"]

/-- `under_thousand`: the words of a number below one thousand. -/
def underThousand (value : Nat) (feminine : Bool) : String :=
  let tail := value % 100
  Text.joinSpace (
    (if 100 ≤ value then [hundreds.getD (value / 100) ""] else []) ++
    if 10 ≤ tail ∧ tail < 20 then [teens.getD (tail - 10) ""]
    else
      (if 20 ≤ tail then [tens.getD (tail / 10) ""] else []) ++
      if tail % 10 ≠ 0 then [(ones feminine).getD (tail % 10) ""] else [])

/-- A power of one thousand with its noun and gender. -/
structure Scale where
  divisor : Nat
  one : String
  few : String
  many : String
  female : Bool

def scales : List Scale :=
  [⟨1000000000, "миллиард", "миллиарда", "миллиардов", false⟩,
    ⟨1000000, "миллион", "миллиона", "миллионов", false⟩,
    ⟨1000, "тысяча", "тысячи", "тысяч", true⟩]

/-- The words of one group of three digits. -/
def groupWords (value : Nat) (scale : Scale) : List String :=
  let group := value / scale.divisor % 1000
  if 0 < group then
    [underThousand group scale.female, form group scale.one scale.few scale.many]
  else []

/-- `integer_words`. -/
def integerWords (value : Nat) (feminine : Bool) : String :=
  if value = 0 then "ноль"
  else
    Text.joinSpace (scales.flatMap (groupWords value) ++
      if value % 1000 ≠ 0 then [underThousand (value % 1000) feminine] else [])

example : integerWords 1021 true = "одна тысяча двадцать одна" := by decide

/-- `decimal_words`: a formatted decimal in words. -/
def decimalWords (text : String) : Option String := do
  let (whole, fraction) := (Text.splitOnce text '.').getD (text, "")
  let whole ← Text.parseU64 whole
  let fraction := Text.trimEndMatches fraction '0'
  if fraction = "" then some (integerWords whole false)
  else do
    let numerator ← Text.parseU64 fraction
    let denominator :=
      if fraction.utf8ByteSize = 1 then form numerator "десятая" "десятых" "десятых"
      else form numerator "сотая" "сотых" "сотых"
    some (integerWords whole true ++ " " ++ form whole "целая" "целых" "целых" ++ " " ++
      integerWords numerator true ++ " " ++ denominator)

/-- `neuter_words`. -/
def neuterWords (value : Nat) : Option String :=
  let words := integerWords value false
  if value % 10 = 1 ∧ value % 100 ≠ 11 then
    (Text.stripSuffix words "один").map fun stem => stem ++ "одно"
  else some words

/-! ## Amounts and metric reports -/

section Speech

variable {F : Type} [Binary64 F]

/-- A number scaled for speech: its digits and the forms of its unit. -/
structure Scaled (F : Type) where
  value : F
  digits : Nat
  one : String
  few : String
  many : String

def scaled (value : F) (unit : String) : Scaled F :=
  match unit with
  | "%" => ⟨value, 1, "процент", "процента", "процентов"⟩
  | "W" =>
      if Binary64.le (Binary64.ofNat 1000) value then
        ⟨Binary64.div value (Binary64.ofNat 1000), 2, "киловатт", "киловатта", "киловатт"⟩
      else ⟨value, 0, "ватт", "ватта", "ватт"⟩
  | _ => ⟨value, 2, "киловатт-час", "киловатт-часа", "киловатт-часов"⟩

/-- `amount`. -/
def amount (value : F) (unit : String) : Option String := do
  let spoken := scaled (Binary64.normalizeZero value) unit
  if Binary64.le (Binary64.ofNat 1000000000) spoken.value then do
    let (coefficient, exponent) ← Text.splitOnce (Binary64.scientific spoken.value spoken.digits) 'e'
    let words ← decimalWords coefficient
    let power ← Text.parseU64 exponent
    some (words ++ " умножить на десять в степени " ++ integerWords power false ++ " " ++ spoken.many)
  else do
    let trimmed := trimDecimal (Binary64.fixed spoken.value spoken.digits)
    let unit ←
      if Text.containsChar trimmed '.' then some spoken.few
      else (Text.parseU64 trimmed).map fun n => form n spoken.one spoken.few spoken.many
    let words ← decimalWords trimmed
    some (words ++ " " ++ unit)

/-- `metric_report`. -/
def metricReport (metric : Metric F) (label : String) (connected : Bool) : Option String :=
  match metric.status, metric.value with
  | .fresh, some value => (amount value metric.unit).map fun spoken => label ++ ": " ++ spoken ++ "."
  | .unconfigured, _ => some (label ++ ": источник не настроен.")
  | .stale, _ => some (label ++ ": данные устарели, дождитесь обновления телеметрии.")
  | _, _ =>
      if !connected then some (label ++ ": данные недоступны, нет связи с Cerbo GX.")
      else some (label ++ ": текущие данные отсутствуют или некорректны.")

/-- `directional_report`. -/
def directionalReport (metric : Metric F) (grid : Bool) : Option String :=
  let label := if grid then "Суммарная мощность сети" else "Мощность системного аккумулятора"
  match metric.status, metric.value with
  | .fresh, some value =>
      if Binary64.eq value (Binary64.ofNat 0) then some (label ++ ": ноль ватт.")
      else
        let direction :=
          match grid, Binary64.lt (Binary64.ofNat 0) value with
          | true, true => "Получение энергии из сети"
          | true, false => "Отдача энергии в сеть"
          | false, true => "Зарядка системного аккумулятора"
          | false, false => "Разрядка системного аккумулятора"
        let power :=
          if Binary64.lt (Binary64.abs value) (Binary64.ofNat 1) then some "меньше одного ватта"
          else amount (Binary64.abs value) "W"
        power.map fun power => direction ++ ": " ++ power ++ "."
  | _, _ => metricReport metric label true

end Speech

/-! ## Alarms -/

/-- The Russian label of each known alarm, by service and name. -/
def labels : List ((String × String) × String) := [
    (("vebus", "HighDcCurrent"), "Высокий постоянный ток инвертора"),
    (("vebus", "HighDcVoltage"), "Высокое постоянное напряжение инвертора"),
    (("vebus", "LowBattery"), "Низкое напряжение аккумулятора инвертора"),
    (("vebus", "PhaseRotation"), "Неверное чередование фаз"),
    (("vebus", "Ripple"), "Высокие пульсации постоянного напряжения"),
    (("vebus", "TemperatureSensor"), "Неисправность датчика температуры аккумулятора"),
    (("vebus", "VoltageSensor"), "Неисправность датчика напряжения аккумулятора"),
    (("vebus", "GridLost"), "Потеря соединения с сетью"),
    (("vebus", "BmsConnectionLost"), "Потеря связи с системой управления аккумулятором"),
    (("vebus", "InverterImbalance"), "Дисбаланс инвертора"),
    (("vebus", "MainsImbalance"), "Дисбаланс сети"),
    (("vebus", "HighTemperature"), "Высокая температура инвертора"),
    (("vebus", "Overload"), "Перегрузка инвертора"),
    (("battery", "Alarm"), "Аварийный сигнал аккумулятора"),
    (("battery", "CommunicationError"), "Ошибка связи с аккумулятором"),
    (("battery", "LowVoltage"), "Низкое напряжение аккумулятора"),
    (("battery", "HighVoltage"), "Высокое напряжение аккумулятора"),
    (("battery", "HighCellVoltage"), "Высокое напряжение ячейки аккумулятора"),
    (("battery", "LowCellVoltage"), "Низкое напряжение ячейки аккумулятора"),
    (("battery", "LowStarterVoltage"), "Низкое напряжение стартерного аккумулятора"),
    (("battery", "HighStarterVoltage"), "Высокое напряжение стартерного аккумулятора"),
    (("battery", "LowSoc"), "Низкий заряд аккумулятора"),
    (("battery", "HighChargeCurrent"), "Высокий ток зарядки аккумулятора"),
    (("battery", "HighDischargeCurrent"), "Высокий ток разрядки аккумулятора"),
    (("battery", "HighCurrent"), "Высокий ток аккумулятора"),
    (("battery", "CellImbalance"), "Дисбаланс ячеек аккумулятора"),
    (("battery", "InternalFailure"), "Внутренняя неисправность аккумулятора"),
    (("battery", "HighChargeTemperature"), "Высокая температура зарядки аккумулятора"),
    (("battery", "LowChargeTemperature"), "Низкая температура зарядки аккумулятора"),
    (("battery", "LowTemperature"), "Низкая температура аккумулятора"),
    (("battery", "HighTemperature"), "Высокая температура аккумулятора"),
    (("battery", "MidVoltage"), "Отклонение напряжения средней точки аккумулятора"),
    (("battery", "Contactor"), "Неисправность контактора аккумулятора"),
    (("battery", "BmsCable"), "Неисправность кабеля системы управления аккумулятором"),
    (("battery", "HighInternalTemperature"), "Высокая внутренняя температура аккумулятора"),
    (("battery", "FuseBlown"), "Перегорел предохранитель аккумулятора"),
    (("battery", "CircuitBreakerTripped"), "Сработал автоматический выключатель аккумулятора")]

def genericLabel : String := "Сигнал контролируемого источника"

def phaseWord : String → String
  | "L1" => "один"
  | "L2" => "два"
  | _ => "три"

/-- `energy_russian::alarm_label`. -/
def alarmLabel (source : String) : String :=
  let named := do
    let (service, path) ← Text.splitOnce source '/'
    let (_, leaf) ← Text.splitOnce path '/'
    let name ← Text.stripPrefix leaf "Alarms/"
    some (service, name)
  match named with
  | none => genericLabel
  | some (service, name) =>
      let (name, phase) :=
        match Text.splitOnce name '/' with
        | some (phase, rest) => if phase ∈ phases then (rest, some phase) else (name, none)
        | none => (name, none)
      let label := (labels.lookup (service, name)).getD genericLabel
      match phase with
      | some phase => label ++ ", фаза " ++ phaseWord phase
      | none => label

def coverage (status : Status) (connected : Bool) (active : List ActiveAlarm) : Option String :=
  match status with
  | .unconfigured => some "Контроль аварий не настроен."
  | .unavailable =>
      if !connected then some "Данные об авариях недоступны: нет связи с Cerbo GX."
      else
        some "Часть данных об авариях отсутствует или некорректна. Контроль аварий неполный."
  | .stale => some "Часть данных об авариях устарела. Контроль аварий неполный."
  | .fresh =>
      if active.isEmpty then some "В контролируемых источниках активных аварий нет." else none

/-- `energy_russian::alarm_report`. -/
def alarmReport (alarms : Alarms) (connected : Bool) : Option String := do
  let summarized := spokenAlarmLimit < alarms.active.length
  let count := (alarms.active.filter fun alarm => alarm.severity == .alarm).length
  let warnings := alarms.active.length - count
  let summary ←
    if summarized then
      (neuterWords warnings).map fun warningWords =>
        ["В контролируемых источниках: " ++ integerWords count true ++ " " ++
          form count "авария" "аварии" "аварий" ++ " и " ++ warningWords ++ " " ++
          form warnings "предупреждение" "предупреждения" "предупреждений" ++ "."]
    else some []
  let messages := (Alarms.spoken alarms.active).map fun alarm =>
    (match alarm.severity with
      | .warning => "Предупреждение"
      | .alarm => "Авария") ++ ": " ++ alarm.label ++ "."
  let remaining := alarms.active.length - spokenAlarmLimit
  let more :=
    if summarized then
      ["Ещё " ++ integerWords remaining false ++ " " ++
        form remaining "активный сигнал" "активных сигнала" "активных сигналов" ++
        ". Полный список доступен в шлюзе."]
    else []
  some (Text.joinSpace
    (summary ++ messages ++ more ++ (coverage alarms.status connected alarms.active).toList))

/-! ## The response -/

/-- What every status text says without a connection. -/
def disconnectedText : String := "Энергетические данные недоступны: нет связи с Cerbo GX."

section Localize

variable {F : Type} [Binary64 F]

/-- The flow text, when the response has one. -/
def flowText (metrics : Metrics F) (connected : Bool) (flow : Option Report) :
    Option (Option Report) :=
  match flow, metrics.loadPower, metrics.gridPower, metrics.batteryPower with
  | some report, some load, some grid, some battery =>
      if connected then do
        let load ← metricReport load "Выбранные нагрузки переменного тока" true
        let grid ← directionalReport grid true
        let battery ← directionalReport battery false
        some (some { report with text := load ++ " " ++ grid ++ " " ++ battery })
      else
        some (some { report with
          text := "Данные о потоках энергии недоступны: нет связи с Cerbo GX." })
  | _, _, _, _ => some flow

/-- `localize`. -/
def localize (response : EnergyResponse F) : Option (EnergyResponse F) := do
  let connected := response.mqttConnected
  let metrics := response.metrics
  let chargers := chargersOnly metrics.solarToday.sources
  let battery ← metricReport metrics.batterySoc "Заряд аккумулятора" connected
  let solar ← metricReport metrics.solarPower "Солнечная мощность" connected
  let solarToday ← metricReport metrics.solarToday
    (if chargers then "Выработка солнечных контроллеров сегодня"
      else "Солнечная выработка сегодня") connected
  let alarms := { response.alarms with
    active := response.alarms.active.map fun alarm =>
      { alarm with label := alarmLabel alarm.source } }
  let alarmText ← alarmReport alarms connected
  let batteryBrief ← metricReport metrics.batterySoc "Аккумулятор" connected
  let solarBrief ← metricReport metrics.solarPower "Солнце" connected
  let todayBrief ← metricReport metrics.solarToday
    (if chargers then "Солнечные контроллеры сегодня" else "Солнце сегодня") connected
  let parts := [batteryBrief, solarBrief, todayBrief]
  let flow ← flowText metrics connected response.reports.flow
  some { response with
    alarms := alarms
    reports :=
      { battery := { response.reports.battery with text := battery }
        solar := { response.reports.solar with text := solar }
        solarToday := { response.reports.solarToday with text := solarToday }
        alarms := { response.reports.alarms with text := alarmText }
        status := { response.reports.status with
          text :=
            if connected then Text.joinSpace [battery, solar, solarToday, alarmText]
            else disconnectedText
          briefText := some (
            if connected then
              Text.joinSpace (
                if alarms.active.isEmpty then parts ++ [alarmText] else alarmText :: parts)
            else disconnectedText) }
        flow := flow } }

end Localize

end InverterGateway.Gateway.Russian

namespace InverterGateway.Gateway

/-- `EnergyResponse::localized`. -/
def EnergyResponse.localized {F : Type} [Theory.Binary64 F] (self : EnergyResponse F)
    (locale : EnergyLocale) : Option (EnergyResponse F) :=
  let response := { self with locale := locale }
  match locale with
  | .en => some response
  | .ru => Russian.localize response

end InverterGateway.Gateway

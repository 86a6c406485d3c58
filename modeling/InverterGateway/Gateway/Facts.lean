/-
# Gateway.Facts — what a report says, in whichever language

The English and the Russian texts are rendered from metrics and alarms by two
programs that decide thresholds, trimming, directions and selections each for
itself.  The facts of this module are what both of them mean to say: an amount
as rounded digits with a unit, a notice, a direction, counts and the alarms
spoken.  Each fact has a rendering in both languages, and each program is shown
to produce the rendering of the fact that its input stands for.
-/
import InverterGateway.Gateway.AllClear

namespace InverterGateway.Gateway

open InverterGateway.Theory

set_option autoImplicit false

/-! ## Amounts -/

inductive SpokenUnit where
  | percent
  | watt
  | kilowatt
  | kilowattHour
  deriving DecidableEq

/-- A rounded amount: its digits, the power of ten of the largest ones, its unit. -/
structure SpokenAmount where
  digits : String
  exponent : Option String
  unit : SpokenUnit

/-- The unit in English; `one` is the singular. -/
def SpokenUnit.english (unit : SpokenUnit) (one : Bool) : String :=
  match unit with
  | .percent => "percent"
  | .watt => if one then "watt" else "watts"
  | .kilowatt => if one then "kilowatt" else "kilowatts"
  | .kilowattHour => if one then "kilowatt hour" else "kilowatt hours"

/-- Digits in English, with their power of ten. -/
def spokenNumber (digits : String) : Option String → String
  | some power => digits ++ " times ten to the power of " ++ power
  | none => digits

def SpokenAmount.english (a : SpokenAmount) : String :=
  spokenNumber a.digits a.exponent ++ " " ++
    a.unit.english (spokenNumber a.digits a.exponent = "1")

/-- The Russian unit after one, after a few or a fraction, and after many. -/
def SpokenUnit.russian : SpokenUnit → String × String × String
  | .percent => ("процент", "процента", "процентов")
  | .watt => ("ватт", "ватта", "ватт")
  | .kilowatt => ("киловатт", "киловатта", "киловатт")
  | .kilowattHour => ("киловатт-час", "киловатт-часа", "киловатт-часов")

def SpokenAmount.russian (a : SpokenAmount) : Option String := do
  let (one, few, many) := a.unit.russian
  match a.exponent with
  | some power => do
      let words ← Russian.decimalWords a.digits
      let power ← Text.parseU64 power
      some (words ++ " умножить на десять в степени " ++ Russian.integerWords power false ++ " " ++ many)
  | none => do
      let unit ←
        if Text.containsChar a.digits '.' then some few
        else (Text.parseU64 a.digits).map fun n => Russian.form n one few many
      let words ← Russian.decimalWords a.digits
      some (words ++ " " ++ unit)

section Amounts

variable {F : Type} [Binary64 F]

/-- The number that is spoken, its fraction digits and its unit: kilowatts from
one thousand watts on. -/
def spokenScale (value : F) (unit : String) : F × Nat × SpokenUnit :=
  match unit with
  | "%" => (value, 1, .percent)
  | "W" =>
      if Binary64.le (Binary64.ofNat 1000) value then
        (Binary64.div value (Binary64.ofNat 1000), 2, .kilowatt)
      else (value, 0, .watt)
  | _ => (value, 2, .kilowattHour)

/-- The digits of a number, with a power of ten from one billion on. -/
def spokenDigits (value : F) (digits : Nat) : String × Option String :=
  if Binary64.le (Binary64.ofNat 1000000000) value then
    match Text.splitOnce (Binary64.scientific value digits) 'e' with
    | some (coefficient, power) => (trimDecimal coefficient, some power)
    | none => (trimDecimal (Binary64.fixed value digits), none)
  else (trimDecimal (Binary64.fixed value digits), none)

def SpokenAmount.of (value : F) (unit : String) : SpokenAmount :=
  let scale := spokenScale value unit
  let number := spokenDigits (Binary64.normalizeZero scale.1) scale.2.1
  ⟨number.1, number.2, scale.2.2⟩

/-- The English program's number. -/
theorem decimal_eq (value : F) (digits : Nat) :
    decimal value digits =
      spokenNumber (spokenDigits (Binary64.normalizeZero value) digits).1
        (spokenDigits (Binary64.normalizeZero value) digits).2 := by
  unfold decimal spokenDigits
  dsimp only
  split
  · cases Text.splitOnce (Binary64.scientific (Binary64.normalizeZero value) digits) 'e' <;> rfl
  · rfl

/-- The English program's unit. -/
theorem amountAndUnit_eq (value : F) (unit : String) :
    amountAndUnit value unit =
      (decimal (spokenScale value unit).1 (spokenScale value unit).2.1,
        (spokenScale value unit).2.2.english false) := by
  by_cases percent : unit = "%"
  · subst percent
    rfl
  · by_cases watt : unit = "W"
    · subst watt
      cases large : Binary64.le (Binary64.ofNat 1000) value with
      | true =>
          simp only [amountAndUnit, spokenScale, large, if_true]
          rfl
      | false =>
          simp only [amountAndUnit, spokenScale, large, Bool.false_eq_true, if_false]
          rfl
    · have hours : spokenScale value unit = (value, 2, .kilowattHour) := by
        unfold spokenScale
        split <;> first | rfl | contradiction
      rw [hours]
      unfold amountAndUnit
      split <;> first | rfl | contradiction

/-- **The English program speaks the amount.** -/
theorem spokenAmount_eq (value : F) (unit : String) :
    spokenAmount value unit = (SpokenAmount.of value unit).english := by
  have number := decimal_eq (spokenScale value unit).1 (spokenScale value unit).2.1
  unfold spokenAmount
  rw [amountAndUnit_eq]
  simp only [SpokenAmount.english, SpokenAmount.of, ← number]
  cases (spokenScale value unit).2.2 <;>
    by_cases one : decimal (spokenScale value unit).1 (spokenScale value unit).2.1 = "1" <;>
      simp only [one, if_true, if_false, decide_true, decide_false] <;> rfl

/-- Trimming a decimal does not change its words. -/
theorem decimalWords_trim {whole fraction : String} (digits : Text.Digits whole) {n : Nat}
    (shape : Binary64.FractionText n fraction) :
    Russian.decimalWords (trimDecimal (whole ++ fraction)) =
      Russian.decimalWords (whole ++ fraction) := by
  have point : ".".toList = ['.'] := by decide
  have wholeSplit : Text.splitOnce whole '.' = none := Text.splitOnce_eq_none.2 (digits.ne (by decide))
  have cut : ∀ tail : String, Text.splitOnce (whole ++ "." ++ tail) '.' = some (whole, tail) := by
    intro tail
    rw [Text.splitOnce_eq_some]
    refine ⟨by simp [String.toList_append, point], digits.ne (by decide)⟩
  unfold Binary64.FractionText at shape
  split at shape
  · subst shape
    have noPoint : Text.containsChar whole '.' = false := by
      rw [← Bool.not_eq_true, Text.containsChar_iff]
      exact digits.ne (by decide)
    rw [String.append_empty, trimDecimal, noPoint]
    rfl
  · obtain ⟨tail, rfl, tailDigits, -⟩ := shape
    have hasPoint : Text.containsChar (whole ++ ("." ++ tail)) '.' = true := by
      rw [Text.containsChar_iff]
      simp [String.toList_append, point]
    rw [trimDecimal, hasPoint, if_pos rfl, ← String.append_assoc]
    rcases Text.trim_decimal digits tailDigits with ⟨nothing, same⟩ | ⟨kept, trimmed, -, -, same⟩
    · have none : Text.trimEndMatches "" '0' = "" := by decide
      rw [same]
      simp only [Russian.decimalWords, wholeSplit, cut, Option.getD_none, Option.getD_some, nothing,
        none]
    · have again := Text.trimEndMatches_trimmed tail '0'
      rw [trimmed] at again
      rw [same]
      simp only [Russian.decimalWords, cut, Option.getD_some, trimmed, again]

section Lawful

variable [Binary64.Lawful F] [Binary64.Ordered F]

/-- The Russian program scales as the English one: zero is below one thousand,
and thousandths of more are not zero. -/
theorem scaled_eq {value : F} (finite : Binary64.isFinite value = true) (unit : String) :
    Russian.scaled (Binary64.normalizeZero value) unit =
      ⟨Binary64.normalizeZero (spokenScale value unit).1, (spokenScale value unit).2.1,
        (spokenScale value unit).2.2.russian.1, (spokenScale value unit).2.2.russian.2.1,
        (spokenScale value unit).2.2.russian.2.2⟩ := by
  by_cases percent : unit = "%"
  · subst percent
    rfl
  · by_cases watt : unit = "W"
    · subst watt
      cases zero : Binary64.eq value (Binary64.ofNat 0) with
      | true =>
          have same := Binary64.Ordered.le_congr value (Binary64.ofNat 0) (Binary64.ofNat 1000) zero
          rw [Binary64.Ordered.thousand_zero] at same
          simp only [Russian.scaled, spokenScale, Binary64.normalizeZero, zero, same, if_true,
            Binary64.Ordered.thousand_zero, Bool.false_eq_true, if_false]
          rfl
      | false =>
          cases large : Binary64.le (Binary64.ofNat 1000) value with
          | true =>
              obtain ⟨-, pos⟩ := Binary64.Lawful.div_thousand value finite large
              have some := Binary64.Ordered.ne_of_pos _ pos
              simp only [Russian.scaled, spokenScale, Binary64.normalizeZero, zero, large, some,
                if_true, Bool.false_eq_true, if_false]
              rfl
          | false =>
              simp only [Russian.scaled, spokenScale, Binary64.normalizeZero, zero, large,
                Bool.false_eq_true, if_false]
              rfl
    · have hours : ∀ x : F, spokenScale x unit = (x, 2, .kilowattHour) := by
        intro x
        unfold spokenScale
        split <;> first | rfl | contradiction
      rw [hours]
      unfold Russian.scaled
      split <;> first | rfl | contradiction

/-- **The Russian program speaks the amount.** -/
theorem russian_amount_eq {value : F} (present : Binary64.Presentable value) (unit : String) :
    Russian.amount value unit = (SpokenAmount.of value unit).russian := by
  obtain ⟨finite, unsigned⟩ := present.normalizeZero
  obtain ⟨scaledFinite, -, few, -⟩ := Russian.scaled_spec finite unsigned unit
  have scale := scaled_eq present.1 unit
  rw [scale] at scaledFinite few
  unfold Russian.amount
  rw [scale]
  cases large : Binary64.le (Binary64.ofNat 1000000000)
      (Binary64.normalizeZero (spokenScale value unit).1) with
  | true =>
      obtain ⟨lead, fraction, exponent, whole, leadDigits, leadShort, shape, -, -⟩ :=
        Binary64.Lawful.scientific_text _ (spokenScale value unit).2.1 scaledFinite large
      have coefficient := Russian.decimalText_append leadDigits (by omega) few shape
      have letter : "e".toList = ['e'] := by decide
      have parts : Text.splitOnce (Binary64.scientific
          (Binary64.normalizeZero (spokenScale value unit).1) (spokenScale value unit).2.1) 'e' =
            some (lead ++ fraction, exponent) := by
        rw [whole, Text.splitOnce_eq_some]
        refine ⟨by simp [String.toList_append, letter], coefficient.ne (by decide) (by decide)⟩
      simp only [SpokenAmount.of, SpokenAmount.russian, spokenDigits, large, if_true, parts,
        decimalWords_trim leadDigits shape, Option.bind_eq_bind, Option.bind_some]
  | false =>
      simp only [SpokenAmount.of, SpokenAmount.russian, spokenDigits, large, Bool.false_eq_true,
        if_false]

end Lawful

end Amounts

/-! ## Metrics -/

/-- Why there is no amount. -/
inductive Notice where
  | unconfigured
  | stale
  | disconnected
  | missing
  deriving DecidableEq

def Notice.english : Notice → String
  | .unconfigured => " is not configured."
  | .stale => " data is stale. Please try again after telemetry updates."
  | .disconnected => " is unavailable because the gateway is disconnected from Cerbo GX."
  | .missing => " is unavailable because current telemetry is missing or invalid."

def Notice.russian : Notice → String
  | .unconfigured => ": источник не настроен."
  | .stale => ": данные устарели, дождитесь обновления телеметрии."
  | .disconnected => ": данные недоступны, нет связи с Cerbo GX."
  | .missing => ": текущие данные отсутствуют или некорректны."

/-- In either language, a notice tells which one it is. -/
theorem Notice.english_injective {a b : Notice} : a.english = b.english ↔ a = b := by
  cases a <;> cases b <;> decide

theorem Notice.russian_injective {a b : Notice} : a.russian = b.russian ↔ a = b := by
  cases a <;> cases b <;> decide

inductive MetricFact where
  | amount (a : SpokenAmount)
  | notice (n : Notice)

def MetricFact.english (fact : MetricFact) (label : String) : String :=
  match fact with
  | .amount a => label ++ " is " ++ a.english ++ "."
  | .notice n => label ++ n.english

/-- The short form: a notice keeps its full label. -/
def MetricFact.englishBrief (fact : MetricFact) (label short : String) : String :=
  match fact with
  | .amount a => short ++ " " ++ a.english ++ "."
  | .notice n => label ++ n.english

def MetricFact.russian (fact : MetricFact) (label : String) : Option String :=
  match fact with
  | .amount a => a.russian.map fun spoken => label ++ ": " ++ spoken ++ "."
  | .notice n => some (label ++ n.russian)

/-- A signed power: nothing, a direction with an amount (none is less than one
watt), or a notice. -/
inductive PowerFact where
  | zero
  | flow (forward : Bool) (amount : Option SpokenAmount)
  | notice (n : Notice)

/-- The subject of a signed power in English, and its directions. -/
def powerLabel (grid : Bool) : String :=
  if grid then "Net grid power" else "System battery power"

def powerDirection : Bool → Bool → String
  | true, true => "Net grid import is "
  | true, false => "Net grid export is "
  | false, true => "System battery is charging at "
  | false, false => "System battery is discharging at "

def englishPower : Option SpokenAmount → String
  | some a => a.english
  | none => "less than 1 watt"

def PowerFact.english (fact : PowerFact) (grid : Bool) : String :=
  match fact with
  | .zero => powerLabel grid ++ " is 0 watts."
  | .flow forward amount => powerDirection grid forward ++ englishPower amount ++ "."
  | .notice n => powerLabel grid ++ n.english

def russianPowerLabel (grid : Bool) : String :=
  if grid then "Суммарная мощность сети" else "Мощность системного аккумулятора"

def russianDirection : Bool → Bool → String
  | true, true => "Получение энергии из сети"
  | true, false => "Отдача энергии в сеть"
  | false, true => "Зарядка системного аккумулятора"
  | false, false => "Разрядка системного аккумулятора"

def russianPower : Option SpokenAmount → Option String
  | some a => a.russian
  | none => some "меньше одного ватта"

def PowerFact.russian (fact : PowerFact) (grid : Bool) : Option String :=
  match fact with
  | .zero => some (russianPowerLabel grid ++ ": ноль ватт.")
  | .flow forward amount =>
      (russianPower amount).map fun power => russianDirection grid forward ++ ": " ++ power ++ "."
  | .notice n => some (russianPowerLabel grid ++ n.russian)

/-- In either language, a direction tells which one it is. -/
theorem powerDirection_injective {grid grid' forward forward' : Bool} :
    powerDirection grid forward = powerDirection grid' forward' ↔ grid = grid' ∧ forward = forward' := by
  revert grid grid' forward forward'
  decide

theorem russianDirection_injective {grid grid' forward forward' : Bool} :
    russianDirection grid forward = russianDirection grid' forward' ↔
      grid = grid' ∧ forward = forward' := by
  revert grid grid' forward forward'
  decide

section Metrics

variable {F : Type} [Binary64 F]

def MetricFact.of (metric : Metric F) (connected : Bool) : MetricFact :=
  match metric.status, metric.value with
  | .fresh, some value => .amount (.of value metric.unit)
  | .unconfigured, _ => .notice .unconfigured
  | .stale, _ => .notice .stale
  | _, _ => .notice (if connected then .missing else .disconnected)

def PowerFact.of (metric : Metric F) : PowerFact :=
  match metric.status, metric.value with
  | .fresh, some value =>
      if Binary64.eq value (Binary64.ofNat 0) then .zero
      else
        .flow (Binary64.lt (Binary64.ofNat 0) value)
          (if Binary64.lt (Binary64.abs value) (Binary64.ofNat 1) then none
            else some (.of (Binary64.abs value) "W"))
  | .unconfigured, _ => .notice .unconfigured
  | .stale, _ => .notice .stale
  | _, _ => .notice .missing

theorem report_eq (m : Metric F) (label : String) (connected : Bool) :
    (report m label connected).text = (MetricFact.of m connected).english label := by
  unfold report MetricFact.of
  cases m.status <;> cases m.value <;> cases connected <;>
    simp only [MetricFact.english, Notice.english, spokenAmount_eq, Bool.not_true, Bool.not_false,
      Bool.false_eq_true, if_true, if_false]

theorem briefMetric_eq (m : Metric F) (label short : String) (connected : Bool) :
    briefMetric m (report m label connected) short =
      (MetricFact.of m connected).englishBrief label short := by
  unfold briefMetric
  rw [report_eq]
  unfold MetricFact.of
  cases m.status <;> cases m.value <;> cases connected <;>
    simp only [MetricFact.english, MetricFact.englishBrief, spokenAmount_eq]

/-- A signed power without a current value is reported as a metric is. -/
theorem powerFact_muted {m : Metric F} (mute : ∀ v, m.status = .fresh → m.value ≠ some v) :
    ∃ n, PowerFact.of m = .notice n ∧ MetricFact.of m true = .notice n := by
  unfold PowerFact.of MetricFact.of
  cases status : m.status with
  | fresh =>
      cases value : m.value with
      | none => exact ⟨.missing, rfl, rfl⟩
      | some v => exact absurd value (mute v status)
  | stale => exact ⟨.stale, rfl, rfl⟩
  | unavailable => exact ⟨.missing, rfl, rfl⟩
  | unconfigured => exact ⟨.unconfigured, rfl, rfl⟩

/-- The fact of a signed power with a current value. -/
theorem powerFact_fresh {m : Metric F} {v : F} (fresh : m.status = .fresh) (value : m.value = some v) :
    PowerFact.of m = if Binary64.eq v (Binary64.ofNat 0) then .zero
      else .flow (Binary64.lt (Binary64.ofNat 0) v)
        (if Binary64.lt (Binary64.abs v) (Binary64.ofNat 1) then none
          else some (.of (Binary64.abs v) "W")) := by
  simp only [PowerFact.of, fresh, value]

section Lawful

variable [Binary64.Lawful F] [Binary64.Ordered F]

theorem metricReport_facts {m : Metric F}
    (present : ∀ v, m.value = some v → Binary64.Presentable v) (label : String) (connected : Bool) :
    Russian.metricReport m label connected = (MetricFact.of m connected).russian label := by
  unfold Russian.metricReport MetricFact.of
  cases value : m.value with
  | none =>
      cases m.status <;> cases connected <;>
        simp only [MetricFact.russian, Notice.russian, Bool.not_true, Bool.not_false,
          Bool.false_eq_true, if_true, if_false]
  | some v =>
      have spoken := russian_amount_eq (present v value) m.unit
      cases m.status <;> cases connected <;>
        simp only [MetricFact.russian, Notice.russian, spoken, Bool.not_true, Bool.not_false,
          Bool.false_eq_true, if_true, if_false]

/-- **The English program gives the direction.** -/
theorem directionalPowerReport_eq {m : Metric F}
    (finite : ∀ v, m.value = some v → Binary64.isFinite v = true) (grid : Bool) :
    (directionalPowerReport m grid).text = (PowerFact.of m).english grid := by
  by_cases spoken : ∃ v, m.status = .fresh ∧ m.value = some v
  · obtain ⟨v, fresh, value⟩ := spoken
    rw [powerFact_fresh fresh value]
    simp only [directionalPowerReport, fresh, value]
    by_cases zero : Binary64.eq v (Binary64.ofNat 0) = true
    · rw [if_pos zero, if_pos zero]
      rfl
    · rw [if_neg zero, if_neg zero]
      rw [Bool.not_eq_true] at zero
      obtain ⟨-, pos⟩ := Binary64.Lawful.abs_pos v (finite v value) zero
      have order := Binary64.Ordered.totalCmp_pos v (finite v value) zero
      have amount : (if Binary64.lt (Binary64.ofNat 0) (Binary64.abs v) &&
          Binary64.lt (Binary64.abs v) (Binary64.ofNat 1) then "less than 1 watt"
          else spokenAmount (Binary64.abs v) "W") =
            englishPower (if Binary64.lt (Binary64.abs v) (Binary64.ofNat 1) then none
              else some (.of (Binary64.abs v) "W")) := by
        rw [pos, Bool.true_and, spokenAmount_eq]
        split <;> rfl
      rw [amount]
      cases forward : Binary64.lt (Binary64.ofNat 0) v with
      | true =>
          rw [order.2 forward]
          cases grid <;> rfl
      | false =>
          have other : Binary64.totalCmp v (Binary64.ofNat 0) ≠ .gt := by
            intro greater
            rw [order.1 greater] at forward
            cases forward
          cases compared : Binary64.totalCmp v (Binary64.ofNat 0) with
          | gt => exact absurd compared other
          | lt => cases grid <;> rfl
          | eq => cases grid <;> rfl
  · have mute : ∀ v, m.status = .fresh → m.value ≠ some v := fun v fresh value =>
      spoken ⟨v, fresh, value⟩
    obtain ⟨n, power, fact⟩ := powerFact_muted mute
    have plain : (directionalPowerReport m grid).text = (report m (powerLabel grid) true).text := by
      unfold directionalPowerReport
      dsimp only
      split
      · rename_i v fresh value
        exact absurd value (mute v fresh)
      · rfl
    rw [plain, report_eq, fact, power]
    rfl

/-- **The Russian program gives the same direction.** -/
theorem directionalReport_facts {m : Metric F}
    (finite : ∀ v, m.value = some v → Binary64.isFinite v = true) (grid : Bool) :
    Russian.directionalReport m grid = (PowerFact.of m).russian grid := by
  by_cases spoken : ∃ v, m.status = .fresh ∧ m.value = some v
  · obtain ⟨v, fresh, value⟩ := spoken
    rw [powerFact_fresh fresh value]
    simp only [Russian.directionalReport, fresh, value]
    by_cases zero : Binary64.eq v (Binary64.ofNat 0) = true
    · rw [if_pos zero, if_pos zero]
      rfl
    · rw [if_neg zero, if_neg zero]
      rw [Bool.not_eq_true] at zero
      obtain ⟨absFinite, pos⟩ := Binary64.Lawful.abs_pos v (finite v value) zero
      have amount : (if Binary64.lt (Binary64.abs v) (Binary64.ofNat 1) then some "меньше одного ватта"
          else Russian.amount (Binary64.abs v) "W") =
            russianPower (if Binary64.lt (Binary64.abs v) (Binary64.ofNat 1) then none
              else some (.of (Binary64.abs v) "W")) := by
        rw [russian_amount_eq ⟨absFinite, Or.inr pos⟩]
        split <;> rfl
      rw [amount]
      cases Binary64.lt (Binary64.ofNat 0) v <;> cases grid <;> rfl
  · have mute : ∀ v, m.status = .fresh → m.value ≠ some v := fun v fresh value =>
      spoken ⟨v, fresh, value⟩
    obtain ⟨n, power, fact⟩ := powerFact_muted mute
    have plain : Russian.directionalReport m grid =
        Russian.metricReport m (russianPowerLabel grid) true := by
      unfold Russian.directionalReport
      dsimp only
      split
      · rename_i v fresh value
        exact absurd value (mute v fresh)
      · rfl
    have noted : Russian.metricReport m (russianPowerLabel grid) true =
        (MetricFact.of m true).russian (russianPowerLabel grid) := by
      unfold Russian.metricReport MetricFact.of
      cases status : m.status with
      | fresh =>
          cases value : m.value with
          | none => rfl
          | some v => exact absurd value (mute v status)
      | _ => rfl
    rw [plain, noted, fact, power]
    rfl

end Lawful

end Metrics

/-! ## Alarms -/

/-- What the monitoring covers. -/
inductive Coverage where
  | unconfigured
  | disconnected
  | incomplete
  | stale
  | clear
  deriving DecidableEq

def Coverage.english : Coverage → String
  | .unconfigured => "Alarm monitoring is not configured."
  | .disconnected => "Alarm data is unavailable because the gateway is disconnected from Cerbo GX."
  | .incomplete => "Some monitored alarm data is missing or invalid. Alarm coverage is incomplete."
  | .stale => "Some monitored alarm data is stale. Alarm coverage is incomplete."
  | .clear => "No active alarms in the monitored sources."

def Coverage.russian : Coverage → String
  | .unconfigured => "Контроль аварий не настроен."
  | .disconnected => "Данные об авариях недоступны: нет связи с Cerbo GX."
  | .incomplete =>
      "Часть данных об авариях отсутствует или некорректна. Контроль аварий неполный."
  | .stale => "Часть данных об авариях устарела. Контроль аварий неполный."
  | .clear => "В контролируемых источниках активных аварий нет."

/-- How many alarms and warnings there are when not all are spoken, and how many are left. -/
structure Counts where
  alarms : Nat
  warnings : Nat
  remaining : Nat

/-- An alarm as it is spoken: its severity and its source. -/
structure SpokenAlarm where
  severity : Severity
  source : String

structure AlarmFact where
  counts : Option Counts
  spoken : List SpokenAlarm
  coverage : Option Coverage

def AlarmFact.of (alarms : Alarms) (connected : Bool) : AlarmFact where
  counts :=
    if spokenAlarmLimit < alarms.active.length then
      let count := (alarms.active.filter fun alarm => alarm.severity == .alarm).length
      some ⟨count, alarms.active.length - count, alarms.active.length - spokenAlarmLimit⟩
    else none
  spoken := (Alarms.spoken alarms.active).map fun alarm => ⟨alarm.severity, alarm.source⟩
  coverage :=
    match alarms.status with
    | .unconfigured => some .unconfigured
    | .unavailable => some (if connected then .incomplete else .disconnected)
    | .stale => some .stale
    | .fresh => if alarms.active.isEmpty then some .clear else none

def Counts.english (counts : Counts) : String :=
  "Monitored sources report " ++ toString counts.alarms ++ " " ++
    (if counts.alarms = 1 then "alarm" else "alarms") ++ " and " ++ toString counts.warnings ++ " " ++
    (if counts.warnings = 1 then "warning" else "warnings") ++ "."

def Counts.englishRest (counts : Counts) : String :=
  "Plus " ++ toString counts.remaining ++ " more active " ++
    (if counts.remaining = 1 then "alert" else "alerts") ++
    ". The full list is available from the gateway."

def SpokenAlarm.english (alarm : SpokenAlarm) : String :=
  (match alarm.severity with
    | .warning => "Warning"
    | .alarm => "Alarm") ++ ": " ++ (sourceLabel alarm.source).getD "" ++ "."

def AlarmFact.english (fact : AlarmFact) : String :=
  Text.joinSpace ((fact.counts.map Counts.english).toList ++ fact.spoken.map SpokenAlarm.english ++
    (fact.counts.map Counts.englishRest).toList ++ (fact.coverage.map Coverage.english).toList)

def Counts.russian (counts : Counts) : Option String :=
  (Russian.neuterWords counts.warnings).map fun warnings =>
    "В контролируемых источниках: " ++ Russian.integerWords counts.alarms true ++ " " ++
      Russian.form counts.alarms "авария" "аварии" "аварий" ++ " и " ++ warnings ++ " " ++
      Russian.form counts.warnings "предупреждение" "предупреждения" "предупреждений" ++ "."

def Counts.russianRest (counts : Counts) : String :=
  "Ещё " ++ Russian.integerWords counts.remaining false ++ " " ++
    Russian.form counts.remaining "активный сигнал" "активных сигнала" "активных сигналов" ++
    ". Полный список доступен в шлюзе."

def SpokenAlarm.russian (alarm : SpokenAlarm) : String :=
  (match alarm.severity with
    | .warning => "Предупреждение"
    | .alarm => "Авария") ++ ": " ++ Russian.alarmLabel alarm.source ++ "."

def AlarmFact.russian (fact : AlarmFact) : Option String := do
  let summary ←
    match fact.counts with
    | some counts => counts.russian.map fun text => [text]
    | none => some []
  some (Text.joinSpace (summary ++ fact.spoken.map SpokenAlarm.russian ++
    (fact.counts.map Counts.russianRest).toList ++ (fact.coverage.map Coverage.russian).toList))

/-- Both programs cover the same. -/
theorem coverage_facts (alarms : Alarms) (connected : Bool) :
    Alarms.coverage alarms.status connected alarms.active =
        (AlarmFact.of alarms connected).coverage.map Coverage.english ∧
      Russian.coverage alarms.status connected alarms.active =
        (AlarmFact.of alarms connected).coverage.map Coverage.russian := by
  unfold Alarms.coverage Russian.coverage AlarmFact.of
  cases alarms.status <;> cases connected <;> cases alarms.active <;> exact ⟨rfl, rfl⟩

/-- **The English program speaks the alarms.** -/
theorem alarms_report_eq {alarms : Alarms} (connected : Bool)
    (labelled : ∀ alarm ∈ alarms.active, sourceLabel alarm.source = some alarm.label) :
    (alarms.report connected).text = (AlarmFact.of alarms connected).english := by
  have messages : ((Alarms.spoken alarms.active).map fun alarm =>
      (match alarm.severity with
        | .warning => "Warning"
        | .alarm => "Alarm") ++ ": " ++ alarm.label ++ ".") =
        (AlarmFact.of alarms connected).spoken.map SpokenAlarm.english := by
    simp only [AlarmFact.of, List.map_map]
    refine List.map_congr_left fun alarm spoken => ?_
    have label := labelled alarm (Alarms.mem_spoken spoken)
    simp only [Function.comp_apply, SpokenAlarm.english, label, Option.getD_some]
  have covered := (coverage_facts alarms connected).1
  unfold Alarms.report AlarmFact.english
  dsimp only
  rw [covered, ← messages]
  by_cases summarized : spokenAlarmLimit < alarms.active.length
  · simp only [AlarmFact.of, summarized, if_true]
    rfl
  · simp only [AlarmFact.of, summarized, if_false]
    rfl

/-- **The Russian program speaks the same alarms.** -/
theorem alarmReport_facts {alarms : Alarms} (connected : Bool)
    (labelled : ∀ alarm ∈ alarms.active, alarm.label = Russian.alarmLabel alarm.source) :
    Russian.alarmReport alarms connected = (AlarmFact.of alarms connected).russian := by
  have messages : ((Alarms.spoken alarms.active).map fun alarm =>
      (match alarm.severity with
        | .warning => "Предупреждение"
        | .alarm => "Авария") ++ ": " ++ alarm.label ++ ".") =
        (AlarmFact.of alarms connected).spoken.map SpokenAlarm.russian := by
    simp only [AlarmFact.of, List.map_map]
    refine List.map_congr_left fun alarm spoken => ?_
    simp only [Function.comp_apply, SpokenAlarm.russian, labelled alarm (Alarms.mem_spoken spoken)]
  have covered := (coverage_facts alarms connected).2
  unfold Russian.alarmReport AlarmFact.russian
  dsimp only
  rw [covered, ← messages]
  by_cases summarized : spokenAlarmLimit < alarms.active.length
  · simp only [AlarmFact.of, summarized, if_true, Counts.russian, Option.map_map]
    rfl
  · simp only [AlarmFact.of, summarized, if_false]
    rfl

/-- The alarms under other labels. -/
def Alarms.relabel (alarms : Alarms) (label : String → String) : Alarms :=
  { alarms with active := alarms.active.map fun alarm => { alarm with label := label alarm.source } }

/-- Labels are no facts. -/
theorem alarmFact_relabel (alarms : Alarms) (label : String → String) (connected : Bool) :
    AlarmFact.of (alarms.relabel label) connected = AlarmFact.of alarms connected := by
  have severe : ∀ severity : Severity,
      ((alarms.relabel label).active.filter fun alarm => alarm.severity == severity) =
        (alarms.active.filter fun alarm => alarm.severity == severity).map fun alarm =>
          { alarm with label := label alarm.source } := by
    intro severity
    simp only [Alarms.relabel, List.filter_map]
    rfl
  have length : (alarms.relabel label).active.length = alarms.active.length :=
    List.length_map _
  have spoken : Alarms.spoken (alarms.relabel label).active =
      (Alarms.spoken alarms.active).map fun alarm => { alarm with label := label alarm.source } := by
    unfold Alarms.spoken Alarms.bySeverity
    rw [length, severe, severe, ← List.map_append, ← List.map_take]
    split <;> rfl
  have none : (alarms.relabel label).active.isEmpty = alarms.active.isEmpty := List.isEmpty_map
  unfold AlarmFact.of
  simp only [length, severe, spoken, none, List.length_map, List.map_map]
  rfl

/-! ## Labels -/

/-- What a label adds for a phase, in either language. -/
def englishPhase : Option String → String
  | some phase => " on phase " ++ phase
  | none => ""

def russianPhase : Option String → String
  | some phase => ", фаза " ++ Russian.phaseWord phase
  | none => ""

theorem russianPhase_injective : ∀ a ∈ phases, ∀ b ∈ phases,
    Russian.phaseWord a = Russian.phaseWord b → a = b := by decide

/-- Every alarm with an English label has a Russian one of its own. -/
theorem labels_cover : ∀ entry ∈ alarmLabels,
    '/' ∉ entry.1.2.toList ∧ (Russian.labels.lookup entry.1).isSome = true := by decide +kernel

theorem labels_specific : (Russian.genericLabel :: Russian.labels.map (·.2)).Nodup := by
  decide +kernel

/-- The Russian label of a source is that of the alarm its English label names. -/
def SameAlarm (source english : String) : Prop :=
  ∃ key base word phase, alarmLabels.lookup key = some base ∧ Russian.labels.lookup key = some word ∧
    word ≠ Russian.genericLabel ∧ (∀ p, phase = some p → p ∈ phases) ∧
    english = base ++ englishPhase phase ∧ Russian.alarmLabel source = word ++ russianPhase phase

/-- Both labels of a source, from one entry of each table; only the phase alarms
of an inverter have a phase. -/
theorem labels_of_label {source english : String} (labelled : sourceLabel source = some english) :
    ∃ service alarm base word phase, alarmLabels.lookup (service, alarm) = some base ∧
      Russian.labels.lookup (service, alarm) = some word ∧ word ≠ Russian.genericLabel ∧
      (∀ p, phase = some p → p ∈ phases ∧ service = "vebus" ∧ alarm ∈ phaseAlarms) ∧
      english = base ++ englishPhase phase ∧ Russian.alarmLabel source = word ++ russianPhase phase := by
  simp only [sourceLabel, alarmLabel, Option.bind_eq_bind, Option.bind_eq_some_iff] at labelled
  obtain ⟨⟨service, path⟩, outer, ⟨inst, leaf⟩, inner, name, strip, ⟨alarm, phase⟩, parsed, base,
    found, named⟩ := labelled
  have listed : ((service, alarm), base) ∈ alarmLabels := by
    obtain ⟨before, after, same, -⟩ := List.lookup_eq_some_iff.1 found
    rw [same]
    simp
  obtain ⟨flat, covered⟩ := labels_cover _ listed
  obtain ⟨word, spoken⟩ := Option.isSome_iff_exists.1 covered
  have specific : word ≠ Russian.genericLabel := by
    obtain ⟨before, after, same, -⟩ := List.lookup_eq_some_iff.1 spoken
    have member : word ∈ Russian.labels.map (·.2) := by
      rw [same]
      simp
    intro generic
    rw [generic] at member
    exact (List.nodup_cons.1 labels_specific).1 member
  have whole : Text.splitOnce name '/' = none → Russian.alarmLabel source =
      (Russian.labels.lookup (service, name)).getD Russian.genericLabel ++ russianPhase none := by
    intro unsplit
    simp only [Russian.alarmLabel, outer, inner, strip, unsplit, Option.bind_eq_bind,
      Option.bind_some]
    exact String.append_empty.symm
  have cut : ∀ head rest, Text.splitOnce name '/' = some (head, rest) → head ∈ phases →
      Russian.alarmLabel source = (Russian.labels.lookup (service, rest)).getD Russian.genericLabel ++
        russianPhase (some head) := by
    intro head rest parts legal
    simp only [Russian.alarmLabel, outer, inner, strip, parts, if_pos legal, russianPhase,
      Option.bind_eq_bind, Option.bind_some, String.append_assoc]
  refine ⟨service, alarm, base, word, phase, found, spoken, specific, ?_⟩
  unfold alarmName at parsed
  split at parsed
  · rename_i vebus
    split at parsed
    · rename_i head rest parts
      split at parsed
      · rename_i legal
        cases parsed
        cases named
        refine ⟨fun p same => ?_, String.append_assoc, ?_⟩
        · cases same
          exact ⟨legal.1, vebus, legal.2⟩
        · rw [cut head _ parts legal.1, spoken, Option.getD_some]
      · cases parsed
    · rename_i unsplit
      cases parsed
      cases named
      refine ⟨fun p same => (by cases same), String.append_empty.symm, ?_⟩
      rw [whole unsplit, spoken, Option.getD_some]
  · cases parsed
    cases named
    have unsplit : Text.splitOnce name '/' = none := Text.splitOnce_eq_none.2 flat
    refine ⟨fun p same => (by cases same), String.append_empty.symm, ?_⟩
    rw [whole unsplit, spoken, Option.getD_some]

/-- **Labels name the same alarm and phase.** -/
theorem sameAlarm_of_label {source english : String} (labelled : sourceLabel source = some english) :
    SameAlarm source english := by
  obtain ⟨service, alarm, base, word, phase, found, spoken, specific, legal, named, russian⟩ :=
    labels_of_label labelled
  exact ⟨(service, alarm), base, word, phase, found, spoken, specific,
    fun p same => (legal p same).1, named, russian⟩

end InverterGateway.Gateway

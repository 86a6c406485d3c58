/-
# Gateway.Brief — what the brief overview keeps

The brief text joins a short form of three metrics with the alarm report.  In
English a metric without a current value keeps its detailed notice; in Russian
every metric is shortened, notices included.  `Unmarked` texts have none of the
three words that only the detailed Russian notices use, and the Russian brief
text is one, so it keeps the notices exactly when there are none to keep.
-/
import InverterGateway.Gateway.AllClear

namespace InverterGateway.Gateway.Russian

open InverterGateway.Theory

set_option autoImplicit false

/-! ## Texts without the words of the detailed notices -/

/-- The words that tell the detailed Russian labels from the short ones. -/
def marks : List String := ["Заряд", "мощность", "работка"]

def Unmarked (s : String) : Prop := ∀ mark ∈ marks, Text.contains s mark = false

/-- What separates the words of a text. -/
def separators : List Char := [' ', ':', '.', ',']

theorem marks_whole {mark : String} (listed : mark ∈ marks) : mark.toList ≠ [] ∧
    (∀ c ∈ separators, c ∉ mark.toList) ∧ ∃ c ∈ mark.toList, c ∉ wordLetters := by
  have whole : (marks.all fun mark => !mark.toList.isEmpty &&
      (separators.all fun c => !mark.toList.contains c) &&
      mark.toList.any fun c => !wordLetters.contains c) = true := by decide +kernel
  have each := List.all_eq_true.1 whole mark listed
  simp only [Bool.and_eq_true, Bool.not_eq_true'] at each
  obtain ⟨⟨some, apart⟩, other⟩ := each
  obtain ⟨c, inside, new⟩ := List.any_eq_true.1 other
  refine ⟨fun none => ?_, Text.not_mem_of_all apart, c, inside, ?_⟩
  · rw [none] at some
    cases some
  · simpa using new

theorem unmarked_literal {s : String} {cs : List Char} (literal : s = String.ofList cs)
    (clear : ([['З', 'а', 'р', 'я', 'д'], ['м', 'о', 'щ', 'н', 'о', 'с', 'т', 'ь'],
      ['р', 'а', 'б', 'о', 'т', 'к', 'а']].all fun ps =>
        !(cs.tails.any fun rest => ps.isPrefixOf rest)) = true) : Unmarked s := by
  rw [List.all_eq_true] at clear
  intro mark listed
  have pattern : ∃ ps, mark = String.ofList ps ∧ ps ∈ [['З', 'а', 'р', 'я', 'д'],
      ['м', 'о', 'щ', 'н', 'о', 'с', 'т', 'ь'], ['р', 'а', 'б', 'о', 'т', 'к', 'а']] := by
    simp only [marks, List.mem_cons, List.not_mem_nil, or_false] at listed
    rcases listed with rfl | rfl | rfl
    · exact ⟨['З', 'а', 'р', 'я', 'д'], rfl, by simp⟩
    · exact ⟨['м', 'о', 'щ', 'н', 'о', 'с', 'т', 'ь'], rfl, by simp⟩
    · exact ⟨['р', 'а', 'б', 'о', 'т', 'к', 'а'], rfl, by simp⟩
  obtain ⟨ps, same, known⟩ := pattern
  have absent := clear ps known
  rw [Bool.not_eq_true'] at absent
  exact Text.not_contains_literal literal same absent

theorem Spelled.unmarked {s : String} (spelled : Spelled s) : Unmarked s := by
  intro mark listed
  obtain ⟨-, -, c, needed, other⟩ := marks_whole listed
  exact Text.not_contains_of_not_mem needed (spelled.ne other)

theorem unmarked_joinSpace {parts : List String} (all : ∀ s ∈ parts, Unmarked s) :
    Unmarked (Text.joinSpace parts) := by
  intro mark listed
  obtain ⟨some, apart, -⟩ := marks_whole listed
  exact Text.not_contains_joinSpace (apart ' ' (by decide)) some parts fun s found =>
    all s found mark listed

/-- No mark goes over a separator. -/
theorem Unmarked.sep {s t between : String} (left : Unmarked s) (right : Unmarked t) (c : Char)
    (single : between.toList = [c]) (known : c ∈ separators) : Unmarked (s ++ between ++ t) := by
  have same : between = String.singleton c :=
    Text.toList_injective (by rw [single, String.toList_singleton])
  intro mark listed
  obtain ⟨-, apart, -⟩ := marks_whole listed
  rw [same]
  exact Text.not_contains_sep (apart c known) (left mark listed) (right mark listed)

theorem Unmarked.space {s t : String} (left : Unmarked s) (right : Unmarked t) :
    Unmarked (s ++ " " ++ t) :=
  left.sep right ' ' (by decide) (by decide)

theorem Unmarked.stop {s : String} (left : Unmarked s) : Unmarked (s ++ ".") := by
  have point : ".".toList = ['.'] := by decide
  have whole := left.sep (unmarked_literal rfl rfl : Unmarked "") '.' point (by decide)
  rwa [String.append_empty] at whole

/-- A label, a colon and what it labels. -/
theorem Unmarked.colon {s t : String} (left : Unmarked s) (right : Unmarked t) :
    Unmarked (s ++ ": " ++ t) := by
  have sign : (": " : String) = ":" ++ "" ++ " " := by
    rw [String.append_empty]
    exact Text.append_literal rfl rfl rfl
  rw [sign, ← String.append_assoc, ← String.append_assoc]
  have label : Unmarked (s ++ ":" ++ "") :=
    left.sep (unmarked_literal rfl rfl) ':' (by decide) (by decide)
  exact label.space right

/-! ## The parts of the brief text -/

section Speech

variable {F : Type} [Binary64 F] [Binary64.Lawful F]

theorem spelled_unitWords : ∀ s ∈ unitWords, Spelled s := by
  simp only [unitWords, List.forall_mem_cons]
  repeat' apply And.intro
  all_goals first | exact spelled_literal rfl rfl | exact fun _ found => absurd found List.not_mem_nil

/-- A report under an unmarked label has no mark. -/
theorem metricReport_unmarked {m : Metric F}
    (present : ∀ v, m.value = some v → Binary64.Presentable v) {label text : String}
    (clear : Unmarked label) {connected : Bool} (same : metricReport m label connected = some text) :
    Unmarked text := by
  unfold metricReport at same
  split at same
  · rename_i value _ shown
    obtain ⟨words, last, spoken, spelled, listed⟩ := amount_eq (present value shown) m.unit
    rw [spoken] at same
    cases same
    have amount : Spelled (words ++ " " ++ last) := by
      rw [spelled_append, spelled_append]
      exact ⟨⟨spelled, spelled_literal rfl rfl⟩, spelled_unitWords last listed⟩
    exact (clear.colon amount.unmarked).stop
  · cases same
    have parts : (": источник не настроен." : String) = ": " ++ "источник не настроен." :=
      Text.append_literal rfl rfl rfl
    rw [parts, ← String.append_assoc]
    exact clear.colon (unmarked_literal rfl rfl)
  · cases same
    have parts : (": данные устарели, дождитесь обновления телеметрии." : String) =
        ": " ++ "данные устарели, дождитесь обновления телеметрии." := Text.append_literal rfl rfl rfl
    rw [parts, ← String.append_assoc]
    exact clear.colon (unmarked_literal rfl rfl)
  · split at same
    · cases same
      have parts : (": данные недоступны, нет связи с Cerbo GX." : String) =
          ": " ++ "данные недоступны, нет связи с Cerbo GX." := Text.append_literal rfl rfl rfl
      rw [parts, ← String.append_assoc]
      exact clear.colon (unmarked_literal rfl rfl)
    · cases same
      have parts : (": текущие данные отсутствуют или некорректны." : String) =
          ": " ++ "текущие данные отсутствуют или некорректны." := Text.append_literal rfl rfl rfl
      rw [parts, ← String.append_assoc]
      exact clear.colon (unmarked_literal rfl rfl)

end Speech

theorem alarmLabel_unmarked (source : String) : Unmarked (alarmLabel source) := by
  have table : ∀ entry ∈ labels, Unmarked entry.2 := by
    simp only [labels, List.forall_mem_cons]
    repeat' apply And.intro
    all_goals first
      | exact unmarked_literal rfl rfl
      | exact fun _ found => absurd found List.not_mem_nil
  have generic : Unmarked genericLabel := unmarked_literal rfl rfl
  have label : ∀ key, Unmarked ((labels.lookup key).getD genericLabel) := by
    intro key
    cases found : labels.lookup key with
    | none => exact generic
    | some text =>
        obtain ⟨before, after, same, -⟩ := List.lookup_eq_some_iff.1 found
        exact table (key, text) (by rw [same]; simp)
  have words : ∀ phase, Unmarked (phaseWord phase) := by
    intro phase
    unfold phaseWord
    split <;> exact unmarked_literal rfl rfl
  unfold alarmLabel
  dsimp only
  split
  · exact generic
  · split
    · rename_i phase _
      have blank : (", фаза " : String) = "," ++ " фаза" ++ " " := by
        have first : (", фаза" : String) = "," ++ " фаза" := Text.append_literal rfl rfl rfl
        rw [← first]
        exact Text.append_literal rfl rfl rfl
      rw [blank, ← String.append_assoc, ← String.append_assoc]
      have comma : ",".toList = [','] := by decide
      exact ((label _).sep (unmarked_literal rfl rfl) ',' comma (by decide)).space (words phase)
    · exact label _

set_option maxRecDepth 2000 in
theorem coverage_unmarked (status : Status) (connected : Bool) (active : List ActiveAlarm) :
    ∀ s ∈ (coverage status connected active).toList, Unmarked s := by
  intro s found
  cases status with
  | unconfigured =>
      obtain rfl := List.mem_singleton.1 found
      exact unmarked_literal rfl rfl
  | unavailable =>
      cases connected with
      | true =>
          obtain rfl := List.mem_singleton.1 found
          exact unmarked_literal rfl rfl
      | false =>
          obtain rfl := List.mem_singleton.1 found
          exact unmarked_literal rfl rfl
  | stale =>
      obtain rfl := List.mem_singleton.1 found
      exact unmarked_literal rfl rfl
  | fresh =>
      cases active with
      | nil =>
          obtain rfl := List.mem_singleton.1 found
          exact unmarked_literal rfl rfl
      | cons _ _ => exact absurd found List.not_mem_nil

theorem unmarked_form (value : Nat) {one few many : String} (first : Unmarked one)
    (second : Unmarked few) (third : Unmarked many) : Unmarked (form value one few many) :=
  forall_mem_three first second third _ (form_cases value one few many)

/-- The sentence that counts the alarms and the warnings. -/
theorem summary_unmarked (count warnings : Nat) {words : String} (spoken : Unmarked words) :
    Unmarked ("В контролируемых источниках: " ++ integerWords count true ++ " " ++
      form count "авария" "аварии" "аварий" ++ " и " ++ words ++ " " ++
      form warnings "предупреждение" "предупреждения" "предупреждений" ++ ".") := by
  have front : ("В контролируемых источниках: " : String) = "В контролируемых источниках" ++ ": " :=
    Text.append_literal rfl rfl rfl
  have middle : (" и " : String) = " " ++ ("и" ++ " ") := by
    have inner : ("и " : String) = "и" ++ " " := Text.append_literal rfl rfl rfl
    rw [← inner]
    exact Text.append_literal rfl rfl rfl
  have accidents : Unmarked (form count "авария" "аварии" "аварий") :=
    unmarked_form count (unmarked_literal rfl rfl) (unmarked_literal rfl rfl) (unmarked_literal rfl rfl)
  have nouns : Unmarked (form warnings "предупреждение" "предупреждения" "предупреждений") :=
    unmarked_form warnings (unmarked_literal rfl rfl) (unmarked_literal rfl rfl)
      (unmarked_literal rfl rfl)
  have number := (unmarked_literal rfl rfl : Unmarked "В контролируемых источниках").colon
    (spelled_integerWords count true).unmarked
  have counted := (number.space accidents).space (unmarked_literal rfl rfl : Unmarked "и")
  have whole := ((counted.space spoken).space nouns).stop
  rw [front, middle]
  simpa only [String.append_assoc] using whole

/-- The sentence that counts what is not spoken. -/
theorem rest_unmarked (remaining : Nat) :
    Unmarked ("Ещё " ++ integerWords remaining false ++ " " ++
      form remaining "активный сигнал" "активных сигнала" "активных сигналов" ++
      ". Полный список доступен в шлюзе.") := by
  have front : ("Ещё " : String) = "Ещё" ++ " " := Text.append_literal rfl rfl rfl
  have rest : (". Полный список доступен в шлюзе." : String) =
      "." ++ (" " ++ "Полный список доступен в шлюзе.") := by
    have inner : (" Полный список доступен в шлюзе." : String) =
        " " ++ "Полный список доступен в шлюзе." := Text.append_literal rfl rfl rfl
    rw [← inner]
    exact Text.append_literal rfl rfl rfl
  have signals : Unmarked (form remaining "активный сигнал" "активных сигнала" "активных сигналов") :=
    unmarked_form remaining (unmarked_literal rfl rfl) (unmarked_literal rfl rfl)
      (unmarked_literal rfl rfl)
  have number := (unmarked_literal rfl rfl : Unmarked "Ещё").space
    (spelled_integerWords remaining false).unmarked
  have whole := (number.space signals).stop.space
    (unmarked_literal rfl rfl : Unmarked "Полный список доступен в шлюзе.")
  rw [front, rest]
  simpa only [String.append_assoc] using whole

theorem message_unmarked {label : String} (unmarked : Unmarked label) :
    Unmarked ("Предупреждение" ++ ": " ++ label ++ ".") ∧ Unmarked ("Авария" ++ ": " ++ label ++ ".") :=
  ⟨((unmarked_literal rfl rfl : Unmarked "Предупреждение").colon unmarked).stop,
    ((unmarked_literal rfl rfl : Unmarked "Авария").colon unmarked).stop⟩

theorem alarmReport_unmarked {alarms : Alarms} {connected : Bool}
    (labelled : ∀ alarm ∈ alarms.active, Unmarked alarm.label) {text : String}
    (same : alarmReport alarms connected = some text) : Unmarked text := by
  have messages : ∀ alarm ∈ Alarms.spoken alarms.active,
      Unmarked ("Предупреждение" ++ ": " ++ alarm.label ++ ".") ∧
        Unmarked ("Авария" ++ ": " ++ alarm.label ++ ".") :=
    fun alarm spoken => message_unmarked (labelled alarm (Alarms.mem_spoken spoken))
  have covered := coverage_unmarked alarms.status connected alarms.active
  by_cases summarized : spokenAlarmLimit < alarms.active.length
  · obtain ⟨warningWords, known, spelled⟩ := neuterWords_eq
      (alarms.active.length - (alarms.active.filter fun alarm => alarm.severity == .alarm).length)
    simp only [alarmReport, summarized, if_true, known, Option.map_some, Option.bind_eq_bind,
      Option.bind_some, Option.some.injEq] at same
    rw [← same]
    apply unmarked_joinSpace
    intro s found
    simp only [List.mem_append, List.mem_singleton] at found
    rcases found with ((rfl | message) | rfl) | coverage
    · exact summary_unmarked _ _ spelled.unmarked
    · obtain ⟨alarm, spoken, rfl⟩ := List.mem_map.1 message
      cases alarm.severity with
      | warning => exact (messages alarm spoken).1
      | alarm => exact (messages alarm spoken).2
    · exact rest_unmarked _
    · exact covered s coverage
  · simp only [alarmReport, summarized, if_false, Option.bind_eq_bind, Option.bind_some,
      Option.some.injEq] at same
    rw [← same]
    apply unmarked_joinSpace
    intro s found
    simp only [List.nil_append, List.append_nil, List.mem_append] at found
    rcases found with message | coverage
    · obtain ⟨alarm, spoken, rfl⟩ := List.mem_map.1 message
      cases alarm.severity with
      | warning => exact (messages alarm spoken).1
      | alarm => exact (messages alarm spoken).2
    · exact covered s coverage

section Speech

variable {F : Type} [Binary64 F]

/-- A report starts with its label. -/
theorem metricReport_label {m : Metric F} {label text : String} {connected : Bool}
    (same : metricReport m label connected = some text) : ∃ rest, text = label ++ rest := by
  unfold metricReport at same
  split at same
  · obtain ⟨spoken, -, rfl⟩ := Option.map_eq_some_iff.1 same
    exact ⟨": " ++ (spoken ++ "."), by simp only [String.append_assoc]⟩
  · cases same
    exact ⟨_, rfl⟩
  · cases same
    exact ⟨_, rfl⟩
  · split at same
    · cases same
      exact ⟨_, rfl⟩
    · cases same
      exact ⟨_, rfl⟩

/-- A detailed report under a marked label is not in an unmarked text. -/
theorem detailed_absent {m : Metric F} {label text brief mark : String} {connected : Bool}
    (same : metricReport m label connected = some text) (listed : mark ∈ marks)
    (marked : Text.contains label mark = true) (clear : Unmarked brief) :
    Text.contains brief text = false := by
  obtain ⟨rest, rfl⟩ := metricReport_label same
  refine Text.not_contains_of_part mark ?_ (clear mark listed)
  rw [Text.contains_iff] at marked ⊢
  rw [String.toList_append]
  exact marked.trans (List.prefix_append _ _).isInfix

theorem battery_marked : Text.contains "Заряд аккумулятора" "Заряд" = true := by decide +kernel

theorem solar_marked : Text.contains "Солнечная мощность" "мощность" = true := by decide +kernel

theorem today_marked (chargers : Bool) : Text.contains (if chargers then
    "Выработка солнечных контроллеров сегодня" else "Солнечная выработка сегодня") "работка" = true := by
  cases chargers <;> decide +kernel

/-- **The Russian brief text has no mark.** -/
theorem brief_unmarked [Binary64.Lawful F] {metrics : Metrics F} (spoken : Spoken metrics)
    {status : Status} {active : List ActiveAlarm} {sources : List String} {age : Option Nat}
    {connected chargers : Bool} {alarm battery solar today : String}
    (alarm_text : alarmReport ⟨status, active.map fun alarm =>
      { alarm with label := alarmLabel alarm.source }, sources, age⟩ connected = some alarm)
    (battery_text : metricReport metrics.batterySoc "Аккумулятор" connected = some battery)
    (solar_text : metricReport metrics.solarPower "Солнце" connected = some solar)
    (today_text : metricReport metrics.solarToday
      (if chargers then "Солнечные контроллеры сегодня" else "Солнце сегодня") connected =
      some today) (none : Bool) :
    Unmarked (Text.joinSpace
      (if none then [battery, solar, today] ++ [alarm] else alarm :: [battery, solar, today])) := by
  have short : Unmarked (if chargers then "Солнечные контроллеры сегодня" else "Солнце сегодня") := by
    split <;> exact unmarked_literal rfl rfl
  have alarms : Unmarked alarm := by
    refine alarmReport_unmarked (fun found listed => ?_) alarm_text
    obtain ⟨original, -, rfl⟩ := List.mem_map.1 listed
    exact alarmLabel_unmarked original.source
  have parts := forall_mem_three (P := Unmarked)
    (metricReport_unmarked spoken.battery (unmarked_literal rfl rfl) battery_text)
    (metricReport_unmarked spoken.solar (unmarked_literal rfl rfl) solar_text)
    (metricReport_unmarked spoken.today short today_text)
  apply unmarked_joinSpace
  intro s found
  cases none with
  | true =>
      rcases List.mem_append.1 found with part | last
      · exact parts s part
      · rwa [List.mem_singleton.1 last]
  | false =>
      rcases List.mem_cons.1 found with rfl | part
      · exact alarms
      · exact parts s part

end Speech

end InverterGateway.Gateway.Russian

namespace InverterGateway.Gateway

open InverterGateway.Theory

/-! ## What the brief text owes -/

section

variable {F : Type} [Binary64 F]

/-- A current metric: configured, every reading valid and recent, and a finite sum. -/
structure Current (cfg : EnergyConfig) (readings : Table (Reading F)) (now : Instant) (unit : String)
    (sources : List String) : Prop where
  configured : sources ≠ []
  valid : AllValid unit readings false sources
  finite : Binary64.isFinite (total (sources.filterMap (sourceValue unit readings false))) = true
  recent : ¬ SomeStale readings now cfg.maxAge sources

/-- Battery, solar power and the daily yield are current. -/
def AllCurrent (cfg : EnergyConfig) (readings : Table (Reading F)) (now : Instant) : Prop :=
  Current cfg readings now "%" cfg.batterySources ∧ Current cfg readings now "W" cfg.solarPowerSources ∧
    Current cfg readings now "kWh" cfg.solarTodaySources

theorem metric_fresh_iff (cfg : EnergyConfig) (readings : Table (Reading F)) (now : Instant)
    (unit : String) (sources : List String) :
    (metric sources unit true readings now cfg.maxAge).status = .fresh ↔
      Current cfg readings now unit sources := by
  by_cases configured : sources = []
  · subst configured
    exact ⟨fun fresh => (by cases fresh), fun current => absurd rfl current.configured⟩
  · have valid := allValid_iff unit readings false sources
    have stale := someStale_iff readings now cfg.maxAge sources
    rw [metric, collectMetric_live configured]
    dsimp only
    constructor
    · intro fresh
      split at fresh
      · cases fresh
      · rename_i available
        simp only [Bool.or_eq_true, Bool.not_eq_true', not_or, Bool.not_eq_false] at available
        split at fresh
        · cases fresh
        · rename_i recent
          refine ⟨configured, valid.1 (Bool.not_eq_true _ ▸ available.1), available.2, ?_⟩
          exact fun older => recent (stale.2 older)
    · intro current
      have recent : ¬ cfg.maxAge < greatest (sources.filterMap (sourceAge readings now)) :=
        fun older => current.recent (stale.1 older)
      rw [valid.2 current.valid, current.finite, if_neg (by decide), if_neg recent]

/-- The brief text has the whole alarm report, first while alarms are active, and
the detailed notice of every metric that is not fresh. -/
structure KeepsNotices (response : EnergyResponse F) (brief : String) : Prop where
  alarms : Text.contains brief response.reports.alarms.text = true
  first : response.alarms.active ≠ [] → Text.startsWith brief response.reports.alarms.text = true
  battery : response.metrics.batterySoc.status ≠ .fresh →
    Text.contains brief response.reports.battery.text = true
  solar : response.metrics.solarPower.status ≠ .fresh →
    Text.contains brief response.reports.solar.text = true
  today : response.metrics.solarToday.status ≠ .fresh →
    Text.contains brief response.reports.solarToday.text = true

/-- The brief text drops no disclosure, and without a connection is the full status. -/
def Disclosed (response : EnergyResponse F) : Prop :=
  ∃ brief, response.reports.status.briefText = some brief ∧
    (response.mqttConnected = true → KeepsNotices response brief) ∧
    (response.mqttConnected = false → brief = response.reports.status.text)

/-! ## English -/

theorem briefMetric_kept {m : Metric F} {detailed : Report} {label brief : String}
    (inside : Text.contains brief (briefMetric m detailed label) = true) (mute : m.status ≠ .fresh) :
    Text.contains brief detailed.text = true := by
  unfold briefMetric at inside
  split at inside
  · rename_i value fresh _
    exact absurd fresh mute
  · exact inside

/-- Both orders of the brief text have the alarm report, first while alarms are
active, and every metric. -/
theorem brief_parts (active : List ActiveAlarm) (alarms battery solar today : String) :
    let parts := [battery, solar, today]
    let brief := Text.joinSpace (if active.isEmpty then parts ++ [alarms] else alarms :: parts)
    Text.contains brief alarms = true ∧ (active ≠ [] → Text.startsWith brief alarms = true) ∧
      Text.contains brief battery = true ∧ Text.contains brief solar = true ∧
      Text.contains brief today = true := by
  intro parts brief
  cases active with
  | nil =>
      refine ⟨?_, fun some => absurd rfl some, ?_, ?_, ?_⟩ <;>
        exact Text.contains_joinSpace (by simp [parts])
  | cons _ _ =>
      refine ⟨?_, fun _ => Text.startsWith_joinSpace _ _, ?_, ?_, ?_⟩ <;>
        exact Text.contains_joinSpace (by simp [parts])

/-- **The English brief text drops nothing.** -/
theorem english_disclosed (cfg : EnergyConfig) (connected : Bool) (readings : Table (Reading F))
    (now : Instant) (generatedAt : Nat) :
    Disclosed (EnergyResponse.build cfg connected readings now generatedAt) := by
  refine ⟨_, rfl, fun live => ?_, fun down => ?_⟩
  · have live : connected = true := live
    subst live
    obtain ⟨alarms, first, battery, solar, today⟩ := brief_parts
      (Alarms.build cfg true readings now).active _ _ _ _
    exact ⟨alarms, first, briefMetric_kept battery, briefMetric_kept solar, briefMetric_kept today⟩
  · have down : connected = false := down
    subst down
    rfl

end

/-! ## Russian -/

section Lawful

variable {F : Type} [Binary64 F] [Binary64.Lawful F]

/-- The three metrics that the brief text speaks are fresh. -/
structure Metrics.Fresh (metrics : Metrics F) : Prop where
  battery : metrics.batterySoc.status = .fresh
  solar : metrics.solarPower.status = .fresh
  today : metrics.solarToday.status = .fresh

/-- **The Russian brief text drops nothing exactly when every metric is fresh.** -/
theorem russian_disclosed {response russian : EnergyResponse F}
    (spoken : Russian.Spoken response.metrics)
    (localized : Russian.localize response = some russian) :
    Disclosed russian ↔ (response.mqttConnected = true → response.metrics.Fresh) := by
  simp only [Russian.localize, Option.bind_eq_bind, Option.bind_eq_some_iff,
    Option.some.injEq] at localized
  obtain ⟨battery, battery_text, solar, solar_text, today, today_text, alarm, alarm_text,
    batteryBrief, batteryBrief_text, solarBrief, solarBrief_text, todayBrief, todayBrief_text, flow,
    flow_text, rfl⟩ := localized
  by_cases live : response.mqttConnected = true
  · obtain ⟨alarms, first, -⟩ := brief_parts
      (response.alarms.active.map fun alarm => { alarm with label := Russian.alarmLabel alarm.source })
      alarm batteryBrief solarBrief todayBrief
    have clear := Russian.brief_unmarked spoken alarm_text batteryBrief_text solarBrief_text todayBrief_text
      (response.alarms.active.map fun alarm =>
        { alarm with label := Russian.alarmLabel alarm.source }).isEmpty
    simp only [Disclosed, if_pos live]
    constructor
    · rintro ⟨text, same, kept, -⟩ -
      obtain rfl := Option.some.inj same
      have kept := kept live
      refine ⟨?_, ?_, ?_⟩
      · by_contra mute
        have absent := Russian.detailed_absent battery_text (by decide) Russian.battery_marked clear
        rw [kept.battery mute] at absent
        cases absent
      · by_contra mute
        have absent := Russian.detailed_absent solar_text (by decide) Russian.solar_marked clear
        rw [kept.solar mute] at absent
        cases absent
      · by_contra mute
        have absent := Russian.detailed_absent today_text (by decide) (Russian.today_marked _) clear
        rw [kept.today mute] at absent
        cases absent
    · intro fresh
      have fresh := fresh live
      refine ⟨_, rfl, fun _ => ⟨alarms, first, ?_, ?_, ?_⟩, fun down => ?_⟩
      · exact fun mute => absurd fresh.battery mute
      · exact fun mute => absurd fresh.solar mute
      · exact fun mute => absurd fresh.today mute
      · exact absurd live (Bool.eq_false_iff.1 down)
  · refine ⟨fun _ connected => absurd connected live, fun _ =>
      ⟨_, rfl, fun connected => absurd connected live, fun _ => ?_⟩⟩
    simp only [if_neg live]

omit [Binary64.Lawful F] in
theorem fresh_iff (cfg : EnergyConfig) (readings : Table (Reading F)) (now : Instant) :
    (Metrics.build cfg true readings now).Fresh ↔ AllCurrent cfg readings now := by
  have battery := metric_fresh_iff cfg readings now "%" cfg.batterySources
  have solar := metric_fresh_iff cfg readings now "W" cfg.solarPowerSources
  have today := metric_fresh_iff cfg readings now "kWh" cfg.solarTodaySources
  constructor
  · intro fresh
    exact ⟨battery.1 fresh.battery, solar.1 fresh.solar, today.1 fresh.today⟩
  · rintro ⟨first, second, third⟩
    exact ⟨battery.2 first, solar.2 second, today.2 third⟩

/-- **When the brief text drops no disclosure**: without a connection, in English,
and in Russian when battery, solar power and the daily yield are all current. -/
theorem brief_discloses_iff (cfg : EnergyConfig) (connected : Bool) (readings : Table (Reading F))
    (now : Instant) (generatedAt : Nat) (locale : EnergyLocale) :
    ∃ response, (EnergyResponse.build cfg connected readings now generatedAt).localized locale =
        some response ∧
      (Disclosed response ↔ (connected = true → locale = .ru → AllCurrent cfg readings now)) := by
  cases locale with
  | en =>
      refine ⟨_, rfl, fun _ _ russian => (by cases russian), fun _ => ?_⟩
      exact english_disclosed cfg connected readings now generatedAt
  | ru =>
      have spoken := Russian.spoken_build cfg connected readings now
      obtain ⟨response, localized, -⟩ := Russian.localize_eq
        { EnergyResponse.build cfg connected readings now generatedAt with locale := .ru } spoken
      refine ⟨response, localized, ?_⟩
      rw [russian_disclosed spoken localized]
      cases connected with
      | false => exact ⟨fun _ live => (by cases live), fun _ live => (by cases live)⟩
      | true =>
          constructor
          · intro fresh _ _
            exact (fresh_iff cfg readings now).1 (fresh rfl)
          · intro current _
            exact (fresh_iff cfg readings now).2 (current rfl rfl)

end Lawful

/-- Three metrics read a second ago: the Russian brief text drops nothing. -/
theorem brief_discloses_iff_current :
    let cfg : EnergyConfig :=
      { solarPowerSources := ["system/0/Dc/Pv/Power"]
        solarTodaySources := ["solarcharger/1/History/Daily/0/Yield"] }
    let readings : Table (Reading Int) :=
      ((Table.empty.insert "system/0/Dc/Battery/Soc" ⟨.number (.posInt 55), 0⟩).insert
        "system/0/Dc/Pv/Power" ⟨.number (.posInt 1500), 0⟩).insert
        "solarcharger/1/History/Daily/0/Yield" ⟨.number (.posInt 4), 0⟩
    ∃ response, (EnergyResponse.build cfg true readings (secs 1) 0).localized .ru = some response ∧
      Disclosed response := by
  intro cfg readings
  obtain ⟨response, localized, discloses⟩ := brief_discloses_iff cfg true readings (secs 1) 0 .ru
  refine ⟨response, localized, discloses.2 fun _ _ => ⟨?_, ?_, ?_⟩⟩
  · exact (metric_fresh_iff cfg readings (secs 1) "%" _).1 (by decide)
  · exact (metric_fresh_iff cfg readings (secs 1) "W" _).1 (by decide)
  · exact (metric_fresh_iff cfg readings (secs 1) "kWh" _).1 (by decide)

/-- The default configuration, connected, nothing read yet: the Russian brief text
drops the notice of the battery. -/
theorem brief_text_drops_notices :
    ∃ response, (EnergyResponse.build (F := Int) {} true Table.empty (secs 1) 0).localized .ru =
        some response ∧ ¬ Disclosed response := by
  have spoken := Russian.spoken_build (F := Int) {} true Table.empty (secs 1)
  obtain ⟨response, localized, -⟩ := Russian.localize_eq
    { EnergyResponse.build (F := Int) {} true Table.empty (secs 1) 0 with locale := .ru } spoken
  refine ⟨response, localized, fun disclosed => ?_⟩
  have fresh : (Metrics.build (F := Int) {} true Table.empty (secs 1)).batterySoc.status = .fresh :=
    ((russian_disclosed spoken localized).1 disclosed rfl).battery
  have unread : (Metrics.build (F := Int) {} true Table.empty (secs 1)).batterySoc.status =
      .unavailable := by decide
  rw [unread] at fresh
  cases fresh

end InverterGateway.Gateway

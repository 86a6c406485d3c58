/-
# Gateway.SpeechLength — no spoken text is longer than 1200 characters

The English texts, which speak digits, and then the limit over both locales.
-/
import InverterGateway.Gateway.RussianLength

namespace InverterGateway.Gateway

open InverterGateway.Theory
open InverterGateway.Theory.Text (Fits fits_literal room)

set_option autoImplicit false

section Speech

variable {F : Type} [Binary64 F] [Binary64.Lawful F]

/-! ## Amounts -/

theorem trimDecimal_length {n : Nat} {s : String} (fits : Fits n s) : Fits n (trimDecimal s) := by
  unfold trimDecimal
  split
  · exact Text.fits_trimEndMatches (Text.fits_trimEndMatches fits _) _
  · exact fits

theorem fractionText_fits {digits : Nat} {s : String} (few : digits ≤ 2)
    (shape : Binary64.FractionText digits s) : Fits 3 s := by
  unfold Binary64.FractionText at shape
  split at shape
  · subst shape
    exact fits_literal rfl rfl
  · obtain ⟨fraction, rfl, -, length⟩ := shape
    have point : Fits 1 "." := fits_literal rfl rfl
    have short : Fits 2 fraction := Text.fits_iff.2 (by omega)
    exact point.append short

theorem decimal_fits {value : F} (present : Binary64.Presentable value) {digits : Nat}
    (few : digits ≤ 2) : Fits 34 (decimal value digits) := by
  obtain ⟨finite, unsigned⟩ := present.normalizeZero
  unfold decimal
  dsimp only
  cases large : Binary64.le (Binary64.ofNat 1000000000) (Binary64.normalizeZero value) with
  | true =>
      obtain ⟨lead, fraction, exponent, same, leadDigits, leadShort, shape, -, short⟩ :=
        Binary64.Lawful.scientific_text (Binary64.normalizeZero value) digits finite large
      have letter : "e".toList = ['e'] := by decide
      simp only [if_true]
      split
      · rename_i coefficient power parts
        obtain ⟨whole, -⟩ := Text.splitOnce_eq_some.1 parts
        have fractionShort := Text.fits_iff.1 (fractionText_fits few shape)
        have total : coefficient.toList.length + power.toList.length ≤ 7 := by
          have lengths := congrArg List.length whole
          rw [same] at lengths
          simp only [String.toList_append, letter, List.length_append, List.length_cons,
            List.length_nil] at lengths
          omega
        have times : Fits 27 " times ten to the power of " := fits_literal rfl rfl
        have trimmed := trimDecimal_length (Text.fits_iff.2 (le_refl coefficient.toList.length))
        have exact_power : Fits power.toList.length power := Text.fits_iff.2 (le_refl _)
        exact ((trimmed.append times).append exact_power).mono (by omega)
      · rename_i unsplit
        have inside : 'e' ∈ (Binary64.scientific (Binary64.normalizeZero value) digits).toList := by
          simp [same, String.toList_append, letter]
        exact absurd inside (Text.splitOnce_eq_none.1 unsplit)
  | false =>
      obtain ⟨whole, fraction, same, -, short, shape⟩ :=
        Binary64.Lawful.fixed_text (Binary64.normalizeZero value) digits finite unsigned large
      have wholeFits : Fits 10 whole := Text.fits_iff.2 short
      simp only [Bool.false_eq_true, if_false]
      rw [same]
      exact (trimDecimal_length (wholeFits.append (fractionText_fits few shape))).mono (by omega)

theorem spokenAmount_fits {value : F} (present : Binary64.Presentable value) (unit : String) :
    Fits 49 (spokenAmount value unit) := by
  have parts : Fits 34 (amountAndUnit value unit).1 ∧ Fits 14 (amountAndUnit value unit).2 := by
    unfold amountAndUnit
    split
    · exact ⟨decimal_fits present (by omega), fits_literal rfl rfl⟩
    · split
      · rename_i large
        obtain ⟨finite, pos⟩ := Binary64.Lawful.div_thousand value present.1 large
        exact ⟨decimal_fits ⟨finite, Or.inr pos⟩ (le_refl 2), fits_literal rfl rfl⟩
      · exact ⟨decimal_fits present (by omega), fits_literal rfl rfl⟩
    · exact ⟨decimal_fits present (le_refl 2), fits_literal rfl rfl⟩
  have space : Fits 1 " " := fits_literal rfl rfl
  unfold spokenAmount
  generalize amountAndUnit value unit = pair at parts ⊢
  obtain ⟨amount, word⟩ := pair
  show Fits (34 + 1 + 14) (amount ++ " " ++ _)
  refine (parts.1.append space).append ?_
  split
  · split
    · exact fits_literal rfl rfl
    · exact fits_literal rfl rfl
    · exact fits_literal rfl rfl
    · exact parts.2
  · exact parts.2

/-! ## Metrics and flow -/

omit [Binary64.Lawful F] in
/-- A metric without a number to speak. -/
theorem report_fits_mute {m : Metric F} {label : String} {n : Nat} (named : Fits n label)
    (mute : ∀ v, m.status = .fresh → m.value = some v → False) (connected : Bool) :
    Fits (n + 66) (report m label connected).text := by
  unfold report
  dsimp only
  split
  · rename_i value fresh shown
    exact (mute value fresh shown).elim
  · exact named.append (fits_literal rfl rfl)
  · exact named.append (fits_literal rfl rfl)
  · split
    · exact named.append (fits_literal rfl rfl)
    · exact named.append (fits_literal rfl rfl)

theorem report_fits {m : Metric F} (present : ∀ v, m.value = some v → Binary64.Presentable v)
    {label : String} {n : Nat} (named : Fits n label) (connected : Bool) :
    Fits (n + 66) (report m label connected).text := by
  by_cases mute : ∀ v, m.status = .fresh → m.value = some v → False
  · exact report_fits_mute named mute connected
  · simp only [not_forall, not_false_eq_true, exists_prop, and_true] at mute
    obtain ⟨v, fresh, shown⟩ := mute
    have verb : Fits 4 " is " := fits_literal rfl rfl
    have stop : Fits 1 "." := fits_literal rfl rfl
    simp only [report, fresh, shown]
    exact (((named.append verb).append (spokenAmount_fits (present v shown) _)).append stop).mono
      (by omega)

theorem briefMetric_fits {m : Metric F} (present : ∀ v, m.value = some v → Binary64.Presentable v)
    {detailed : Report} {n : Nat} (long : Fits (n + 66) detailed.text) {label : String}
    (named : Fits n label) : Fits (n + 66) (briefMetric m detailed label) := by
  unfold briefMetric
  split
  · rename_i value _ shown
    have space : Fits 1 " " := fits_literal rfl rfl
    have stop : Fits 1 "." := fits_literal rfl rfl
    exact (((named.append space).append (spokenAmount_fits (present value shown) _)).append stop).mono
      (by omega)
  · exact long

theorem directionalPowerReport_fits {m : Metric F}
    (finite : ∀ v, m.value = some v → Binary64.isFinite v = true) (grid : Bool) :
    Fits 86 (directionalPowerReport m grid).text := by
  have labels : Fits 20 (if grid then "Net grid power" else "System battery power") := by
    cases grid <;> exact fits_literal rfl rfl
  unfold directionalPowerReport
  dsimp only
  split
  · rename_i value _ shown
    cases zero : Binary64.eq value (Binary64.ofNat 0) with
    | true =>
        have nothing : Fits 12 " is 0 watts." := fits_literal rfl rfl
        exact (labels.append nothing).mono (by omega)
    | false =>
        obtain ⟨absFinite, pos⟩ := Binary64.Lawful.abs_pos value (finite value shown) zero
        have amount : Fits 49 (if (Binary64.lt (Binary64.ofNat 0) (Binary64.abs value) &&
            Binary64.lt (Binary64.abs value) (Binary64.ofNat 1)) = true then "less than 1 watt"
            else spokenAmount (Binary64.abs value) "W") := by
          split
          · exact fits_literal rfl rfl
          · exact spokenAmount_fits ⟨absFinite, Or.inr pos⟩ "W"
        have stop : Fits 1 "." := fits_literal rfl rfl
        have sentence : ∀ {opening : String}, Fits 33 opening → Fits 86 (opening ++ _ ++ ".") :=
          fun opening => ((opening.append amount).append stop).mono (by omega)
        simp only [Bool.false_eq_true, if_false]
        split <;> exact sentence (fits_literal rfl rfl)
  · rename_i mute
    refine (report_fits_mute labels ?_ true)
    exact fun v fresh shown => mute v fresh shown

/-! ## Alarms -/

theorem labels_short : ∀ entry ∈ alarmLabels, Fits 34 entry.2 := by
  simp only [alarmLabels, List.forall_mem_cons]
  repeat' apply And.intro
  all_goals first | exact fits_literal rfl rfl | exact fun _ found => absurd found List.not_mem_nil

theorem sourceLabel_fits {source label : String} (labelled : sourceLabel source = some label) :
    Fits 46 label := by
  obtain ⟨service, alarm, base, word, phase, found, -, -, legal, english, -⟩ :=
    labels_of_label labelled
  obtain ⟨before, after, same, -⟩ := List.lookup_eq_some_iff.1 found
  have short := labels_short ((service, alarm), base) (by rw [same]; simp)
  rw [english]
  cases phase with
  | none =>
      rw [englishPhase, String.append_empty]
      exact short.mono (by omega)
  | some p =>
      have said : Fits 10 " on phase " := fits_literal rfl rfl
      have listed : ∀ p ∈ phases, p.length ≤ 2 := by decide
      exact short.append (said.append (listed p (legal p rfl).1))

theorem Alarms.coverage_fits (status : Status) (connected : Bool) (active : List ActiveAlarm) :
    room (Alarms.coverage status connected active).toList ≤ 79 := by
  have said : ∀ text ∈ (Alarms.coverage status connected active).toList, Fits 78 text := by
    intro text found
    cases status with
    | unconfigured =>
        obtain rfl := List.mem_singleton.1 found
        exact fits_literal rfl rfl
    | unavailable =>
        cases connected <;> obtain rfl := List.mem_singleton.1 found <;> exact fits_literal rfl rfl
    | stale =>
        obtain rfl := List.mem_singleton.1 found
        exact fits_literal rfl rfl
    | fresh =>
        cases active with
        | nil =>
            obtain rfl := List.mem_singleton.1 found
            exact fits_literal rfl rfl
        | cons _ _ => cases found
  have one : (Alarms.coverage status connected active).toList.length ≤ 1 := by
    cases Alarms.coverage status connected active <;> simp
  have all := Text.room_le said
  omega

theorem english_fits {alarm : ActiveAlarm} (label : Fits 46 alarm.label) : Fits 56 alarm.english := by
  have colon : Fits 2 ": " := fits_literal rfl rfl
  have stop : Fits 1 "." := fits_literal rfl rfl
  unfold ActiveAlarm.english
  cases alarm.severity with
  | warning =>
      have word : Fits 7 "Warning" := fits_literal rfl rfl
      exact ((word.append colon).append label).append stop
  | alarm =>
      have word : Fits 5 "Alarm" := fits_literal rfl rfl
      exact (((word.append colon).append label).append stop).mono (by omega)

theorem english_counts_fit {counts : Counts} (few : counts.alarms + counts.warnings < 10 ^ 6) :
    Fits 59 counts.english := by
  have opening : Fits 25 "Monitored sources report " := fits_literal rfl rfl
  have space : Fits 1 " " := fits_literal rfl rfl
  have joint : Fits 5 " and " := fits_literal rfl rfl
  have stop : Fits 1 "." := fits_literal rfl rfl
  have alarms : Fits 6 (toString counts.alarms) := Text.fits_toString (by omega) (by omega)
  have warnings : Fits 6 (toString counts.warnings) := Text.fits_toString (by omega) (by omega)
  have alarmNoun : Fits 6 (if counts.alarms = 1 then "alarm" else "alarms") := by
    split <;> exact fits_literal rfl rfl
  have warningNoun : Fits 8 (if counts.warnings = 1 then "warning" else "warnings") := by
    split <;> exact fits_literal rfl rfl
  exact (((((((opening.append alarms).append space).append alarmNoun).append joint).append
    warnings).append space).append warningNoun).append stop

theorem english_rest_fits {counts : Counts} (few : counts.remaining < 10 ^ 6) :
    Fits 76 counts.englishRest := by
  have opening : Fits 5 "Plus " := fits_literal rfl rfl
  have middle : Fits 13 " more active " := fits_literal rfl rfl
  have number : Fits 6 (toString counts.remaining) := Text.fits_toString few (by omega)
  have noun : Fits 6 (if counts.remaining = 1 then "alert" else "alerts") := by
    split <;> exact fits_literal rfl rfl
  have closing : Fits 46 ". The full list is available from the gateway." := fits_literal rfl rfl
  exact (((opening.append number).append middle).append noun).append closing

/-- **The English alarm report.** -/
theorem Alarms.report_fits {alarms : Alarms} (few : alarms.active.length < 10 ^ 6)
    (labels : ∀ alarm ∈ alarms.active, Fits 46 alarm.label) (connected : Bool) :
    Fits 501 (alarms.report connected).text := by
  have announced := announces alarms connected
  have covered := Alarms.coverage_fits alarms.status connected alarms.active
  have limit : spokenAlarmLimit = 5 := rfl
  have messages : room ((Alarms.spoken alarms.active).map ActiveAlarm.english) ≤
      (Alarms.spoken alarms.active).length * 57 := by
    have all : ∀ text ∈ (Alarms.spoken alarms.active).map ActiveAlarm.english, Fits 56 text := by
      intro text found
      obtain ⟨alarm, listed, rfl⟩ := List.mem_map.1 found
      exact english_fits (labels alarm (Alarms.mem_spoken listed))
    have taken := Text.room_le all
    rwa [List.length_map] at taken
  rw [report_announced]
  refine (Text.fits_joinSpace _).mono ?_
  simp only [Text.room_append]
  by_cases long : spokenAlarmLimit < alarms.active.length
  · obtain ⟨five, -, -, -, counts, stated, -, -, total, remaining⟩ := announced.long long
    have counted : counts.english.length ≤ 59 := english_counts_fit (by omega)
    have rest : counts.englishRest.length ≤ 76 := english_rest_fits (by omega)
    rw [stated, Option.map_some, Option.map_some, Option.toList_some, Option.toList_some,
      Text.room_cons, Text.room_cons, Text.room_nil]
    omega
  · obtain ⟨all, none⟩ := announced.short (by omega)
    rw [all] at messages ⊢
    rw [none, Option.map_none, Option.map_none, Option.toList_none, Text.room_nil]
    omega

/-! ## Whole responses -/

theorem flowReport_fits {load grid battery : Metric F}
    (loadPresent : ∀ v, load.value = some v → Binary64.Presentable v)
    (gridFinite : ∀ v, grid.value = some v → Binary64.isFinite v = true)
    (batteryFinite : ∀ v, battery.value = some v → Binary64.isFinite v = true) (connected : Bool) :
    Fits 1200 (flowReport load grid battery connected).text := by
  unfold flowReport
  split
  · have said : Fits 77 "Energy flow is unavailable because the gateway is disconnected from Cerbo GX." :=
      fits_literal rfl rfl
    exact said.mono (by omega)
  · have label : Fits 25 "Configured AC consumption" := fits_literal rfl rfl
    have space : Fits 1 " " := fits_literal rfl rfl
    have sum := ((((report_fits loadPresent label connected).append space).append
      (directionalPowerReport_fits gridFinite true)).append space).append
      (directionalPowerReport_fits batteryFinite false)
    exact sum.mono (by omega)

omit [Binary64.Lawful F] in
/-- At most one alarm of each source. -/
theorem active_length (cfg : EnergyConfig) (connected : Bool) (readings : Table (Reading F))
    (now : Instant) :
    (Alarms.build cfg connected readings now).active.length ≤ cfg.alarmSources.length := by
  cases connected with
  | false => simp [Alarms.build]
  | true =>
      have listed := (active_sublist cfg readings now).length_le
      rwa [List.length_map] at listed

/-- The battery of an accepted configuration has at most one source. -/
theorem one_battery {raw : RawEnergy} {cfg : EnergyConfig} (accept : configure raw = .ok cfg) :
    cfg.batterySources.length ≤ 1 := by
  obtain ⟨contract, seconds, -, rfl⟩ := configure_eq_ok.1 accept
  show (sorted (items (raw.sources .battery))).length ≤ 1
  rw [(sorted_perm _).length_eq]
  exact contract.battery

theorem build_fits {cfg : EnergyConfig} (few : cfg.alarmSources.length < 10 ^ 6)
    (connected : Bool) (readings : Table (Reading F)) (now : Instant) (generatedAt : Nat) :
    (EnergyResponse.build cfg connected readings now generatedAt).reports.Limited := by
  have short := Nat.lt_of_le_of_lt (active_length cfg connected readings now) few
  have alarmsFit := Alarms.report_fits short
    (fun alarm listed => sourceLabel_fits (Alarms.build_labels cfg connected readings now alarm listed))
    connected
  have each : ∀ (sources : List String) (unit label : String), Fits 30 label →
      Fits 96 (report (metric sources unit connected readings now cfg.maxAge) label connected).text :=
    fun _ _ _ named => report_fits (fun _ shown => metric_presentable shown) named connected
  have brief : ∀ (sources : List String) (unit label word : String), Fits 30 label → Fits 30 word →
      Fits 96 (briefMetric (metric sources unit connected readings now cfg.maxAge)
        (report (metric sources unit connected readings now cfg.maxAge) label connected) word) :=
    fun sources unit label _ named short => briefMetric_fits (fun _ shown => metric_presentable shown)
      (each sources unit label named) short
  have daily : Fits 30 (if chargersOnly cfg.solarTodaySources then "Solar charger generation today"
      else "Solar generation today") := by
    split <;> exact fits_literal rfl rfl
  have dailyShort : Fits 30 (if chargersOnly cfg.solarTodaySources then "Solar chargers today"
      else "Solar today") := by
    split <;> exact fits_literal rfl rfl
  have space : Fits 1 " " := fits_literal rfl rfl
  have disconnected : Fits 1200 disconnectedText :=
    (fits_literal rfl rfl : Fits 77 disconnectedText).mono (by omega)
  have battery : Fits 30 "Battery charge" := fits_literal rfl rfl
  have solar : Fits 30 "Solar power" := fits_literal rfl rfl
  refine ⟨alarmsFit.mono (by omega), ?_, fun text shown => ?_, fun flow found => ?_⟩
  · show Fits 1200 (if connected then _ else disconnectedText)
    split
    · have sum := (((((each cfg.batterySources "%" _ battery).append space).append
        (each cfg.solarPowerSources "W" _ solar)).append space).append
        (each cfg.solarTodaySources "kWh" _ daily)).append space |>.append alarmsFit
      exact sum.mono (by omega)
    · exact disconnected
  · have same : text = if connected then _ else disconnectedText := (Option.some.inj shown).symm
    rw [same]
    have parts := Text.fits_three
      (brief cfg.batterySources "%" _ "Battery" battery (fits_literal rfl rfl))
      (brief cfg.solarPowerSources "W" _ "Solar" solar (fits_literal rfl rfl))
      (brief cfg.solarTodaySources "kWh" _ _ daily dailyShort)
    have order : ∀ {text : String}, Fits 501 text → ∀ parts : List String, parts.length = 3 →
        (∀ s ∈ parts, Fits 96 s) →
        room (parts ++ [text]) - 1 ≤ 1200 ∧ room (text :: parts) - 1 ≤ 1200 := by
      intro text fits parts three each
      have taken := Text.room_le each
      unfold Fits at fits
      rw [Text.room_append, Text.room_cons, Text.room_nil, Text.room_cons]
      omega
    obtain ⟨last, first⟩ := order alarmsFit _ rfl parts
    split
    · refine (Text.fits_joinSpace _).mono ?_
      split
      · exact last
      · exact first
    · exact disconnected
  · have spoken := Russian.spoken_build cfg connected readings now
    unfold EnergyResponse.build at found
    dsimp only at found
    split at found
    · rename_i load grid battery hasLoad hasGrid hasBattery
      obtain rfl := Option.some.inj found
      exact flowReport_fits (spoken.load load hasLoad) (spoken.grid grid hasGrid)
        (spoken.flow battery hasBattery) connected
    · cases found

/-- **No long speech.**  Of an accepted configuration with fewer than a million
alarm sources, whatever the readings, the connection and the time, the response
exists in either locale, and its alarm, status, brief and flow texts have at
most 1200 characters each. -/
theorem speech_limited [Binary64.Hundred F] {raw : RawEnergy} {cfg : EnergyConfig}
    (accept : configure raw = .ok cfg) (few : cfg.alarmSources.length < 1000000) (connected : Bool)
    (readings : Table (Reading F)) (now : Instant) (generatedAt : Nat) (locale : EnergyLocale) :
    ∃ response, (EnergyResponse.build cfg connected readings now generatedAt).localized locale =
      some response ∧ response.reports.Limited := by
  have english := build_fits few connected readings now generatedAt
  cases locale with
  | en => exact ⟨_, rfl, english⟩
  | ru =>
      have bounded := Russian.bounded_build (one_battery accept) connected readings now
      obtain ⟨russian, localized, -⟩ := Russian.localize_eq
        { EnergyResponse.build cfg connected readings now generatedAt with locale := .ru }
        (Russian.spoken_build cfg connected readings now)
      have short := Nat.lt_of_le_of_lt (active_length cfg connected readings now) few
      exact ⟨russian, localized, @Russian.localize_fits F _ _ _
        { EnergyResponse.build cfg connected readings now generatedAt with locale := .ru } bounded
        short (Alarms.build_labels cfg connected readings now) english.flow russian localized⟩

end Speech

/-- Three alarm sources read two, one and nothing: the Russian texts. -/
theorem speech_limited_guarded :
    ∃ cfg, configure guarded = .ok cfg ∧ ∃ response,
      (EnergyResponse.build (F := Int) cfg true
        ((Table.empty.insert "battery/0/Alarms/LowVoltage" ⟨.number (.posInt 2), 0⟩).insert
          "vebus/0/Alarms/Ripple" ⟨.number (.posInt 1), 0⟩) (secs 1) 0).localized .ru = some response ∧
        response.reports.Limited := by
  obtain ⟨cfg, accept⟩ := accepted_of_isOk (show (configure guarded).isOk = true by decide +kernel)
  have few : cfg.alarmSources.length < 1000000 := by
    obtain ⟨-, seconds, -, rfl⟩ := configure_eq_ok.1 accept
    show (sorted (items (guarded.sources .alarm))).length < 1000000
    rw [(sorted_perm _).length_eq]
    decide
  exact ⟨cfg, accept, speech_limited accept few true _ _ 0 .ru⟩

end InverterGateway.Gateway

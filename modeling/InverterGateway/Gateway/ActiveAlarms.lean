/-
# Gateway.ActiveAlarms — which alarms are listed, and which are spoken

`active_iff` says which sources a scan lists, one by one and whatever the others
hold.  `Announces` says what a spoken report owes to the list: every entry of a
short list, and of a long one five entries by severity, with counts that add up.
-/
import InverterGateway.Gateway.Reachability
import InverterGateway.Gateway.Facts

namespace InverterGateway.Gateway

open InverterGateway.Theory

set_option autoImplicit false

/-! ## The list -/

section List

variable {F : Type} [Binary64 F]

/-- The alarm of one source, if it is active. -/
def activeOf (readings : Table (Reading F)) (now : Instant) (maxAge : Duration) (source : String) :
    Option ActiveAlarm := do
  let reading ← readings.get source
  let severity ← (severityOf reading.value).join
  let label ← sourceLabel source
  if maxAge < elapsed now reading.receivedAt then none else some ⟨source, severity, label⟩

theorem scanAlarm_activeOf (readings : Table (Reading F)) (now : Instant) (maxAge : Duration)
    (acc : AlarmScan) (source : String) :
    (scanAlarm readings now maxAge acc source).active =
      acc.active ++ (activeOf readings now maxAge source).toList := by
  unfold scanAlarm activeOf
  cases readings.get source with
  | none => simp
  | some reading =>
      cases severe : severityOf reading.value with
      | none => simp [severe]
      | some severity =>
          by_cases old : maxAge < elapsed now reading.receivedAt
          · cases severity <;> cases sourceLabel source <;> simp [severe, old]
          · cases severity <;> cases sourceLabel source <;> simp [severe, old]

/-- The list of a scan, source by source. -/
theorem scan_active (readings : Table (Reading F)) (now : Instant) (maxAge : Duration)
    (sources : List String) (acc : AlarmScan) :
    (sources.foldl (scanAlarm readings now maxAge) acc).active =
      acc.active ++ sources.filterMap (activeOf readings now maxAge) := by
  induction sources generalizing acc with
  | nil => rw [List.foldl_nil, List.filterMap_nil, List.append_nil]
  | cons source rest ih =>
      rw [List.foldl_cons, ih, scanAlarm_activeOf, List.append_assoc]
      cases found : activeOf readings now maxAge source with
      | none => rw [List.filterMap_cons_none found]; rfl
      | some alarm => rw [List.filterMap_cons_some found]; rfl

theorem build_active (cfg : EnergyConfig) (readings : Table (Reading F)) (now : Instant) :
    (Alarms.build cfg true readings now).active =
      cfg.alarmSources.filterMap (activeOf readings now cfg.maxAge) := by
  cases none : cfg.alarmSources.isEmpty with
  | true =>
      rw [List.isEmpty_iff] at none
      simp [Alarms.build, none]
  | false =>
      simp only [Alarms.build, none, Bool.not_true, Bool.or_self, Bool.false_eq_true, if_false,
        scan_active]
      rfl

/-- The number that raises a severity. -/
def Severity.level : Severity → Nat
  | .warning => 1
  | .alarm => 2

/-- A source reads the level of a severity, recently enough. -/
def Raised (readings : Table (Reading F)) (now : Instant) (maxAge : Duration) (source : String)
    (severity : Severity) : Prop :=
  ∃ reading x, readings.get source = some reading ∧ reading.value.asF64 = some x ∧
    Binary64.eq x (Binary64.ofNat severity.level) = true ∧ elapsed now reading.receivedAt ≤ maxAge

theorem severityOf_level [Binary64.Literals F] (value : Value F) (severity : Severity) :
    severityOf value = some (some severity) ↔
      ∃ x, value.asF64 = some x ∧ Binary64.eq x (Binary64.ofNat severity.level) = true := by
  unfold severityOf
  cases value.asF64 with
  | none => simp
  | some x =>
      have apart : ∀ m n : Nat, m < 3 → n < 3 → m ≠ n → Binary64.eq x (Binary64.ofNat m) = true →
          Binary64.eq x (Binary64.ofNat n) = false := by
        intro m n small small' other left
        rw [Bool.eq_false_iff]
        exact fun right => other
          (Binary64.Literals.literal_unique x m n (by omega) (by omega) left right)
      simp only [Option.some.injEq, exists_eq_left']
      cases severity with
      | warning =>
          show _ ↔ Binary64.eq x (Binary64.ofNat 1) = true
          by_cases one : Binary64.eq x (Binary64.ofNat 1) = true
          · simp [apart 1 0 (by omega) (by omega) (by omega) one, one]
          · simp only [one, if_false, iff_false, Bool.false_eq_true]
            split
            · exact fun same => by cases same
            · split
              · exact fun same => by cases same
              · exact fun same => by cases same
      | alarm =>
          show _ ↔ Binary64.eq x (Binary64.ofNat 2) = true
          by_cases two : Binary64.eq x (Binary64.ofNat 2) = true
          · simp [apart 2 0 (by omega) (by omega) (by omega) two,
              apart 2 1 (by omega) (by omega) (by omega) two, two]
          · simp only [two, if_false, iff_false, Bool.false_eq_true]
            split
            · exact fun same => by cases same
            · split
              · exact fun same => by cases same
              · exact fun same => by cases same

theorem activeOf_eq_some [Binary64.Literals F] {readings : Table (Reading F)} {now : Instant}
    {maxAge : Duration} {source : String} {alarm : ActiveAlarm} :
    activeOf readings now maxAge source = some alarm ↔ alarm.source = source ∧
      sourceLabel source = some alarm.label ∧ Raised readings now maxAge source alarm.severity := by
  simp only [activeOf, Option.bind_eq_bind, Option.bind_eq_some_iff]
  constructor
  · rintro ⟨reading, found, severity, severe, label, labelled, kept⟩
    split at kept
    · cases kept
    · rename_i recent
      cases kept
      obtain ⟨x, number, level⟩ := (severityOf_level reading.value severity).1
        (Option.join_eq_some_iff.1 severe)
      exact ⟨rfl, labelled, reading, x, found, number, level, Nat.le_of_not_lt recent⟩
  · rintro ⟨rfl, labelled, reading, x, found, number, level, recent⟩
    have severe := (severityOf_level reading.value alarm.severity).2 ⟨x, number, level⟩
    refine ⟨reading, found, alarm.severity, Option.join_eq_some_iff.2 severe, alarm.label, labelled, ?_⟩
    rw [if_neg (Nat.not_lt.2 recent)]

/-- The alarm sources of an accepted configuration are in strict order. -/
theorem alarmSources_sorted {raw : RawEnergy} {cfg : EnergyConfig} (accept : configure raw = .ok cfg) :
    cfg.alarmSources.Pairwise (· < ·) := by
  obtain ⟨contract, seconds, -, rfl⟩ := configure_eq_ok.1 accept
  have distinct : (sorted (items (raw.sources .alarm))).Nodup :=
    (sorted_perm _).nodup_iff.2 (contract.distinct .alarm)
  refine (List.Pairwise.and (sorted_pairwise (items (raw.sources .alarm))) distinct).imp ?_
  rintro a b ⟨below, other⟩
  exact lt_of_le_of_ne below other

theorem active_sublist (cfg : EnergyConfig) (readings : Table (Reading F)) (now : Instant) :
    ((Alarms.build cfg true readings now).active.map ActiveAlarm.source).Sublist cfg.alarmSources := by
  rw [build_active]
  generalize cfg.alarmSources = sources
  induction sources with
  | nil => exact List.Sublist.refl _
  | cons source rest ih =>
      cases found : activeOf readings now cfg.maxAge source with
      | none =>
          rw [List.filterMap_cons_none found]
          exact ih.cons source
      | some alarm =>
          rw [List.filterMap_cons_some found, List.map_cons]
          have own : alarm.source = source := by
            simp only [activeOf, Option.bind_eq_bind, Option.bind_eq_some_iff] at found
            obtain ⟨_, -, _, -, _, -, kept⟩ := found
            split at kept
            · cases kept
            · cases kept
              rfl
          rw [own]
          exact ih.cons_cons source

/-- **A source is listed exactly when it is raised**, whatever the other sources hold. -/
theorem active_iff [Binary64.Literals F] {raw : RawEnergy} {cfg : EnergyConfig}
    (accept : configure raw = .ok cfg) (readings : Table (Reading F)) (now : Instant)
    (source : String) (severity : Severity) :
    (∃ alarm ∈ (Alarms.build cfg true readings now).active,
        alarm.source = source ∧ alarm.severity = severity) ↔
      source ∈ cfg.alarmSources ∧ Raised readings now cfg.maxAge source severity := by
  rw [build_active]
  constructor
  · rintro ⟨alarm, listed, rfl, rfl⟩
    obtain ⟨source, member, active⟩ := List.mem_filterMap.1 listed
    obtain ⟨rfl, -, raised⟩ := activeOf_eq_some.1 active
    exact ⟨member, raised⟩
  · rintro ⟨member, raised⟩
    have listed : source ∈ cfg.sources .alarm := member
    obtain ⟨named, kind, rfl⟩ := names_of_configured accept listed
    obtain ⟨label, labelled⟩ := sourceLabel_render named kind
    refine ⟨⟨named.render, severity, label⟩, List.mem_filterMap.2 ⟨_, member, ?_⟩, rfl, rfl⟩
    exact activeOf_eq_some.2 ⟨rfl, labelled, raised⟩

end List

/-! ## What is spoken of a list -/

/-- The entries of one severity, in the order of the list. -/
def ofSeverity (severity : Severity) (active : List ActiveAlarm) : List ActiveAlarm :=
  active.filter fun alarm => alarm.severity == severity

/-- The entries named for a list, and the counts stated. -/
structure Announces (active named : List ActiveAlarm) (counts : Option Counts) : Prop where
  short : active.length ≤ spokenAlarmLimit → named = active ∧ counts = none
  long : spokenAlarmLimit < active.length →
    named.length = spokenAlarmLimit ∧ named.Subperm active ∧
    (∀ severity, (ofSeverity severity named).Sublist (ofSeverity severity active)) ∧
    ((∃ alarm ∈ named, alarm.severity = .warning) → ofSeverity .alarm named = ofSeverity .alarm active) ∧
    ∃ stated, counts = some stated ∧ stated.alarms = (ofSeverity .alarm active).length ∧
      stated.warnings = (ofSeverity .warning active).length ∧
      stated.alarms + stated.warnings = active.length ∧
      stated.remaining = active.length - spokenAlarmLimit

theorem bySeverity_perm (active : List ActiveAlarm) : (Alarms.bySeverity active).Perm active := by
  have opposite : ∀ alarm : ActiveAlarm, (!(alarm.severity == Severity.alarm)) =
      (alarm.severity == Severity.warning) := by
    intro alarm
    cases alarm.severity <;> rfl
  have parts := List.filter_append_perm (fun alarm => alarm.severity == Severity.alarm) active
  simp only [opposite] at parts
  exact parts

theorem length_ofSeverity (active : List ActiveAlarm) :
    (ofSeverity .alarm active).length + (ofSeverity .warning active).length = active.length := by
  have parts := (bySeverity_perm active).length_eq
  rwa [Alarms.bySeverity, List.length_append] at parts

theorem ofSeverity_ofSeverity (severity other : Severity) (active : List ActiveAlarm) :
    ofSeverity severity (ofSeverity other active) =
      if severity = other then ofSeverity other active else [] := by
  unfold ofSeverity
  rw [List.filter_filter]
  by_cases same : severity = other
  · subst same
    simp only [Bool.and_self, if_true]
  · rw [if_neg same, List.filter_eq_nil_iff]
    intro alarm _ both
    simp only [Bool.and_eq_true, beq_iff_eq] at both
    exact same (both.1.symm.trans both.2)

/-- Each severity keeps its entries and their order. -/
theorem ofSeverity_bySeverity (severity : Severity) (active : List ActiveAlarm) :
    ofSeverity severity (Alarms.bySeverity active) = ofSeverity severity active := by
  have parts : Alarms.bySeverity active = ofSeverity .alarm active ++ ofSeverity .warning active := rfl
  have apart : ofSeverity severity (ofSeverity .alarm active ++ ofSeverity .warning active) =
      ofSeverity severity (ofSeverity .alarm active) ++ ofSeverity severity (ofSeverity .warning active) :=
    List.filter_append ..
  rw [parts, apart, ofSeverity_ofSeverity, ofSeverity_ofSeverity]
  cases severity with
  | warning => rw [if_neg (by decide), if_pos rfl, List.nil_append]
  | alarm => rw [if_pos rfl, if_neg (by decide), List.append_nil]

/-- A warning is taken only after every alarm. -/
theorem take_bySeverity_warning {active : List ActiveAlarm} {n : Nat}
    (warned : ∃ alarm ∈ (Alarms.bySeverity active).take n, alarm.severity = .warning) :
    ofSeverity .alarm ((Alarms.bySeverity active).take n) = ofSeverity .alarm active := by
  have parts : Alarms.bySeverity active = ofSeverity .alarm active ++ ofSeverity .warning active := rfl
  rw [parts, List.take_append] at warned ⊢
  have fits : (ofSeverity .alarm active).length ≤ n := by
    by_contra more
    obtain ⟨alarm, found, warning⟩ := warned
    have none : n - (ofSeverity .alarm active).length = 0 := by omega
    rw [none, List.take_zero, List.append_nil] at found
    have severe := (List.mem_filter.1 (List.mem_of_mem_take found)).2
    rw [warning] at severe
    cases severe
  have warnings : ofSeverity .alarm
      ((ofSeverity .warning active).take (n - (ofSeverity .alarm active).length)) = [] := by
    refine List.filter_eq_nil_iff.2 fun alarm found severe => ?_
    have other := (List.mem_filter.1 (List.mem_of_mem_take found)).2
    rw [beq_iff_eq] at severe other
    rw [severe] at other
    cases other
  have apart : ofSeverity .alarm ((ofSeverity .alarm active).take n ++
      (ofSeverity .warning active).take (n - (ofSeverity .alarm active).length)) =
        ofSeverity .alarm ((ofSeverity .alarm active).take n) ++ ofSeverity .alarm
          ((ofSeverity .warning active).take (n - (ofSeverity .alarm active).length)) :=
    List.filter_append ..
  rw [apart, warnings, List.take_of_length_le fits, ofSeverity_ofSeverity, if_pos rfl, List.append_nil]

/-- **What both programs announce**: the entries spoken and the counts of the fact. -/
theorem announces (alarms : Alarms) (connected : Bool) :
    Announces alarms.active (Alarms.spoken alarms.active) (AlarmFact.of alarms connected).counts := by
  constructor
  · intro short
    have few : ¬ spokenAlarmLimit < alarms.active.length := Nat.not_lt.2 short
    simp only [Alarms.spoken, AlarmFact.of, if_neg few, and_self]
  · intro long
    have five : Alarms.spoken alarms.active =
        (Alarms.bySeverity alarms.active).take spokenAlarmLimit := by
      rw [Alarms.spoken, if_pos long]
    have total := (bySeverity_perm alarms.active).length_eq
    have sum := length_ofSeverity alarms.active
    rw [five]
    refine ⟨?_, ?_, fun severity => ?_, take_bySeverity_warning, ?_⟩
    · rw [List.length_take, total]
      omega
    · exact (List.take_sublist _ _).subperm.trans (bySeverity_perm alarms.active).subperm
    · rw [← ofSeverity_bySeverity severity alarms.active]
      exact (List.take_sublist _ _).filter _
    · refine ⟨_, if_pos long, rfl, ?_, ?_, rfl⟩
      · show alarms.active.length - (ofSeverity .alarm alarms.active).length = _
        omega
      · show (ofSeverity .alarm alarms.active).length +
          (alarms.active.length - (ofSeverity .alarm alarms.active).length) = _
        omega

/-! ## How it is spoken -/

def ActiveAlarm.english (alarm : ActiveAlarm) : String :=
  (match alarm.severity with
    | .warning => "Warning"
    | .alarm => "Alarm") ++ ": " ++ alarm.label ++ "."

def ActiveAlarm.russian (alarm : ActiveAlarm) : String :=
  (match alarm.severity with
    | .warning => "Предупреждение"
    | .alarm => "Авария") ++ ": " ++ alarm.label ++ "."

theorem report_announced (alarms : Alarms) (connected : Bool) :
    (alarms.report connected).text = Text.joinSpace
      (((AlarmFact.of alarms connected).counts.map Counts.english).toList ++
        (Alarms.spoken alarms.active).map ActiveAlarm.english ++
        ((AlarmFact.of alarms connected).counts.map Counts.englishRest).toList ++
        (Alarms.coverage alarms.status connected alarms.active).toList) := by
  unfold Alarms.report
  by_cases long : spokenAlarmLimit < alarms.active.length
  · simp only [AlarmFact.of, long, if_true]
    rfl
  · simp only [AlarmFact.of, long, if_false]
    rfl

/-- The counts can be said in Russian. -/
theorem counts_russian (counts : Counts) : ∃ summary, counts.russian = some summary := by
  obtain ⟨words, known, -⟩ := Russian.neuterWords_eq counts.warnings
  exact ⟨_, by rw [Counts.russian, known, Option.map_some]⟩

theorem alarmReport_announced (alarms : Alarms) (connected : Bool) :
    ∃ summary : List String,
      summary.map some = ((AlarmFact.of alarms connected).counts.map Counts.russian).toList ∧
      Russian.alarmReport alarms connected = some (Text.joinSpace
        (summary ++ (Alarms.spoken alarms.active).map ActiveAlarm.russian ++
          ((AlarmFact.of alarms connected).counts.map Counts.russianRest).toList ++
          (Russian.coverage alarms.status connected alarms.active).toList)) := by
  unfold Russian.alarmReport
  by_cases long : spokenAlarmLimit < alarms.active.length
  · obtain ⟨words, known, -⟩ := Russian.neuterWords_eq
      (alarms.active.length - (alarms.active.filter fun alarm => alarm.severity == .alarm).length)
    simp only [AlarmFact.of, long, if_true, known, Counts.russian, Option.map_some,
      Option.bind_eq_bind, Option.bind_some, Option.toList_some, Option.some.injEq]
    exact ⟨[_], rfl, rfl⟩
  · simp only [AlarmFact.of, long, if_false, Option.bind_eq_bind, Option.bind_some, Option.map_none,
      Option.toList_none, Option.some.injEq]
    exact ⟨[], rfl, rfl⟩

/-- **The alarm list and its summary.**  While connected, the list has each raised
source of an accepted configuration once, in order, whatever the others hold;
and the reports in both locales name the same entries of any list with the same
counts. -/
theorem alarms_listed_and_announced {F : Type} [Binary64 F] [Binary64.Literals F] {raw : RawEnergy}
    {cfg : EnergyConfig} (accept : configure raw = .ok cfg) (readings : Table (Reading F))
    (now : Instant) :
    ((Alarms.build cfg true readings now).active.map ActiveAlarm.source).Pairwise (· < ·) ∧
    (∀ source severity, (∃ alarm ∈ (Alarms.build cfg true readings now).active,
        alarm.source = source ∧ alarm.severity = severity) ↔
      source ∈ cfg.alarmSources ∧ Raised readings now cfg.maxAge source severity) ∧
    ∀ (alarms : Alarms) (connected : Bool), ∃ named counts, Announces alarms.active named counts ∧
      (alarms.report connected).text = Text.joinSpace
        ((counts.map Counts.english).toList ++ named.map ActiveAlarm.english ++
          (counts.map Counts.englishRest).toList ++
          (Alarms.coverage alarms.status connected alarms.active).toList) ∧
      ∃ summary : List String, summary.map some = (counts.map Counts.russian).toList ∧
        Russian.alarmReport alarms connected = some (Text.joinSpace
          (summary ++ named.map ActiveAlarm.russian ++ (counts.map Counts.russianRest).toList ++
            (Russian.coverage alarms.status connected alarms.active).toList)) := by
  refine ⟨(alarmSources_sorted accept).sublist (active_sublist cfg readings now),
    active_iff accept readings now, fun alarms connected => ?_⟩
  exact ⟨_, _, announces alarms connected, report_announced alarms connected,
    alarmReport_announced alarms connected⟩

/-- Three alarm sources of one site. -/
def guarded : RawEnergy where
  sources
    | .alarm => "battery/0/Alarms/LowSoc,battery/0/Alarms/LowVoltage,vebus/0/Alarms/Ripple"
    | _ => ""
  maxAge := "120"

/-- A battery alarm between an unread source and a clear one. -/
theorem alarms_listed_and_announced_battery :
    ∃ cfg, configure guarded = .ok cfg ∧
      ∃ alarm ∈ (Alarms.build (F := Int) cfg true
        ((Table.empty.insert "battery/0/Alarms/LowVoltage" ⟨.number (.posInt 2), 0⟩).insert
          "vebus/0/Alarms/Ripple" ⟨.number (.posInt 0), 0⟩) (secs 1)).active,
        alarm.source = "battery/0/Alarms/LowVoltage" ∧ alarm.severity = .alarm := by
  obtain ⟨cfg, accept⟩ := accepted_of_isOk (show (configure guarded).isOk = true by decide +kernel)
  obtain ⟨-, seconds, parsed, same⟩ := configure_eq_ok.1 accept
  have hundredTwenty : Text.parseU64 guarded.maxAge = some 120 := by decide +kernel
  have age : cfg.maxAge = secs 120 := by
    rw [parsed, Option.some.injEq] at hundredTwenty
    rw [same, hundredTwenty]
    rfl
  have listed : "battery/0/Alarms/LowVoltage" ∈ cfg.alarmSources := by
    show _ ∈ cfg.sources .alarm
    rw [same, accepted_sources, mem_sorted]
    decide
  refine ⟨cfg, accept, ((alarms_listed_and_announced accept _ _).2.1 _ _).2 ⟨listed, ?_⟩⟩
  rw [age]
  exact ⟨⟨.number (.posInt 2), 0⟩, 2, rfl, rfl, by decide, by decide⟩

end InverterGateway.Gateway

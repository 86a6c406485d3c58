/-
# Gateway.Alarms — alarm monitoring and its English report

`Alarms.build` looks at every configured alarm source once; `Alarms.report`
turns the result into a bounded English text.  The all-clear sentence is the
only text of the module with a capital N, so a text that is `Quiet` (has none)
cannot contain it.  `build_clear_iff` says when the scan finds nothing at all
wrong, and the two report lemmas say that exactly then the sentence is spoken.
-/
import InverterGateway.Gateway.Metric

namespace InverterGateway.Gateway

open InverterGateway.Theory

set_option autoImplicit false

/-! ## Data -/

inductive Severity where
  | warning
  | alarm
  deriving DecidableEq

structure ActiveAlarm where
  source : String
  severity : Severity
  label : String
  deriving DecidableEq

structure Alarms where
  status : Status
  active : List ActiveAlarm
  sources : List String
  ageSeconds : Option Nat

structure Report where
  text : String
  status : Status
  briefText : Option String

/-! ## The scan -/

section Build

variable {F : Type} [Binary64 F]

/-- The severity of an alarm value: none at zero, and no answer for other numbers. -/
def severityOf (value : Value F) : Option (Option Severity) :=
  match value.asF64 with
  | some x =>
      if Binary64.eq x (Binary64.ofNat 0) then some none
      else if Binary64.eq x (Binary64.ofNat 1) then some (some .warning)
      else if Binary64.eq x (Binary64.ofNat 2) then some (some .alarm)
      else none
  | none => none

/-- The label of an alarm source `service/instance/leaf`. -/
def sourceLabel (source : String) : Option String := do
  let (service, path) ← Text.splitOnce source '/'
  let (_, leaf) ← Text.splitOnce path '/'
  alarmLabel service leaf

/-- The accumulators of the pass over the alarm sources. -/
structure AlarmScan where
  unavailable : Bool := false
  stale : Bool := false
  completeAge : Bool := true
  oldest : Duration := 0
  active : List ActiveAlarm := []

def scanAlarm (readings : Table (Reading F)) (now : Instant) (maxAge : Duration)
    (acc : AlarmScan) (source : String) : AlarmScan :=
  match readings.get source with
  | none => { acc with unavailable := true, completeAge := false }
  | some reading =>
      let age := elapsed now reading.receivedAt
      let acc := { acc with oldest := max acc.oldest age }
      match severityOf reading.value with
      | none => { acc with unavailable := true }
      | some severity =>
          if maxAge < age then { acc with stale := true }
          else
            match severity with
            | none => acc
            | some severity =>
                match sourceLabel source with
                | some label => { acc with active := acc.active ++ [⟨source, severity, label⟩] }
                | none => { acc with unavailable := true }

/-- `Alarms::build`. -/
def Alarms.build (cfg : EnergyConfig) (connected : Bool) (readings : Table (Reading F))
    (now : Instant) : Alarms :=
  let alarms : Alarms :=
    { status := if cfg.alarmSources.isEmpty then .unconfigured else .unavailable
      active := []
      sources := cfg.alarmSources
      ageSeconds := none }
  if cfg.alarmSources.isEmpty || !connected then alarms
  else
    let scan := cfg.alarmSources.foldl (scanAlarm readings now cfg.maxAge) {}
    { alarms with
      active := scan.active
      ageSeconds := if scan.completeAge then some (asSecs scan.oldest) else none
      status := if scan.unavailable then .unavailable else if scan.stale then .stale else .fresh }

/-- A source that reads zero and is recent enough. -/
def ClearSource (readings : Table (Reading F)) (now : Instant) (maxAge : Duration)
    (source : String) : Prop :=
  ∃ reading value, readings.get source = some reading ∧ reading.value.asF64 = some value ∧
    Binary64.eq value (Binary64.ofNat 0) = true ∧ elapsed now reading.receivedAt ≤ maxAge

namespace AlarmScan

/-- Nothing was found wrong so far. -/
def Clear (scan : AlarmScan) : Prop :=
  scan.unavailable = false ∧ scan.stale = false ∧ scan.active = []

end AlarmScan

theorem severityOf_eq_none_severity (value : Value F) :
    severityOf value = some none ↔
      ∃ x, value.asF64 = some x ∧ Binary64.eq x (Binary64.ofNat 0) = true := by
  unfold severityOf
  cases value.asF64 with
  | none => simp
  | some x =>
      cases zero : Binary64.eq x (Binary64.ofNat 0) with
      | true => simp [zero]
      | false =>
          simp only [zero, Bool.false_eq_true, if_false, Option.some.injEq, exists_eq_left',
            iff_false]
          split
          · simp
          · split <;> simp

/-- A source keeps a scan clear exactly when it is clear itself. -/
theorem scanAlarm_clear (readings : Table (Reading F)) (now : Instant) (maxAge : Duration)
    (acc : AlarmScan) (source : String) :
    (scanAlarm readings now maxAge acc source).Clear ↔
      acc.Clear ∧ ClearSource readings now maxAge source := by
  unfold scanAlarm ClearSource
  cases found : readings.get source with
  | none => simp [AlarmScan.Clear]
  | some reading =>
      have zero := severityOf_eq_none_severity reading.value
      cases severe : severityOf reading.value with
      | none =>
          rw [severe] at zero
          have notZero : ¬ ∃ x, reading.value.asF64 = some x ∧
              Binary64.eq x (Binary64.ofNat 0) = true := fun h => by cases zero.2 h
          simp only [severe, AlarmScan.Clear, Bool.true_eq_false, false_and, false_iff, not_and]
          rintro - ⟨r, x, same, number, isZero, -⟩
          cases same
          exact notZero ⟨x, number, isZero⟩
      | some severity =>
          rw [severe] at zero
          by_cases old : maxAge < elapsed now reading.receivedAt
          · simp only [severe, old, if_true, AlarmScan.Clear, Bool.true_eq_false, false_and, and_false,
              false_iff, not_and]
            rintro - ⟨r, x, same, -, -, recent⟩
            cases same
            exact absurd recent (Nat.not_le.2 old)
          · have recent : elapsed now reading.receivedAt ≤ maxAge := Nat.le_of_not_lt old
            simp only [severe, old, if_false]
            cases severity with
            | none =>
                obtain ⟨x, number, isZero⟩ := zero.1 rfl
                simp only [AlarmScan.Clear]
                exact ⟨fun clear => ⟨clear, reading, x, rfl, number, isZero, recent⟩, And.left⟩
            | some level =>
                have notZero : ¬ ∃ x, reading.value.asF64 = some x ∧
                    Binary64.eq x (Binary64.ofNat 0) = true := fun h => by cases zero.2 h
                have dirty : ¬ ∃ r x, some reading = some r ∧ r.value.asF64 = some x ∧
                    Binary64.eq x (Binary64.ofNat 0) = true ∧ elapsed now r.receivedAt ≤ maxAge := by
                  rintro ⟨r, x, same, number, isZero, -⟩
                  cases same
                  exact notZero ⟨x, number, isZero⟩
                simp only [dirty, and_false, iff_false]
                cases sourceLabel source with
                | none => simp [AlarmScan.Clear]
                | some label => simp [AlarmScan.Clear]

theorem scan_clear (readings : Table (Reading F)) (now : Instant) (maxAge : Duration)
    (sources : List String) (acc : AlarmScan) :
    (sources.foldl (scanAlarm readings now maxAge) acc).Clear ↔
      acc.Clear ∧ ∀ source ∈ sources, ClearSource readings now maxAge source := by
  induction sources generalizing acc with
  | nil => simp
  | cons source rest ih =>
      rw [List.foldl_cons, ih, scanAlarm_clear, List.forall_mem_cons, and_assoc]

/-- **When nothing is wrong**: connected, something is monitored, and every
monitored source reads zero within the age limit. -/
theorem Alarms.build_clear_iff (cfg : EnergyConfig) (connected : Bool)
    (readings : Table (Reading F)) (now : Instant) :
    ((Alarms.build cfg connected readings now).status = .fresh ∧
        (Alarms.build cfg connected readings now).active = []) ↔
      connected = true ∧ cfg.alarmSources ≠ [] ∧
        ∀ source ∈ cfg.alarmSources, ClearSource readings now cfg.maxAge source := by
  have clear := scan_clear readings now cfg.maxAge cfg.alarmSources {}
  cases configured : cfg.alarmSources with
  | nil => simp [Alarms.build, configured]
  | cons first rest =>
      rw [configured] at clear
      cases connected with
      | false => simp [Alarms.build, configured]
      | true =>
          have fresh : ∀ scan : AlarmScan,
              ((if scan.unavailable then Status.unavailable
                  else if scan.stale then .stale else .fresh) = .fresh ∧ scan.active = []) ↔
                scan.Clear := by
            intro scan
            unfold AlarmScan.Clear
            cases scan.unavailable <;> cases scan.stale <;> simp
          simp only [Alarms.build, configured, List.isEmpty_cons, Bool.not_true, Bool.or_self,
            Bool.false_eq_true, if_false, fresh, clear]
          simp [AlarmScan.Clear]

/-- A source adds at most one alarm, under its label. -/
theorem scanAlarm_active (readings : Table (Reading F)) (now : Instant) (maxAge : Duration)
    (acc : AlarmScan) (source : String) :
    (scanAlarm readings now maxAge acc source).active = acc.active ∨
      ∃ severity label, sourceLabel source = some label ∧
        (scanAlarm readings now maxAge acc source).active =
          acc.active ++ [⟨source, severity, label⟩] := by
  unfold scanAlarm
  split
  · exact Or.inl rfl
  · dsimp only
    split
    · exact Or.inl rfl
    · split
      · exact Or.inl rfl
      · split
        · exact Or.inl rfl
        · split
          · rename_i label named
            exact Or.inr ⟨_, label, named, rfl⟩
          · exact Or.inl rfl

/-- Every active alarm carries the label of its source. -/
theorem Alarms.build_labels (cfg : EnergyConfig) (connected : Bool)
    (readings : Table (Reading F)) (now : Instant) :
    ∀ alarm ∈ (Alarms.build cfg connected readings now).active,
      sourceLabel alarm.source = some alarm.label := by
  have scanned : ∀ (sources : List String) (acc : AlarmScan),
      (∀ alarm ∈ acc.active, sourceLabel alarm.source = some alarm.label) →
      ∀ alarm ∈ (sources.foldl (scanAlarm readings now cfg.maxAge) acc).active,
        sourceLabel alarm.source = some alarm.label := by
    intro sources
    induction sources with
    | nil => exact fun _ all => all
    | cons source rest ih =>
        intro acc all
        refine ih _ fun alarm found => ?_
        rcases scanAlarm_active readings now cfg.maxAge acc source with
          same | ⟨severity, label, named, added⟩
        · exact all alarm (by rwa [same] at found)
        · rw [added, List.mem_append, List.mem_singleton] at found
          rcases found with earlier | rfl
          · exact all alarm earlier
          · exact named
  cases quick : cfg.alarmSources.isEmpty || !connected with
  | true =>
      simp only [Alarms.build, quick, if_true]
      exact fun _ found => absurd found List.not_mem_nil
  | false =>
      simp only [Alarms.build, quick, Bool.false_eq_true, if_false]
      exact scanned cfg.alarmSources {} fun _ found => absurd found List.not_mem_nil

end Build

/-! ## The report -/

/-- How many alarms are spoken in full. -/
def spokenAlarmLimit : Nat := 5

namespace Alarms

/-- The alarms before the warnings. -/
def bySeverity (active : List ActiveAlarm) : List ActiveAlarm :=
  active.filter (fun alarm => alarm.severity == .alarm) ++
    active.filter (fun alarm => alarm.severity == .warning)

/-- The alarms spoken one by one: all in source order, or the most severe few. -/
def spoken (active : List ActiveAlarm) : List ActiveAlarm :=
  if spokenAlarmLimit < active.length then (bySeverity active).take spokenAlarmLimit else active

/-- What the monitoring covers, unless alarms speak for themselves. -/
def coverage (status : Status) (connected : Bool) (active : List ActiveAlarm) : Option String :=
  match status with
  | .unconfigured => some "Alarm monitoring is not configured."
  | .unavailable =>
      if !connected then
        some "Alarm data is unavailable because the gateway is disconnected from Cerbo GX."
      else some "Some monitored alarm data is missing or invalid. Alarm coverage is incomplete."
  | .stale => some "Some monitored alarm data is stale. Alarm coverage is incomplete."
  | .fresh => if active.isEmpty then some "No active alarms in the monitored sources." else none

/-- `Alarms::report`. -/
def report (self : Alarms) (connected : Bool) : Report :=
  let summarized := spokenAlarmLimit < self.active.length
  let alarms := (self.active.filter fun alarm => alarm.severity == .alarm).length
  let warnings := self.active.length - alarms
  let summary :=
    if summarized then
      ["Monitored sources report " ++ toString alarms ++ " " ++
        (if alarms = 1 then "alarm" else "alarms") ++ " and " ++ toString warnings ++ " " ++
        (if warnings = 1 then "warning" else "warnings") ++ "."]
    else []
  let messages := (spoken self.active).map fun alarm =>
    (match alarm.severity with
      | .warning => "Warning"
      | .alarm => "Alarm") ++ ": " ++ alarm.label ++ "."
  let remaining := self.active.length - spokenAlarmLimit
  let more :=
    if summarized then
      ["Plus " ++ toString remaining ++ " more active " ++
        (if remaining = 1 then "alert" else "alerts") ++
        ". The full list is available from the gateway."]
    else []
  { text := Text.joinSpace
      (summary ++ messages ++ more ++ (coverage self.status connected self.active).toList)
    status := self.status
    briefText := none }

end Alarms

/-! ## What a report can say -/

/-- A text without the capital N that begins the all-clear sentence. -/
def Quiet (s : String) : Prop := 'N' ∉ s.toList

instance (s : String) : Decidable (Quiet s) := inferInstanceAs (Decidable ('N' ∉ s.toList))

@[simp] theorem quiet_append {s t : String} : Quiet (s ++ t) ↔ Quiet s ∧ Quiet t := by
  simp [Quiet, String.toList_append, not_or]

theorem quiet_literal {s : String} {cs : List Char} (literal : s = String.ofList cs)
    (clear : cs.contains 'N' = false) : Quiet s :=
  Text.not_mem_literal literal clear

theorem Quiet.of_digits {s : String} (digits : Text.Digits s) : Quiet s :=
  digits.ne (by decide)

theorem quiet_joinSpace {parts : List String} (all : ∀ s ∈ parts, Quiet s) :
    Quiet (Text.joinSpace parts) := by
  intro found
  rcases Text.mem_joinSpace parts found with blank | ⟨s, listed, inside⟩
  · cases blank
  · exact all s listed inside

theorem alarmLabel_quiet {service leaf label : String}
    (known : alarmLabel service leaf = some label) : Quiet label := by
  have table : ∀ entry ∈ alarmLabels, Quiet entry.2 := by
    simp only [alarmLabels, List.forall_mem_cons]
    repeat' apply And.intro
    all_goals first
      | exact quiet_literal rfl rfl
      | exact fun _ found => absurd found List.not_mem_nil
  have phase_quiet : ∀ phase ∈ phases, Quiet phase := by decide
  unfold alarmLabel at known
  simp only [Option.bind_eq_bind, Option.bind_eq_some_iff] at known
  obtain ⟨name, -, ⟨alarm, phase⟩, split, label', found, rest⟩ := known
  have quiet : Quiet label' := by
    obtain ⟨before, after, same, -⟩ := List.lookup_eq_some_iff.1 found
    exact table ((service, alarm), label') (by rw [same]; simp)
  cases phase with
  | none =>
      cases rest
      exact quiet
  | some phase =>
      cases rest
      have listed : phase ∈ phases := by
        unfold alarmName at split
        split at split
        · split at split
          · split at split
            · rename_i ok
              cases split
              exact ok.1
            · cases split
          · cases split
        · cases split
      rw [quiet_append, quiet_append]
      exact ⟨⟨quiet, quiet_literal rfl rfl⟩, phase_quiet phase listed⟩

theorem sourceLabel_quiet {source label : String} (known : sourceLabel source = some label) :
    Quiet label := by
  unfold sourceLabel at known
  simp only [Option.bind_eq_bind, Option.bind_eq_some_iff] at known
  obtain ⟨⟨service, path⟩, -, ⟨inst, leaf⟩, -, named⟩ := known
  exact alarmLabel_quiet named

namespace Alarms

/-- The English all-clear sentence. -/
def allClear : String := "No active alarms in the monitored sources."

/-- Nothing wrong is reported as the all-clear sentence alone. -/
theorem report_clear {self : Alarms} (connected : Bool) (fresh : self.status = .fresh)
    (none : self.active = []) : (self.report connected).text = allClear := by
  simp [report, fresh, none, coverage, spoken, spokenAlarmLimit, Text.joinSpace, allClear]

theorem mem_spoken {active : List ActiveAlarm} {alarm : ActiveAlarm}
    (found : alarm ∈ spoken active) : alarm ∈ active := by
  unfold spoken at found
  split at found
  · have member := List.mem_of_mem_take found
    rw [bySeverity, List.mem_append, List.mem_filter, List.mem_filter] at member
    rcases member with ⟨here, -⟩ | ⟨here, -⟩ <;> exact here
  · exact found

theorem coverage_quiet {status : Status} {connected : Bool} {active : List ActiveAlarm}
    (wrong : ¬(status = .fresh ∧ active = [])) :
    ∀ s ∈ (coverage status connected active).toList, Quiet s := by
  intro s found
  cases status with
  | unconfigured =>
      obtain rfl := List.mem_singleton.1 found
      exact quiet_literal rfl rfl
  | unavailable =>
      cases connected with
      | true =>
          obtain rfl := List.mem_singleton.1 found
          exact quiet_literal rfl rfl
      | false =>
          obtain rfl := List.mem_singleton.1 found
          exact quiet_literal rfl rfl
  | stale =>
      obtain rfl := List.mem_singleton.1 found
      exact quiet_literal rfl rfl
  | fresh =>
      cases active with
      | nil => exact absurd ⟨rfl, rfl⟩ wrong
      | cons _ _ => exact absurd found List.not_mem_nil

/-- Anything wrong keeps the all-clear sentence out of the report. -/
theorem report_quiet {self : Alarms} (connected : Bool)
    (labels : ∀ alarm ∈ self.active, Quiet alarm.label)
    (wrong : ¬(self.status = .fresh ∧ self.active = [])) :
    Quiet (self.report connected).text := by
  have number : ∀ n : Nat, Quiet (toString n) := fun n => .of_digits (Text.digits_toString n)
  apply quiet_joinSpace
  intro s found
  simp only [List.mem_append] at found
  rcases found with ((summary | message) | more) | covered
  · split at summary
    · obtain rfl := List.mem_singleton.1 summary
      simp only [quiet_append, number, and_true]
      refine ⟨⟨⟨⟨⟨⟨quiet_literal rfl rfl, quiet_literal rfl rfl⟩, ?_⟩, quiet_literal rfl rfl⟩, quiet_literal rfl rfl⟩, ?_⟩, quiet_literal rfl rfl⟩
      · split <;> exact quiet_literal rfl rfl
      · split <;> exact quiet_literal rfl rfl
    · cases summary
  · obtain ⟨alarm, spoken, rfl⟩ := List.mem_map.1 message
    simp only [quiet_append]
    refine ⟨⟨⟨?_, quiet_literal rfl rfl⟩, labels alarm (mem_spoken spoken)⟩, quiet_literal rfl rfl⟩
    cases alarm.severity <;> exact quiet_literal rfl rfl
  · split at more
    · obtain rfl := List.mem_singleton.1 more
      simp only [quiet_append, number, and_true]
      refine ⟨⟨⟨quiet_literal rfl rfl, quiet_literal rfl rfl⟩, ?_⟩, quiet_literal rfl rfl⟩
      split <;> exact quiet_literal rfl rfl
    · cases more
  · exact coverage_quiet wrong s covered

end Alarms

end InverterGateway.Gateway

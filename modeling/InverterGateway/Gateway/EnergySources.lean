/-
# Gateway.EnergySources — the accepted energy configurations

The contract of the seven source lists and the age limit, and the theorem that
the validation accepts exactly the texts that keep it.  The lists it keeps are a
normal form: they do not depend on the order or spacing of the items, and
written out again they are accepted as themselves.
-/
import InverterGateway.Gateway.SourceRules

namespace InverterGateway.Gateway

open InverterGateway.Theory

set_option autoImplicit false

/-! ## The accepted configurations -/

/-- The seven lists of a configuration, by metric. -/
def EnergyConfig.sources (cfg : EnergyConfig) : MetricKind → List String
  | .battery => cfg.batterySources
  | .power => cfg.solarPowerSources
  | .today => cfg.solarTodaySources
  | .alarm => cfg.alarmSources
  | .loadPower => cfg.loadPowerSources
  | .gridPower => cfg.gridPowerSources
  | .batteryPower => cfg.batteryPowerSources

/-- The texts of an energy configuration: one for each metric, and the age limit. -/
structure RawEnergy where
  sources : MetricKind → String
  maxAge : String

/-- `EnergyConfig::parse` followed by `with_alarm_sources` and `with_flow_sources`. -/
def configure (raw : RawEnergy) : Except ConfigError EnergyConfig := do
  let cfg ← EnergyConfig.parse (raw.sources .battery) (raw.sources .power) (raw.sources .today) raw.maxAge
  let cfg ← cfg.withAlarmSources (raw.sources .alarm)
  cfg.withFlowSources (raw.sources .loadPower) (raw.sources .gridPower) (raw.sources .batteryPower)

/-- The flow items of a configuration. -/
def RawEnergy.flow (raw : RawEnergy) : List String :=
  items (raw.sources .loadPower) ++ items (raw.sources .gridPower) ++ items (raw.sources .batteryPower)

/-- The configuration contract, for a grammar of the items of each metric. -/
structure Acceptable (Grammar : MetricKind → String → Prop) (raw : RawEnergy) : Prop where
  grammar : ∀ kind, ∀ item ∈ items (raw.sources kind), Grammar kind item
  distinct : ∀ kind, (items (raw.sources kind)).Nodup
  battery : (items (raw.sources .battery)).length ≤ 1
  batteryPower : (items (raw.sources .batteryPower)).length ≤ 1
  maxAge : ∃ seconds, Text.parseU64 raw.maxAge = some seconds ∧ 0 < seconds
  solar : NoOverlap (items (raw.sources .power))
  solarSystem : OneSystem (items (raw.sources .power))
  flowSystem : ∀ a b : Source, a.render ∈ raw.flow → b.render ∈ raw.flow → a.inst = b.inst
  consumption : NoAggregate (items (raw.sources .loadPower))

/-- What a list needs to be accepted for a metric. -/
def Listed (kind : MetricKind) (raw : String) : Prop :=
  AllNamed kind (items raw) ∧ (items raw).Nodup

theorem parseSources_listed {kind : MetricKind} {raw : String} {sources : List String} :
    parseSources raw kind = .ok sources ↔ sources = sorted (items raw) ∧ Listed kind raw := by
  simp only [parseSources_eq_ok, sourceKind_eq_some, Listed, AllNamed]

theorem mem_sorted {x : String} {l : List String} : x ∈ sorted l ↔ x ∈ l :=
  (sorted_perm l).mem_iff

theorem allNamed_sorted {kind : MetricKind} {l : List String} :
    AllNamed kind (sorted l) ↔ AllNamed kind l := by
  simp only [AllNamed, mem_sorted]

theorem not_one_lt_sorted {l : List String} :
    decide (1 < (sorted l).length) = false ↔ l.length ≤ 1 := by
  rw [decide_eq_false_iff_not, (sorted_perm l).length_eq, Nat.not_lt]

theorem EnergyConfig.parse_eq_ok {battery power today maxAge : String} {cfg : EnergyConfig} :
    EnergyConfig.parse battery power today maxAge = .ok cfg ↔
      (Listed .battery battery ∧ (items battery).length ≤ 1) ∧
      (Listed .power power ∧ NoOverlap (items power) ∧ OneSystem (items power)) ∧
      Listed .today today ∧
      ∃ seconds, Text.parseU64 maxAge = some seconds ∧ 0 < seconds ∧
        cfg = { batterySources := sorted (items battery), solarPowerSources := sorted (items power),
                solarTodaySources := sorted (items today), maxAge := secs seconds } := by
  have overlap : Listed .power power → ∀ u, (validatePowerOverlap (sorted (items power)) = .ok u ↔
      NoOverlap (items power) ∧ OneSystem (items power)) := by
    intro listed u
    rw [validatePowerOverlap_eq_ok (allNamed_sorted.2 listed.1)]
    simp only [NoOverlap, OneSystem, mem_sorted]
  simp only [EnergyConfig.parse, bind_eq_ok, parseSources_listed, check_eq_ok]
  constructor
  · rintro ⟨_, ⟨soc, battery⟩, _, one, _, ⟨solar, power⟩, _, valid, _, ⟨yield, today⟩, age⟩
    subst soc solar yield
    refine ⟨⟨battery, not_one_lt_sorted.1 one⟩, ⟨power, (overlap power _).1 valid⟩, today, ?_⟩
    cases parsed : Text.parseU64 maxAge with
    | none => rw [parsed] at age; cases age
    | some seconds =>
        simp only [parsed, bind_eq_ok, check_eq_ok, beq_eq_false_iff_ne, Except.ok.injEq] at age
        obtain ⟨-, positive, same⟩ := age
        exact ⟨seconds, rfl, Nat.pos_of_ne_zero positive, same.symm⟩
  · rintro ⟨⟨battery, one⟩, ⟨power, solar⟩, today, seconds, parsed, positive, rfl⟩
    refine ⟨_, ⟨rfl, battery⟩, (), not_one_lt_sorted.2 one, _, ⟨rfl, power⟩, (),
      (overlap power _).2 solar, _, ⟨rfl, today⟩, ?_⟩
    simp only [parsed, bind_eq_ok, check_eq_ok, beq_eq_false_iff_ne, and_true]
    exact ⟨(), by omega⟩

theorem EnergyConfig.withAlarmSources_eq_ok {cfg cfg' : EnergyConfig} {raw : String} :
    cfg.withAlarmSources raw = .ok cfg' ↔
      Listed .alarm raw ∧ cfg' = { cfg with alarmSources := sorted (items raw) } := by
  simp only [EnergyConfig.withAlarmSources, bind_eq_ok, parseSources_listed, Except.ok.injEq]
  constructor
  · rintro ⟨_, ⟨sources, listed⟩, result⟩
    subst sources
    exact ⟨listed, result.symm⟩
  · rintro ⟨listed, result⟩
    exact ⟨_, ⟨rfl, listed⟩, result.symm⟩

theorem EnergyConfig.withFlowSources_eq_ok {cfg cfg' : EnergyConfig} {load grid battery : String} :
    cfg.withFlowSources load grid battery = .ok cfg' ↔
      (Listed .loadPower load ∧ Listed .gridPower grid ∧ Listed .batteryPower battery) ∧
      (items battery).length ≤ 1 ∧
      (∀ a b : Source, a.render ∈ items load ++ items grid ++ items battery →
        b.render ∈ items load ++ items grid ++ items battery → a.inst = b.inst) ∧
      NoAggregate (items load) ∧
      cfg' = { cfg with
        loadPowerSources := sorted (items load)
        gridPowerSources := sorted (items grid)
        batteryPowerSources := sorted (items battery) } := by
  have one : Listed .loadPower load → Listed .gridPower grid → Listed .batteryPower battery →
      (mixed ((sorted (items load) ++ sorted (items grid) ++ sorted (items battery)).filterMap
        instanceOf) = false ↔
        ∀ a b : Source, a.render ∈ items load ++ items grid ++ items battery →
          b.render ∈ items load ++ items grid ++ items battery → a.inst = b.inst) := by
    intro l g b
    rw [mixed_instances]
    · simp only [List.mem_append, mem_sorted]
    · intro item member
      simp only [List.mem_append, mem_sorted] at member
      have named : ∃ kind, Names kind item := by
        rcases member with (member | member) | member
        · exact ⟨_, l.1 item member⟩
        · exact ⟨_, g.1 item member⟩
        · exact ⟨_, b.1 item member⟩
      obtain ⟨kind, source, -, same⟩ := named
      exact ⟨source, same⟩
  have totals : Listed .loadPower load →
      (combinesConsumption (sorted (items load)) = false ↔ NoAggregate (items load)) := by
    intro listed
    rw [combinesConsumption_eq_false (allNamed_sorted.2 listed.1)]
    simp only [NoAggregate, mem_sorted]
  simp only [EnergyConfig.withFlowSources, bind_eq_ok, parseSources_listed, check_eq_ok,
    Except.ok.injEq]
  constructor
  · rintro ⟨_, ⟨load_eq, l⟩, _, ⟨grid_eq, g⟩, _, ⟨battery_eq, b⟩, -, few, -, same, -, apart, result⟩
    subst load_eq grid_eq battery_eq result
    exact ⟨⟨l, g, b⟩, not_one_lt_sorted.1 few, (one l g b).1 same, (totals l).1 apart, rfl⟩
  · rintro ⟨⟨l, g, b⟩, few, same, apart, rfl⟩
    exact ⟨_, ⟨rfl, l⟩, _, ⟨rfl, g⟩, _, ⟨rfl, b⟩, (), not_one_lt_sorted.2 few, (), (one l g b).2 same, (),
      (totals l).2 apart, rfl⟩

/-- The configuration of accepted texts. -/
def RawEnergy.accepted (raw : RawEnergy) (seconds : Nat) : EnergyConfig where
  batterySources := sorted (items (raw.sources .battery))
  solarPowerSources := sorted (items (raw.sources .power))
  solarTodaySources := sorted (items (raw.sources .today))
  alarmSources := sorted (items (raw.sources .alarm))
  loadPowerSources := sorted (items (raw.sources .loadPower))
  gridPowerSources := sorted (items (raw.sources .gridPower))
  batteryPowerSources := sorted (items (raw.sources .batteryPower))
  maxAge := secs seconds

theorem accepted_sources (raw : RawEnergy) (seconds : Nat) (kind : MetricKind) :
    (raw.accepted seconds).sources kind = sorted (items (raw.sources kind)) := by
  cases kind <;> simp only [EnergyConfig.sources, RawEnergy.accepted]

/-- **Acceptance of a configuration**: exactly the contract, with the items in order. -/
theorem configure_eq_ok {raw : RawEnergy} {cfg : EnergyConfig} :
    configure raw = .ok cfg ↔ Acceptable Names raw ∧
      ∃ seconds, Text.parseU64 raw.maxAge = some seconds ∧ cfg = raw.accepted seconds := by
  simp only [configure, bind_eq_ok, EnergyConfig.parse_eq_ok, EnergyConfig.withAlarmSources_eq_ok,
    EnergyConfig.withFlowSources_eq_ok]
  constructor
  · rintro ⟨_, ⟨⟨battery, one⟩, ⟨power, solar, system⟩, today, seconds, parsed, positive, rfl⟩, _,
      ⟨alarm, rfl⟩, ⟨load, grid, batteryPower⟩, few, same, apart, rfl⟩
    have listed : ∀ kind, Listed kind (raw.sources kind) := by
      intro kind
      cases kind with
      | battery => exact battery
      | power => exact power
      | today => exact today
      | alarm => exact alarm
      | loadPower => exact load
      | gridPower => exact grid
      | batteryPower => exact batteryPower
    exact ⟨⟨fun kind => (listed kind).1, fun kind => (listed kind).2, one, few,
      ⟨seconds, parsed, positive⟩, solar, system, same, apart⟩, seconds, parsed,
      by simp only [RawEnergy.accepted]⟩
  · rintro ⟨contract, seconds, parsed, rfl⟩
    have listed (kind : MetricKind) : Listed kind (raw.sources kind) :=
      ⟨contract.grammar kind, contract.distinct kind⟩
    obtain ⟨seconds', parsed', positive⟩ := contract.maxAge
    rw [parsed] at parsed'
    cases parsed'
    refine ⟨_, ⟨⟨listed .battery, contract.battery⟩,
      ⟨listed .power, contract.solar, contract.solarSystem⟩,
      listed .today, seconds, parsed, positive, rfl⟩, _, ⟨listed .alarm, rfl⟩,
      ⟨listed .loadPower, listed .gridPower, listed .batteryPower⟩, contract.batteryPower,
      contract.flowSystem, contract.consumption, ?_⟩
    simp only [RawEnergy.accepted]

/-! ## The normal form -/

/-- A text that can stand as an item: no whitespace and no comma. -/
def plainField (s : String) : Bool :=
  s.toList.all fun c => !Text.isWhitespace c && c != ','

theorem plainField_iff {s : String} :
    plainField s = true ↔ Text.Solid s ∧ ',' ∉ s.toList := by
  simp only [plainField, List.all_eq_true, Bool.and_eq_true, Bool.not_eq_true', bne_iff_ne, Text.Solid]
  constructor
  · intro each
    exact ⟨fun c found => (each c found).1, fun comma => (each ',' comma).2 rfl⟩
  · rintro ⟨solid, clear⟩ c found
    exact ⟨solid c found, fun same => clear (by rw [← same]; exact found)⟩

theorem plainField_append {s t : String} :
    plainField (s ++ t) = (plainField s && plainField t) := by
  rw [plainField, String.toList_append, List.all_append]
  rfl

theorem alarms_plain : ∀ name ∈ vebusAlarms ++ phaseAlarms ++ batteryAlarms,
    plainField name = true := by decide +kernel

theorem Leaf.path_plain (leaf : Leaf) : plainField leaf.path = true := by
  cases leaf with
  | acPv bus phase =>
      cases phase with
      | none => cases bus <;> decide
      | some phase => cases bus <;> cases phase <;> decide
  | inverterPower phase =>
      cases phase with
      | none => decide
      | some phase => cases phase <;> decide
  | vebusAlarm name =>
      rw [Leaf.path, plainField_append, alarms_plain name.1
        (List.mem_append_left _ (List.mem_append_left _ name.2))]
      decide
  | vebusPhaseAlarm phase name =>
      rw [Leaf.path, plainField_append, alarms_plain name.1
        (List.mem_append_left _ (List.mem_append_right _ name.2))]
      cases phase <;> decide
  | batteryAlarm name =>
      rw [Leaf.path, plainField_append, alarms_plain name.1 (List.mem_append_right _ name.2)]
      decide
  | load part phase => cases part <;> cases phase <;> decide
  | grid phase => cases phase <;> decide
  | _ => decide

theorem Source.render_plain (source : Source) : plainField source.render = true := by
  have service : plainField source.leaf.service = true := by
    cases source.leaf <;> simp only [Leaf.service] <;> decide
  have slash : plainField "/" = true := by decide
  have number : plainField (toString source.inst) = true := by
    rw [plainField, List.all_eq_true]
    intro c found
    have digit := (Text.digits_toString source.inst).2 c found
    simp only [Text.isDigit, Bool.and_eq_true, decide_eq_true_eq] at digit
    have low : '0'.toNat ≤ c.toNat := digit.1
    have high : c.toNat ≤ '9'.toNat := digit.2
    have zero : '0'.toNat = 48 := by decide
    have nine : '9'.toNat = 57 := by decide
    have comma : c ≠ ',' := by
      rintro rfl
      have value : ','.toNat = 44 := by decide
      omega
    have solid : Text.isWhitespace c = false := by
      simp only [Text.isWhitespace, Bool.or_eq_false_iff, Bool.and_eq_false_iff, decide_eq_false_iff_not,
        beq_eq_false_iff_ne]
      omega
    rw [solid, bne_iff_ne.2 comma]
    rfl
  simp only [Source.render, plainField_append, service, slash, number, source.leaf.path_plain,
    Bool.and_self]

/-- Fields with any padding are the items of their joined text. -/
theorem items_padded (fields : List (String × String × String))
    (plain : ∀ field ∈ fields, plainField field.2.1 = true ∧ field.2.1.toList ≠ [])
    (blank : ∀ field ∈ fields, Text.Blank field.1 ∧ Text.Blank field.2.2) :
    items (Text.joinAt ',' (fields.map fun field => field.1 ++ field.2.1 ++ field.2.2)) =
      fields.map fun field => field.2.1 := by
  by_cases nothing : fields = []
  · subst nothing
    decide
  · have clear : ∀ text ∈ fields.map (fun field => field.1 ++ field.2.1 ++ field.2.2),
        ',' ∉ text.toList := by
      intro text listed
      obtain ⟨field, member, rfl⟩ := List.mem_map.1 listed
      have comma : Text.isWhitespace ',' = false := by decide
      simp only [String.toList_append, List.mem_append, not_or]
      refine ⟨⟨fun found => ?_, (plainField_iff.1 (plain field member).1).2⟩, fun found => ?_⟩
      · rw [(blank field member).1 _ found] at comma
        cases comma
      · rw [(blank field member).2 _ found] at comma
        cases comma
    have parts := Text.split_joinAt clear (by simpa using nothing)
    have trims : (fields.map fun field => field.1 ++ field.2.1 ++ field.2.2).map Text.trim =
        fields.map fun field => field.2.1 := by
      rw [List.map_map]
      refine List.map_congr_left fun field member => ?_
      exact Text.trim_padded (blank field member).1 (blank field member).2
        (plainField_iff.1 (plain field member).1).1
    rw [items, if_neg, parts, trims]
    intro empty
    obtain ⟨field, rest, rfl⟩ := List.exists_cons_of_ne_nil nothing
    obtain ⟨plain, nonempty⟩ := plain field List.mem_cons_self
    obtain ⟨c, cs, chars⟩ := List.exists_cons_of_ne_nil nonempty
    have solid := (plainField_iff.1 plain).1 c (by rw [chars]; exact List.mem_cons_self)
    have inside : c ∈ (Text.joinAt ',' ((field :: rest).map
        fun field => field.1 ++ field.2.1 ++ field.2.2)).toList := by
      rw [Text.joinAt, String.toList_ofList]
      refine Text.mem_intercalate (field.1 ++ field.2.1 ++ field.2.2).toList ?_ ?_
      · simp
      · simp [String.toList_append, chars]
    rw [Text.blank_of_trim empty c inside] at solid
    cases solid

theorem names_plain {kind : MetricKind} {item : String} (named : Names kind item) :
    plainField item = true ∧ item.toList ≠ [] := by
  obtain ⟨source, -, rfl⟩ := named
  exact ⟨source.render_plain, by rw [source.toList_render]; simp⟩

/-- The items of a joined list of sources are the list. -/
theorem items_joined {kind : MetricKind} {sources : List String} (named : AllNamed kind sources) :
    items (Text.joinAt ',' sources) = sources := by
  have empty : Text.Blank "" := fun c found => by cases found
  have padded := items_padded (sources.map fun s => ("", s, "")) (by
      intro field listed
      obtain ⟨s, member, rfl⟩ := List.mem_map.1 listed
      exact names_plain (named s member)) (by
      intro field listed
      obtain ⟨s, -, rfl⟩ := List.mem_map.1 listed
      exact ⟨empty, empty⟩)
  simpa [List.map_map, Function.comp_def, String.empty_append, String.append_empty] using padded

/-- The configuration written out again: its lists joined, its age limit in seconds. -/
def EnergyConfig.joined (cfg : EnergyConfig) : RawEnergy where
  sources kind := Text.joinAt ',' (cfg.sources kind)
  maxAge := toString (asSecs cfg.maxAge)

theorem Acceptable.perm {raw raw' : RawEnergy} (contract : Acceptable Names raw)
    (age : Text.parseU64 raw'.maxAge = Text.parseU64 raw.maxAge)
    (perm : ∀ kind, (items (raw'.sources kind)).Perm (items (raw.sources kind))) :
    Acceptable Names raw' := by
  have same (kind : MetricKind) (x : String) :
      x ∈ items (raw'.sources kind) ↔ x ∈ items (raw.sources kind) := (perm kind).mem_iff
  have flow (x : String) : x ∈ raw'.flow ↔ x ∈ raw.flow := by
    simp only [RawEnergy.flow, List.mem_append, same]
  exact {
    grammar := fun kind item listed => contract.grammar kind item ((same kind item).1 listed)
    distinct := fun kind => (perm kind).nodup_iff.2 (contract.distinct kind)
    battery := by rw [(perm .battery).length_eq]; exact contract.battery
    batteryPower := by rw [(perm .batteryPower).length_eq]; exact contract.batteryPower
    maxAge := by rw [age]; exact contract.maxAge
    solar := fun a b overlap a_member b_member => contract.solar a b overlap
      ((same .power _).1 a_member) ((same .power _).1 b_member)
    solarSystem := fun a b a_system b_system a_member b_member => contract.solarSystem a b a_system
      b_system ((same .power _).1 a_member) ((same .power _).1 b_member)
    flowSystem := fun a b a_member b_member => contract.flowSystem a b ((flow _).1 a_member)
      ((flow _).1 b_member)
    consumption := fun a b combined a_member b_member => contract.consumption a b combined
      ((same .loadPower _).1 a_member) ((same .loadPower _).1 b_member) }

/-- Texts with the same items and age limit give one configuration. -/
theorem configure_perm {raw raw' : RawEnergy} {cfg : EnergyConfig} (accept : configure raw = .ok cfg)
    (age : Text.parseU64 raw'.maxAge = Text.parseU64 raw.maxAge)
    (perm : ∀ kind, (items (raw'.sources kind)).Perm (items (raw.sources kind))) :
    configure raw' = .ok cfg := by
  obtain ⟨contract, seconds, parsed, rfl⟩ := configure_eq_ok.1 accept
  refine configure_eq_ok.2 ⟨contract.perm age perm, seconds, by rw [age, parsed], ?_⟩
  simp only [RawEnergy.accepted, sorted_eq_of_perm (perm _)]

/-- **The energy configuration is canonical**: the validation accepts exactly the
texts that keep the contract; it keeps the items in order, whatever their order
and spacing in the texts, and accepts its own joined lists as the same configuration. -/
theorem energy_sources_canonical (raw : RawEnergy) :
    ((∃ cfg, configure raw = .ok cfg) ↔ Acceptable Names raw) ∧
    ∀ cfg, configure raw = .ok cfg →
      (∀ kind, cfg.sources kind = sorted (items (raw.sources kind))) ∧
      (∀ raw' : RawEnergy, Text.parseU64 raw'.maxAge = Text.parseU64 raw.maxAge →
        (∀ kind, (items (raw'.sources kind)).Perm (items (raw.sources kind))) →
          configure raw' = .ok cfg) ∧
      configure cfg.joined = .ok cfg := by
  refine ⟨?_, fun cfg accept => ?_⟩
  · constructor
    · rintro ⟨cfg, accept⟩
      exact (configure_eq_ok.1 accept).1
    · intro contract
      obtain ⟨seconds, parsed, -⟩ := contract.maxAge
      exact ⟨raw.accepted seconds, configure_eq_ok.2 ⟨contract, seconds, parsed, rfl⟩⟩
  · obtain ⟨contract, seconds, parsed, same⟩ := configure_eq_ok.1 accept
    have lists : ∀ kind, cfg.sources kind = sorted (items (raw.sources kind)) := by
      intro kind
      rw [same, accepted_sources]
    refine ⟨lists, fun raw' age perm => configure_perm accept age perm, ?_⟩
    have whole : asSecs (secs seconds) = seconds := by
      simp only [asSecs, secs]
      omega
    have age : Text.parseU64 cfg.joined.maxAge = Text.parseU64 raw.maxAge := by
      rw [parsed, same]
      show Text.parseU64 (toString (asSecs (secs seconds))) = some seconds
      rw [whole]
      exact Text.parseUnsigned_toString (Text.parseUnsigned_lt parsed)
    refine configure_perm accept age fun kind => ?_
    have named : AllNamed kind (cfg.sources kind) := by
      rw [lists]
      exact allNamed_sorted.2 (contract.grammar kind)
    have joined : items (cfg.joined.sources kind) = cfg.sources kind := items_joined named
    rw [joined, lists]
    exact sorted_perm _

/-- The leaf of a phase alarm without its phase. -/
theorem undocumented_leaf (leaf : Leaf) (service : leaf.service = "vebus")
    (path : leaf.path = "Alarms/InverterImbalance") :
    leaf = .vebusAlarm ⟨"InverterImbalance", by decide⟩ := by
  cases leaf with
  | vebusSoc => exact absurd path (by decide)
  | vebusAlarm name =>
      have whole : "Alarms/InverterImbalance" = "Alarms/" ++ "InverterImbalance" := by decide
      rw [Leaf.path, whole, Text.append_left_cancel] at path
      exact congrArg Leaf.vebusAlarm (Subtype.ext path)
  | vebusPhaseAlarm phase name =>
      have phases : ∀ name ∈ phaseAlarms, ∀ text ∈ phases,
          "Alarms/" ++ text ++ "/" ++ name ≠ "Alarms/InverterImbalance" := by decide
      have listed : phase.text ∈ Gateway.phases := by cases phase <;> decide
      exact absurd path (phases name.1 name.2 phase.text listed)
  | _ => exact absurd service (by simp only [Leaf.service]; decide)

/-- A phase alarm without its phase, which the documentation does not list. -/
def undocumented : RawEnergy where
  sources
    | .alarm => "vebus/0/Alarms/InverterImbalance"
    | _ => ""
  maxAge := "120"

theorem energy_sources_undocumented :
    (∃ cfg, configure undocumented = .ok cfg) ∧ ¬ Acceptable Documented undocumented := by
  constructor
  · exact accepted_of_isOk (show (configure undocumented).isOk = true by decide +kernel)
  · intro contract
    have item : "vebus/0/Alarms/InverterImbalance" ∈ items (undocumented.sources .alarm) := by decide
    obtain ⟨source, documented, -, text⟩ := contract.grammar .alarm _ item
    have outer := source.splitOnce_render
    have inner := source.splitOnce_path
    rw [text] at outer
    have first : Text.splitOnce "vebus/0/Alarms/InverterImbalance" '/' =
        some ("vebus", "0/Alarms/InverterImbalance") := by decide
    have second : Text.splitOnce "0/Alarms/InverterImbalance" '/' =
        some ("0", "Alarms/InverterImbalance") := by decide
    rw [first, Option.some.injEq, Prod.mk.injEq] at outer
    obtain ⟨service, path⟩ := outer
    rw [← path, second, Option.some.injEq, Prod.mk.injEq] at inner
    have leaf := undocumented_leaf source.leaf service.symm inner.2.symm
    rw [leaf] at documented
    have listed : "InverterImbalance" ∈ documentedVebusAlarms := documented
    exact absurd listed (by decide)

end InverterGateway.Gateway

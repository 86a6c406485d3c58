/-
# Gateway.Metric — energy metrics and their aggregation

`collectMetric` adds the readings of a list of sources in one pass.  The pass
keeps four accumulators (`Scan`); `scan_spec` says what each of them holds after
any list, and the contract of the metric is read off from it: a missing or
invalid source, or a sum that overflows, comes before a stale one, and only a
complete, valid and recent set of readings has a value.
-/
import InverterGateway.Gateway.Telemetry
import Mathlib.Order.MinMax

namespace InverterGateway.Gateway

open InverterGateway.Theory

set_option autoImplicit false

/-! ## Configuration and metrics -/

structure EnergyConfig where
  batterySources : List String := ["system/0/Dc/Battery/Soc"]
  solarPowerSources : List String := []
  solarTodaySources : List String := []
  alarmSources : List String := []
  loadPowerSources : List String := []
  gridPowerSources : List String := []
  batteryPowerSources : List String := []
  maxAge : Duration := secs 120

def EnergyConfig.flowEnabled (cfg : EnergyConfig) : Bool :=
  !cfg.loadPowerSources.isEmpty || !cfg.gridPowerSources.isEmpty ||
    !cfg.batteryPowerSources.isEmpty

inductive Status where
  | fresh
  | stale
  | unavailable
  | unconfigured
  deriving DecidableEq

structure Metric (F : Type) where
  value : Option F
  unit : String
  status : Status
  sources : List String
  ageSeconds : Option Nat

/-- `Duration::as_secs`. -/
def asSecs (d : Duration) : Nat := d / 1000000000

/-! ## Receipt ages -/

section Ages

variable {F : Type}

/-- The receipt age of a source. -/
def sourceAge (readings : Table (Reading F)) (now : Instant) (source : String) : Option Duration :=
  (readings.get source).map fun reading => elapsed now reading.receivedAt

/-- The greatest of some ages. -/
def greatest (ages : List Duration) : Duration := ages.foldl max 0

theorem lt_greatest {ages : List Duration} {bound : Duration} :
    bound < greatest ages ↔ ∃ age ∈ ages, bound < age := by
  have general : ∀ start, bound < ages.foldl max start ↔ bound < start ∨ ∃ age ∈ ages, bound < age := by
    induction ages with
    | nil => simp
    | cons age rest ih =>
        intro start
        rw [List.foldl_cons, ih, lt_max_iff, List.exists_mem_cons_iff, or_assoc]
  rw [greatest, general]
  simp

/-- Every configured source has a reading. -/
def AllRead (readings : Table (Reading F)) (sources : List String) : Prop :=
  ∀ source ∈ sources, ∃ reading, readings.get source = some reading

/-- Some received reading is too old. -/
def SomeStale (readings : Table (Reading F)) (now : Instant) (maxAge : Duration)
    (sources : List String) : Prop :=
  ∃ source ∈ sources, ∃ reading, readings.get source = some reading ∧
    maxAge < elapsed now reading.receivedAt

theorem allRead_iff (readings : Table (Reading F)) (now : Instant) (sources : List String) :
    (sources.all fun source => (sourceAge readings now source).isSome) = true ↔
      AllRead readings sources := by
  simp [AllRead, sourceAge, Option.isSome_iff_exists]

theorem someStale_iff (readings : Table (Reading F)) (now : Instant) (maxAge : Duration)
    (sources : List String) :
    maxAge < greatest (sources.filterMap (sourceAge readings now)) ↔
      SomeStale readings now maxAge sources := by
  rw [lt_greatest]
  simp only [List.mem_filterMap, SomeStale, sourceAge, Option.map_eq_some_iff]
  constructor
  · rintro ⟨age, ⟨source, listed, reading, found, rfl⟩, older⟩
    exact ⟨source, listed, reading, found, older⟩
  · rintro ⟨source, listed, reading, found, older⟩
    exact ⟨_, ⟨source, listed, reading, found, rfl⟩, older⟩

end Ages

/-! ## The pass over the sources -/

section Collect

variable {F : Type} [Binary64 F]

/-- Whether a number may enter a sum: finite, not negative unless signed, and at
most one hundred for a percentage. -/
def admits (unit : String) (signed : Bool) (value : F) : Bool :=
  Binary64.isFinite value && (signed || Binary64.le (Binary64.ofNat 0) value) &&
    (unit != "%" || Binary64.le value (Binary64.ofNat 100))

/-- The accumulators of the pass over the sources. -/
structure Scan (F : Type) where
  sum : F
  oldest : Duration
  unavailable : Bool
  completeAge : Bool

def scanSource (unit : String) (readings : Table (Reading F)) (now : Instant) (signed : Bool)
    (acc : Scan F) (source : String) : Scan F :=
  match readings.get source with
  | none => { acc with unavailable := true, completeAge := false }
  | some reading =>
      let acc := { acc with oldest := max acc.oldest (elapsed now reading.receivedAt) }
      match reading.value.asF64 with
      | some value =>
          if admits unit signed value then { acc with sum := Binary64.add acc.sum value }
          else { acc with unavailable := true }
      | none => { acc with unavailable := true }

/-- `collect_metric`. -/
def collectMetric (sources : List String) (unit : String) (connected : Bool)
    (readings : Table (Reading F)) (now : Instant) (maxAge : Duration) (signed : Bool) : Metric F :=
  let metric : Metric F :=
    { value := none
      unit := unit
      status := if sources.isEmpty then .unconfigured else .unavailable
      sources := sources
      ageSeconds := none }
  if sources.isEmpty || !connected then metric
  else
    let scan := sources.foldl (scanSource unit readings now signed)
      ⟨Binary64.ofNat 0, 0, false, true⟩
    let metric :=
      { metric with ageSeconds := if scan.completeAge then some (asSecs scan.oldest) else none }
    if scan.unavailable || !Binary64.isFinite scan.sum then metric
    else if maxAge < scan.oldest then { metric with status := .stale }
    else { metric with value := some scan.sum, status := .fresh }

def metric (sources : List String) (unit : String) (connected : Bool)
    (readings : Table (Reading F)) (now : Instant) (maxAge : Duration) : Metric F :=
  collectMetric sources unit connected readings now maxAge false

def signedPowerMetric (sources : List String) (connected : Bool) (readings : Table (Reading F))
    (now : Instant) (maxAge : Duration) : Metric F :=
  collectMetric sources "W" connected readings now maxAge true

/-! ## What the pass computes -/

/-- The number a source contributes, if its reading is valid. -/
def sourceValue (unit : String) (readings : Table (Reading F)) (signed : Bool) (source : String) :
    Option F :=
  ((readings.get source).bind fun reading => reading.value.asF64).filter (admits unit signed)

/-- The sum in list order. -/
def total (values : List F) : F := values.foldl Binary64.add (Binary64.ofNat 0)

/-- One source: its number and age are taken, or it is marked missing or invalid. -/
theorem scanSource_eq (unit : String) (readings : Table (Reading F)) (now : Instant)
    (signed : Bool) (acc : Scan F) (source : String) :
    scanSource unit readings now signed acc source =
      { sum := (sourceValue unit readings signed source).elim acc.sum (Binary64.add acc.sum)
        oldest := (sourceAge readings now source).elim acc.oldest (max acc.oldest)
        unavailable := acc.unavailable || (sourceValue unit readings signed source).isNone
        completeAge := acc.completeAge && (sourceAge readings now source).isSome } := by
  unfold scanSource sourceValue sourceAge
  cases readings.get source with
  | none => simp
  | some reading =>
      cases number : reading.value.asF64 with
      | none => simp [number]
      | some value => cases ok : admits unit signed value <;> simp [number, ok, Option.filter]

/-- **What the accumulators hold after the pass.** -/
theorem scan_spec (unit : String) (readings : Table (Reading F)) (now : Instant) (signed : Bool)
    (sources : List String) (acc : Scan F) :
    sources.foldl (scanSource unit readings now signed) acc =
      { sum := (sources.filterMap (sourceValue unit readings signed)).foldl Binary64.add acc.sum
        oldest := (sources.filterMap (sourceAge readings now)).foldl max acc.oldest
        unavailable :=
          acc.unavailable || sources.any fun source => (sourceValue unit readings signed source).isNone
        completeAge :=
          acc.completeAge && sources.all fun source => (sourceAge readings now source).isSome } := by
  induction sources generalizing acc with
  | nil => simp
  | cons source rest ih =>
      rw [List.foldl_cons, ih, scanSource_eq, List.filterMap_cons, List.filterMap_cons,
        List.any_cons, List.all_cons, Bool.or_assoc, Bool.and_assoc]
      cases sourceValue unit readings signed source <;> cases sourceAge readings now source <;> rfl

/-- Every configured source has a valid number. -/
def AllValid (unit : String) (readings : Table (Reading F)) (signed : Bool)
    (sources : List String) : Prop :=
  ∀ source ∈ sources, ∃ reading value, readings.get source = some reading ∧
    reading.value.asF64 = some value ∧ admits unit signed value = true

theorem allValid_iff (unit : String) (readings : Table (Reading F)) (signed : Bool)
    (sources : List String) :
    (sources.any fun source => (sourceValue unit readings signed source).isNone) = false ↔
      AllValid unit readings signed sources := by
  have one : ∀ source, (sourceValue unit readings signed source).isNone = false ↔
      ∃ reading value, readings.get source = some reading ∧ reading.value.asF64 = some value ∧
        admits unit signed value = true := by
    intro source
    unfold sourceValue
    cases readings.get source with
    | none => simp
    | some reading =>
        cases number : reading.value.asF64 with
        | none => simp [number]
        | some value => cases ok : admits unit signed value <;> simp [number, ok, Option.filter]
  rw [List.any_eq_false]
  simp only [AllValid, Bool.not_eq_true, one]

/-! ## The contract of a metric -/

/-- A configured metric while connected, in terms of the finished pass. -/
theorem collectMetric_live {sources : List String} (configured : sources ≠ []) (unit : String)
    (readings : Table (Reading F)) (now : Instant) (maxAge : Duration) (signed : Bool) :
    collectMetric sources unit true readings now maxAge signed =
      let sum := total (sources.filterMap (sourceValue unit readings signed))
      let oldest := greatest (sources.filterMap (sourceAge readings now))
      let unavailable := (sources.any fun source => (sourceValue unit readings signed source).isNone) ||
        !Binary64.isFinite sum
      { value := if unavailable || decide (maxAge < oldest) then none else some sum
        unit := unit
        status :=
          if unavailable then .unavailable else if maxAge < oldest then .stale else .fresh
        sources := sources
        ageSeconds :=
          if sources.all fun source => (sourceAge readings now source).isSome then
            some (asSecs oldest)
          else none } := by
  have nonempty : sources.isEmpty = false := by
    cases sources with
    | nil => exact absurd rfl configured
    | cons _ _ => rfl
  simp only [collectMetric, nonempty, scan_spec, Bool.not_true, Bool.or_self, Bool.false_or,
    Bool.true_and, Bool.false_eq_true, if_false, total, greatest]
  split
  · rename_i missing
    simp [missing]
  · rename_i present
    split
    · rename_i older
      simp [present, older]
    · rename_i recent
      simp [present, recent]

/-- A metric value is a finite sum. -/
theorem collectMetric_value {sources : List String} {unit : String} {connected : Bool}
    {readings : Table (Reading F)} {now : Instant} {maxAge : Duration} {signed : Bool} {v : F}
    (spoken : (collectMetric sources unit connected readings now maxAge signed).value = some v) :
    Binary64.isFinite v = true ∧
      v = total (sources.filterMap (sourceValue unit readings signed)) := by
  by_cases configured : sources = []
  · subst configured
    cases spoken
  · cases connected with
    | false =>
        simp [collectMetric] at spoken
    | true =>
        rw [collectMetric_live configured] at spoken
        dsimp only at spoken
        split at spoken
        · cases spoken
        · rename_i ok
          cases spoken
          simp only [Bool.or_eq_true, Bool.not_eq_true', not_or, Bool.not_eq_false] at ok
          exact ⟨ok.1.2, rfl⟩

/-- **No partial or stale totals.**  An unconfigured metric and one without a
connection have neither value nor age.  Otherwise the age is the greatest
receipt age whenever every source has a reading; the value is the sum of all
sources in list order, and is given only when every reading is valid, the sum is
finite and no reading is older than the limit; what is missing or invalid is
reported before what is stale. -/
theorem collectMetric_contract (sources : List String) (unit : String) (connected : Bool)
    (readings : Table (Reading F)) (now : Instant) (maxAge : Duration) (signed : Bool) :
    let m := collectMetric sources unit connected readings now maxAge signed
    let sum := total (sources.filterMap (sourceValue unit readings signed))
    (sources = [] → m.status = .unconfigured ∧ m.value = none ∧ m.ageSeconds = none) ∧
    (sources ≠ [] → connected = false →
      m.status = .unavailable ∧ m.value = none ∧ m.ageSeconds = none) ∧
    (sources ≠ [] → connected = true →
      (AllRead readings sources → m.ageSeconds =
        some (asSecs (greatest (sources.filterMap (sourceAge readings now))))) ∧
      (¬ AllRead readings sources → m.ageSeconds = none) ∧
      (¬ (AllValid unit readings signed sources ∧ Binary64.isFinite sum = true) →
        m.status = .unavailable ∧ m.value = none) ∧
      (AllValid unit readings signed sources → Binary64.isFinite sum = true →
        SomeStale readings now maxAge sources → m.status = .stale ∧ m.value = none) ∧
      (AllValid unit readings signed sources → Binary64.isFinite sum = true →
        ¬ SomeStale readings now maxAge sources → m.status = .fresh ∧ m.value = some sum)) := by
  intro m sum
  refine ⟨?_, ?_, ?_⟩
  · rintro rfl
    exact ⟨rfl, rfl, rfl⟩
  · rintro configured rfl
    have nonempty : sources.isEmpty = false := by
      cases sources with
      | nil => exact absurd rfl configured
      | cons _ _ => rfl
    simp [m, collectMetric, nonempty]
  · rintro configured rfl
    have live : m = _ := collectMetric_live configured unit readings now maxAge signed
    have read := allRead_iff readings now sources
    have valid := allValid_iff unit readings signed sources
    have stale := someStale_iff readings now maxAge sources
    rw [← read, ← valid, ← stale, live]
    refine ⟨fun all => by simp only [all, if_true], fun absent => by simp [absent],
      fun wrong => ?_, fun right finite older => ?_, fun right finite recent => ?_⟩
    · have unavailable : ((sources.any fun source =>
          (sourceValue unit readings signed source).isNone) || !Binary64.isFinite sum) = true := by
        rw [← Bool.not_eq_false, Bool.or_eq_false_iff, Bool.not_eq_false']
        exact wrong
      simp only [sum] at unavailable
      simp only [unavailable, Bool.true_or, if_true, and_self]
    · simp only [sum] at finite
      simp [right, finite, older]
    · simp only [sum] at finite
      simp [right, finite, recent, sum]

end Collect

/-- Two grid phases of 30 W and 12 W, both read within the limit. -/
def twoPhases : Table (Reading Int) :=
  (Table.empty.insert "system/0/Ac/Grid/L1/Power" ⟨.number (.posInt 30), secs 1⟩).insert
    "system/0/Ac/Grid/L2/Power" ⟨.number (.posInt 12), secs 2⟩

theorem collectMetric_contract_phases :
    (collectMetric ["system/0/Ac/Grid/L1/Power", "system/0/Ac/Grid/L2/Power"] "W" true twoPhases
        (secs 5) (secs 4) true).status = .fresh ∧
      (collectMetric ["system/0/Ac/Grid/L1/Power", "system/0/Ac/Grid/L2/Power"] "W" true twoPhases
        (secs 5) (secs 4) true).value = some 42 := by
  refine ((collectMetric_contract ["system/0/Ac/Grid/L1/Power", "system/0/Ac/Grid/L2/Power"] "W"
    true twoPhases (secs 5) (secs 4) true).2.2 (by simp) rfl).2.2.2.2 ?_ (by decide) ?_
  · intro source listed
    simp only [List.mem_cons, List.not_mem_nil, or_false] at listed
    rcases listed with rfl | rfl
    · exact ⟨_, 30, rfl, rfl, by decide⟩
    · exact ⟨_, 12, rfl, rfl, by decide⟩
  · rintro ⟨source, listed, reading, found, older⟩
    simp only [List.mem_cons, List.not_mem_nil, or_false] at listed
    rcases listed with rfl | rfl
    · obtain rfl := Option.some.inj found
      exact absurd older (by decide)
    · obtain rfl := Option.some.inj found
      exact absurd older (by decide)

end InverterGateway.Gateway

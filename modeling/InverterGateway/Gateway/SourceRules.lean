/-
# Gateway.SourceRules — what a list of energy sources may combine

The rules of the documentation, stated on sources, and the tests of the
validation on raw texts: which solar readings overlap, which readings share a
system, which consumption total stands beside a component.  Each test is shown
to decide its rule.
-/
import InverterGateway.Gateway.SourceGrammar

namespace InverterGateway.Gateway

open InverterGateway.Theory

set_option autoImplicit false

/-! ## The texts of sources -/

theorem Leaf.service_flat (leaf : Leaf) : '/' ∉ leaf.service.toList := by
  cases leaf <;> simp only [Leaf.service] <;> decide

theorem instance_flat (n : Nat) : '/' ∉ (toString n).toList :=
  (Text.digits_toString n).ne (by decide)

namespace Source

theorem toList_render (source : Source) :
    source.render.toList = source.leaf.service.toList ++
      '/' :: ((toString source.inst).toList ++ '/' :: source.leaf.path.toList) := by
  have slash : "/".toList = ['/'] := by decide
  simp [render, String.toList_append, slash]

theorem splitOnce_render (source : Source) :
    Text.splitOnce source.render '/' =
      some (source.leaf.service, toString source.inst ++ "/" ++ source.leaf.path) := by
  have slash : "/".toList = ['/'] := by decide
  rw [Text.splitOnce_eq_some]
  exact ⟨by simp [toList_render, String.toList_append, slash], source.leaf.service_flat⟩

theorem splitOnce_path (source : Source) :
    Text.splitOnce (toString source.inst ++ "/" ++ source.leaf.path) '/' =
      some (toString source.inst, source.leaf.path) := by
  have slash : "/".toList = ['/'] := by decide
  rw [Text.splitOnce_eq_some]
  exact ⟨by simp [String.toList_append, slash], instance_flat source.inst⟩

theorem metricKind_render (source : Source) :
    metricKind source.leaf.service (toString source.inst ++ "/" ++ source.leaf.path) =
      some source.leaf.kind := by
  simp only [metricKind, splitOnce_path,
    if_pos (canonicalInstance_iff.2 ⟨source.inst, source.fits, rfl⟩), leafKind_of_leaf]

theorem sourceKind_render (source : Source) : sourceKind source.render = some source.leaf.kind := by
  rw [sourceKind, splitOnce_render]
  exact source.metricKind_render

theorem split_render (source : Source) :
    Text.split source.render '/' =
      source.leaf.service :: toString source.inst :: Text.split source.leaf.path '/' := by
  rw [Text.split, toList_render,
    List.splitOn_append_cons_self_of_not_mem source.leaf.service_flat,
    List.splitOn_append_cons_self_of_not_mem (instance_flat source.inst), List.map_cons,
    List.map_cons, String.ofList_toList, String.ofList_toList, Text.split]

theorem instanceOf_render (source : Source) :
    instanceOf source.render = some (toString source.inst) := by
  rw [instanceOf, split_render]
  rfl

end Source

/-- The texts of a metric's sources. -/
def Names (kind : MetricKind) (item : String) : Prop :=
  ∃ source : Source, source.leaf.kind = kind ∧ source.render = item

/-- The texts of the sources that the documentation lists for a metric. -/
def Documented (kind : MetricKind) (item : String) : Prop :=
  ∃ source : Source, source.leaf.Documented ∧ source.leaf.kind = kind ∧ source.render = item

/-- **The grammar of sources**: what the classification of raw texts accepts. -/
theorem sourceKind_eq_some {kind : MetricKind} {item : String} :
    sourceKind item = some kind ↔ Names kind item := by
  constructor
  · intro known
    simp only [sourceKind, Option.bind_eq_some_iff] at known
    obtain ⟨⟨service, path⟩, outer, known⟩ := known
    simp only [metricKind] at known
    cases inner : Text.splitOnce path '/' with
    | none => rw [inner] at known; cases known
    | some parts =>
        obtain ⟨inst, text⟩ := parts
        rw [inner] at known
        by_cases canonical : canonicalInstance inst = true
        · simp only [if_pos canonical] at known
          obtain ⟨leaf, rfl, rfl, kind⟩ := leafKind_eq_some.1 known
          obtain ⟨n, fits, rfl⟩ := canonicalInstance_iff.1 canonical
          refine ⟨⟨n, fits, leaf⟩, kind, ?_⟩
          apply Text.toList_injective
          rw [Source.toList_render, (Text.splitOnce_eq_some.1 outer).1,
            (Text.splitOnce_eq_some.1 inner).1]
        · simp only [if_neg canonical] at known
          cases known
  · rintro ⟨source, rfl, rfl⟩
    exact source.sourceKind_render

/-! ## Tests on the texts of sources -/

/-- What follows the instance in the text of a source. -/
def Leaf.tail (leaf : Leaf) : List Char := '/' :: leaf.path.toList

namespace Source

theorem toList_tail (source : Source) :
    source.render.toList =
      (source.leaf.service.toList ++ '/' :: (toString source.inst).toList) ++ source.leaf.tail := by
  rw [toList_render, Leaf.tail, List.append_assoc, List.cons_append]

/-- A suffix test that the tail decides. -/
theorem endsWith_render (source : Source) {pat : String}
    (settled : pat.toList <:+ source.leaf.tail ∨ ¬ source.leaf.tail <:+ pat.toList) :
    Text.endsWith source.render pat = true ↔ pat.toList <:+ source.leaf.tail := by
  rw [Text.endsWith_iff, toList_tail]
  constructor
  · intro ends
    rcases settled with inside | apart
    · exact inside
    · rcases List.suffix_or_suffix_of_suffix ends (List.suffix_append _ source.leaf.tail) with
        shorter | longer
      · exact shorter
      · exact absurd longer apart
  · intro inside
    exact inside.trans (List.suffix_append _ _)

theorem startsWith_service (source : Source) {service : String} (flat : '/' ∉ service.toList) :
    Text.startsWith source.render (service ++ "/") = true ↔ source.leaf.service = service := by
  have slash : "/".toList = ['/'] := by decide
  rw [Text.startsWith_iff, toList_render, String.toList_append, slash,
    Text.prefix_sep_iff flat source.leaf.service_flat, String.toList_inj]
  exact ⟨fun same => same.1.symm, fun same => ⟨same.symm, List.nil_prefix⟩⟩

theorem startsWith_stem (source : Source) {service stem : String} {n : Nat}
    (flat : '/' ∉ service.toList) :
    Text.startsWith source.render (service ++ "/" ++ toString n ++ "/" ++ stem) = true ↔
      source.leaf.service = service ∧ source.inst = n ∧ stem.toList <+: source.leaf.path.toList := by
  have slash : "/".toList = ['/'] := by decide
  have stem_eq : (service ++ "/" ++ toString n ++ "/" ++ stem).toList =
      service.toList ++ '/' :: ((toString n).toList ++ '/' :: stem.toList) := by
    simp [String.toList_append, slash]
  rw [Text.startsWith_iff, toList_render, stem_eq, Text.prefix_sep_iff flat
    source.leaf.service_flat, Text.prefix_sep_iff (instance_flat n) (instance_flat source.inst),
    String.toList_inj, String.toList_inj]
  constructor
  · rintro ⟨same, number, inside⟩
    exact ⟨same.symm, (Text.toString_injective number).symm, inside⟩
  · rintro ⟨same, number, inside⟩
    exact ⟨same.symm, by rw [number], inside⟩

/-- A part without slashes lies in one level of the text. -/
theorem contains_render (source : Source) {part : String} (flat : '/' ∉ part.toList) :
    Text.contains source.render part = true ↔ part.toList <:+: source.leaf.service.toList ∨
      part.toList <:+: (toString source.inst).toList ∨
        part.toList <:+: source.leaf.path.toList := by
  rw [Text.contains_iff, toList_render, Text.infix_sep flat, Text.infix_sep flat]

end Source

/-! ## Overlapping solar readings -/

/-- Two solar power readings that count one array twice: the DC aggregate and a
charger, an AC bus and a PV inverter, a total and a phase of one component. -/
inductive Overlaps (a b : Source) : Prop where
  | charger (aggregate : a.leaf = .dcPv) (device : b.leaf = .chargerPower)
  | inverter (bus : PvBus) (phase phase' : Option AcPhase) (aggregate : a.leaf = .acPv bus phase)
      (device : b.leaf = .inverterPower phase')
  | busPhase (bus : PvBus) (phase : AcPhase) (same : a.inst = b.inst)
      (total : a.leaf = .acPv bus none) (part : b.leaf = .acPv bus (some phase))
  | devicePhase (phase : AcPhase) (same : a.inst = b.inst)
      (total : a.leaf = .inverterPower none) (part : b.leaf = .inverterPower (some phase))

def acPhases : List AcPhase := [.l1, .l2, .l3]

theorem mem_acPhases (phase : AcPhase) : phase ∈ acPhases := by
  cases phase <;> decide

def phaseChoices : List (Option AcPhase) := none :: acPhases.map some

theorem mem_phaseChoices (phase : Option AcPhase) : phase ∈ phaseChoices := by
  cases phase with
  | none => decide
  | some phase => cases phase <;> decide

def pvBuses : List PvBus := [.onGrid, .onOutput, .onGenset]

theorem mem_pvBuses (bus : PvBus) : bus ∈ pvBuses := by
  cases bus <;> decide

/-- The leaves of solar power readings. -/
def solarLeaves : List Leaf :=
  [.dcPv, .chargerPower, .inverterPower none] ++ acPhases.map (fun phase => .inverterPower (some phase)) ++
    pvBuses.map (fun bus => .acPv bus none) ++
    pvBuses.flatMap fun bus => acPhases.map fun phase => .acPv bus (some phase)

theorem mem_solarLeaves {leaf : Leaf} (kind : leaf.kind = .power) : leaf ∈ solarLeaves := by
  cases leaf with
  | dcPv => decide
  | chargerPower => decide
  | inverterPower phase =>
      cases phase with
      | none => decide
      | some phase => cases phase <;> decide
  | acPv bus phase =>
      cases phase with
      | none => cases bus <;> decide
      | some phase => cases bus <;> cases phase <;> decide
  | _ => cases kind

/-- Whether the end of a text with this tail is decided by the tail. -/
def Leaf.settles (leaf : Leaf) (pat : String) : Bool :=
  pat.toList.isSuffixOf leaf.tail || !leaf.tail.isSuffixOf pat.toList

theorem Leaf.settled {leaf : Leaf} {pat : String} (settles : leaf.settles pat = true) :
    pat.toList <:+ leaf.tail ∨ ¬ leaf.tail <:+ pat.toList := by
  simpa [Leaf.settles, List.isSuffixOf_iff_suffix, ← Bool.not_eq_true] using settles

theorem solar_settles : ∀ leaf ∈ solarLeaves, leaf.settles "/Dc/Pv/Power" = true ∧
    leaf.settles "/Total/Power" = true ∧ leaf.settles "/Ac/Power" = true := by decide +kernel

theorem solar_ends : ∀ leaf ∈ solarLeaves,
    ("/Dc/Pv/Power".toList.isSuffixOf leaf.tail = true ↔ leaf = .dcPv) ∧
    ("/Total/Power".toList.isSuffixOf leaf.tail = true ↔ ∃ bus ∈ pvBuses, leaf = .acPv bus none) ∧
    ("/Ac/Power".toList.isSuffixOf leaf.tail = true ↔ leaf = .inverterPower none) := by decide +kernel

theorem solar_bus : ∀ leaf ∈ solarLeaves,
    ("/Ac/PvOn".toList.isPrefixOf leaf.tail = true ∧
      ∃ bus ∈ pvBuses, ∃ phase ∈ phaseChoices, leaf = .acPv bus phase) ∨
    (Text.contains leaf.service "PvOn" = false ∧ Text.contains leaf.path "PvOn" = false ∧
      ∀ bus ∈ pvBuses, ∀ phase ∈ phaseChoices, leaf ≠ .acPv bus phase) := by decide +kernel

theorem solar_services : ∀ leaf ∈ solarLeaves,
    (leaf.service = "solarcharger" ↔ leaf = .chargerPower) ∧
    (leaf.service = "pvinverter" ↔ ∃ phase ∈ phaseChoices, leaf = .inverterPower phase) := by
  decide +kernel

theorem solar_stems : ∀ leaf ∈ solarLeaves,
    (∀ bus ∈ pvBuses, (leaf.service = "system" ∧
      ("Ac/" ++ bus.text ++ "/L").toList.isPrefixOf leaf.path.toList = true) ↔
        ∃ phase ∈ acPhases, leaf = .acPv bus (some phase)) ∧
    ((leaf.service = "pvinverter" ∧ "Ac/L".toList.isPrefixOf leaf.path.toList = true) ↔
      ∃ phase ∈ acPhases, leaf = .inverterPower (some phase)) := by decide +kernel

namespace Source

variable {source : Source}

theorem endsWith_dc (solar : source.leaf ∈ solarLeaves) :
    Text.endsWith source.render "/Dc/Pv/Power" = true ↔ source.leaf = .dcPv := by
  rw [← (solar_ends _ solar).1, List.isSuffixOf_iff_suffix]
  exact endsWith_render source (Leaf.settled (solar_settles _ solar).1)

/-- The bus test sees exactly the AC bus readings. -/
theorem contains_bus (solar : source.leaf ∈ solarLeaves) :
    Text.contains source.render "/Ac/PvOn" = true ↔ ∃ bus phase, source.leaf = .acPv bus phase := by
  rcases solar_bus _ solar with ⟨inside, bus, -, phase, -, same⟩ | ⟨service, path, other⟩
  · refine ⟨fun _ => ⟨bus, phase, same⟩, fun _ => ?_⟩
    rw [Text.contains_iff, toList_tail]
    exact (List.isPrefixOf_iff_prefix.1 inside).isInfix.trans (List.suffix_append _ _).isInfix
  · constructor
    · intro inside
      have part : Text.contains source.render "PvOn" = true := by
        by_contra absent
        rw [Bool.not_eq_true] at absent
        rw [Text.not_contains_of_part "PvOn" (by decide) absent] at inside
        cases inside
      rw [contains_render source (by decide)] at part
      rw [Text.not_contains_iff] at service path
      rcases part with here | there | last
      · exact absurd here service
      · have letter : 'P' ∈ (toString source.inst).toList := there.subset (by decide)
        exact absurd letter ((Text.digits_toString source.inst).ne (by decide))
      · exact absurd last path
    · rintro ⟨bus, phase, same⟩
      exact absurd same (other bus (mem_pvBuses bus) phase (mem_phaseChoices phase))

/-- The stem of the phase readings that a total stands for. -/
theorem phasePrefix_render (solar : source.leaf ∈ solarLeaves) {stem : String} :
    phasePrefix source.render = some stem ↔
      (∃ bus, source.leaf = .acPv bus none ∧
        stem = "system" ++ "/" ++ toString source.inst ++ "/" ++ ("Ac/" ++ bus.text ++ "/L")) ∨
      (source.leaf = .inverterPower none ∧
        stem = "pvinverter" ++ "/" ++ toString source.inst ++ "/" ++ "Ac/L") := by
  obtain ⟨-, total, device⟩ := solar_ends _ solar
  obtain ⟨-, settledTotal, settledDevice⟩ := solar_settles _ solar
  rw [List.isSuffixOf_iff_suffix, ← endsWith_render source (Leaf.settled settledTotal)] at total
  rw [List.isSuffixOf_iff_suffix, ← endsWith_render source (Leaf.settled settledDevice)] at device
  obtain ⟨n, fits, leaf⟩ := source
  by_cases isTotal : ∃ bus ∈ pvBuses, leaf = .acPv bus none
  · obtain ⟨bus, -, rfl⟩ := isTotal
    have whole : Source.render ⟨n, fits, .acPv bus none⟩ =
        "system" ++ "/" ++ toString n ++ "/" ++ ("Ac/" ++ bus.text) ++ "/Total/Power" := by
      simp only [render, Leaf.service, Leaf.path, String.append_assoc]
    simp only [phasePrefix, Text.stripSuffix_eq_some.2 whole, Option.some.injEq, Leaf.acPv.injEq,
      and_true, reduceCtorEq, false_and, or_false, exists_eq_left', String.append_assoc]
    exact eq_comm
  · have noTotal : Text.stripSuffix (Source.render ⟨n, fits, leaf⟩) "/Total/Power" = none :=
      Text.stripSuffix_eq_none.2 fun ends => isTotal (total.1 ends)
    have noBus : ∀ bus, leaf ≠ .acPv bus none := fun bus same => isTotal ⟨bus, mem_pvBuses bus, same⟩
    by_cases isDevice : leaf = .inverterPower none
    · subst isDevice
      have whole : Source.render ⟨n, fits, .inverterPower none⟩ =
          "pvinverter" ++ "/" ++ toString n ++ "/Ac/Power" := by
        have join : "/Ac/Power" = "/" ++ "Ac/Power" := by decide
        simp only [render, Leaf.service, Leaf.path, join, String.append_assoc]
      have join : "/Ac/L" = "/" ++ "Ac/L" := by decide
      simp only [phasePrefix, noTotal, Text.stripSuffix_eq_some.2 whole, Option.map_some,
        Option.some.injEq, reduceCtorEq, false_and, exists_false, false_or, true_and, join,
        String.append_assoc]
      exact eq_comm
    · have noDevice : Text.stripSuffix (Source.render ⟨n, fits, leaf⟩) "/Ac/Power" = none :=
        Text.stripSuffix_eq_none.2 fun ends => isDevice (device.1 ends)
      simp [phasePrefix, noTotal, noDevice, noBus, isDevice]

end Source

/-! ## The rules of the lists -/

theorem mixed_eq_false {instances : List String} :
    mixed instances = false ↔ ∀ x ∈ instances, ∀ y ∈ instances, x = y := by
  cases instances with
  | nil => simp [mixed]
  | cons first rest =>
      simp only [mixed, List.any_eq_false, bne_iff_ne, ne_eq, not_not]
      constructor
      · intro same
        have first_eq : ∀ x ∈ first :: rest, x = first := by
          intro x listed
          rcases List.mem_cons.1 listed with rfl | later
          · rfl
          · exact same x later
        intro x x_listed y y_listed
        rw [first_eq x x_listed, first_eq y y_listed]
      · intro same x listed
        exact same x (List.mem_cons_of_mem _ listed) first List.mem_cons_self

/-- All the texts are sources of one kind. -/
def AllNamed (kind : MetricKind) (sources : List String) : Prop :=
  ∀ item ∈ sources, Names kind item

theorem AllNamed.exists {kind : MetricKind} {sources : List String} (named : AllNamed kind sources)
    (p : String → Bool) : sources.any p = true ↔
      ∃ source : Source, source.leaf.kind = kind ∧ source.render ∈ sources ∧
        p source.render = true := by
  rw [List.any_eq_true]
  constructor
  · rintro ⟨item, listed, holds⟩
    obtain ⟨source, kind, rfl⟩ := named item listed
    exact ⟨source, kind, listed, holds⟩
  · rintro ⟨source, -, listed, holds⟩
    exact ⟨source.render, listed, holds⟩

/-- The instances of a list of sources are not mixed when all its sources have one. -/
theorem mixed_instances {sources : List String}
    (rendered : ∀ item ∈ sources, ∃ source : Source, source.render = item) :
    mixed (sources.filterMap instanceOf) = false ↔
      ∀ a b : Source, a.render ∈ sources → b.render ∈ sources → a.inst = b.inst := by
  have listed (x : String) : x ∈ sources.filterMap instanceOf ↔
      ∃ source : Source, source.render ∈ sources ∧ toString source.inst = x := by
    simp only [List.mem_filterMap]
    constructor
    · rintro ⟨item, member, found⟩
      obtain ⟨source, rfl⟩ := rendered item member
      rw [source.instanceOf_render, Option.some.injEq] at found
      exact ⟨source, member, found⟩
    · rintro ⟨source, member, rfl⟩
      exact ⟨source.render, member, source.instanceOf_render⟩
  rw [mixed_eq_false]
  constructor
  · intro same a b a_member b_member
    exact Text.toString_injective (same _ ((listed _).2 ⟨a, a_member, rfl⟩) _
      ((listed _).2 ⟨b, b_member, rfl⟩))
  · intro one x x_listed y y_listed
    obtain ⟨a, a_member, rfl⟩ := (listed x).1 x_listed
    obtain ⟨b, b_member, rfl⟩ := (listed y).1 y_listed
    rw [one a b a_member b_member]

/-- One instance for all system sources of a list. -/
def OneSystem (sources : List String) : Prop :=
  ∀ a b : Source, a.leaf.service = "system" → b.leaf.service = "system" → a.render ∈ sources →
    b.render ∈ sources → a.inst = b.inst

theorem mixed_system {kind : MetricKind} {sources : List String} (named : AllNamed kind sources) :
    mixed ((sources.filter fun s => Text.startsWith s "system/").filterMap instanceOf) = false ↔
      OneSystem sources := by
  have service : "system/" = "system" ++ "/" := by decide
  have kept (source : Source) :
      source.render ∈ sources.filter (fun s => Text.startsWith s "system/") ↔
        source.render ∈ sources ∧ source.leaf.service = "system" := by
    rw [List.mem_filter, service, source.startsWith_service (by decide)]
  rw [mixed_instances]
  · constructor
    · intro one a b a_system b_system a_member b_member
      exact one a b ((kept a).2 ⟨a_member, a_system⟩) ((kept b).2 ⟨b_member, b_system⟩)
    · intro one a b a_member b_member
      exact one a b ((kept a).1 a_member).2 ((kept b).1 b_member).2 ((kept a).1 a_member).1
        ((kept b).1 b_member).1
  · intro item member
    obtain ⟨source, -, same⟩ := named item (List.mem_filter.1 member).1
    exact ⟨source, same⟩

/-- No two sources of a list overlap. -/
def NoOverlap (sources : List String) : Prop :=
  ∀ a b : Source, Overlaps a b → a.render ∈ sources → b.render ∉ sources

theorem phase_totals {sources : List String} (named : AllNamed .power sources) :
    (sources.any fun source => (phasePrefix source).any fun stem =>
      sources.any fun s => Text.startsWith s stem) = true ↔
      ∃ a b : Source, a.render ∈ sources ∧ b.render ∈ sources ∧ a.inst = b.inst ∧
        ((∃ bus phase, a.leaf = .acPv bus none ∧ b.leaf = .acPv bus (some phase)) ∨
          ∃ phase, a.leaf = .inverterPower none ∧ b.leaf = .inverterPower (some phase)) := by
  rw [named.exists]
  constructor
  · rintro ⟨a, a_kind, a_member, stems⟩
    obtain ⟨stem, found, phases⟩ := (Option.any_eq_true _ _).1 stems
    obtain ⟨b, b_kind, b_member, starts⟩ := (named.exists _).1 phases
    obtain ⟨busPart, devicePart⟩ := solar_stems _ (mem_solarLeaves b_kind)
    rcases (Source.phasePrefix_render (mem_solarLeaves a_kind)).1 found with
      ⟨bus, total, rfl⟩ | ⟨total, rfl⟩
    · obtain ⟨service, inst, stem⟩ := (b.startsWith_stem (by decide)).1 starts
      obtain ⟨phase, -, part⟩ := (busPart bus (mem_pvBuses bus)).1
        ⟨service, List.isPrefixOf_iff_prefix.2 stem⟩
      exact ⟨a, b, a_member, b_member, inst.symm, Or.inl ⟨bus, phase, total, part⟩⟩
    · obtain ⟨service, inst, stem⟩ := (b.startsWith_stem (by decide)).1 starts
      obtain ⟨phase, -, part⟩ := devicePart.1 ⟨service, List.isPrefixOf_iff_prefix.2 stem⟩
      exact ⟨a, b, a_member, b_member, inst.symm, Or.inr ⟨phase, total, part⟩⟩
  · rintro ⟨a, b, a_member, b_member, inst, pair⟩
    have power : ∀ source : Source, (∃ bus phase, source.leaf = .acPv bus phase) ∨
        (∃ phase, source.leaf = .inverterPower phase) → source.leaf.kind = .power := by
      rintro source (⟨bus, phase, leaf⟩ | ⟨phase, leaf⟩) <;> rw [leaf] <;> rfl
    rcases pair with ⟨bus, phase, total, part⟩ | ⟨phase, total, part⟩
    · have a_kind := power a (Or.inl ⟨bus, none, total⟩)
      have b_kind := power b (Or.inl ⟨bus, some phase, part⟩)
      refine ⟨a, a_kind, a_member, ?_⟩
      refine (Option.any_eq_true _ _).2 ⟨_, (Source.phasePrefix_render (mem_solarLeaves a_kind)).2
        (Or.inl ⟨bus, total, rfl⟩), ?_⟩
      refine (named.exists _).2 ⟨b, b_kind, b_member, (b.startsWith_stem (by decide)).2 ?_⟩
      obtain ⟨service, stem⟩ := ((solar_stems _ (mem_solarLeaves b_kind)).1 bus (mem_pvBuses bus)).2
        ⟨phase, mem_acPhases phase, part⟩
      exact ⟨service, inst.symm, List.isPrefixOf_iff_prefix.1 stem⟩
    · have a_kind := power a (Or.inr ⟨none, total⟩)
      have b_kind := power b (Or.inr ⟨some phase, part⟩)
      refine ⟨a, a_kind, a_member, ?_⟩
      refine (Option.any_eq_true _ _).2 ⟨_, (Source.phasePrefix_render (mem_solarLeaves a_kind)).2
        (Or.inr ⟨total, rfl⟩), ?_⟩
      refine (named.exists _).2 ⟨b, b_kind, b_member, (b.startsWith_stem (by decide)).2 ?_⟩
      obtain ⟨service, stem⟩ := (solar_stems _ (mem_solarLeaves b_kind)).2.2
        ⟨phase, mem_acPhases phase, part⟩
      exact ⟨service, inst.symm, List.isPrefixOf_iff_prefix.1 stem⟩

/-- **The solar rules**: the validation accepts a list of solar sources exactly
when no two of them overlap and all system readings come from one system. -/
theorem validatePowerOverlap_eq_ok {sources : List String} (named : AllNamed .power sources) {u : Unit} :
    validatePowerOverlap sources = .ok u ↔ NoOverlap sources ∧ OneSystem sources := by
  have charger : "solarcharger/" = "solarcharger" ++ "/" := by decide
  have inverter : "pvinverter/" = "pvinverter" ++ "/" := by decide
  have dc : (sources.any fun s => Text.endsWith s "/Dc/Pv/Power") = true ↔
      ∃ a : Source, a.leaf = .dcPv ∧ a.render ∈ sources := by
    rw [named.exists]
    constructor
    · rintro ⟨a, kind, member, ends⟩
      exact ⟨a, (Source.endsWith_dc (mem_solarLeaves kind)).1 ends, member⟩
    · rintro ⟨a, leaf, member⟩
      have kind : a.leaf.kind = .power := by rw [leaf]; rfl
      exact ⟨a, kind, member, (Source.endsWith_dc (mem_solarLeaves kind)).2 leaf⟩
  have chargers : (sources.any fun s => Text.startsWith s "solarcharger/") = true ↔
      ∃ b : Source, b.leaf = .chargerPower ∧ b.render ∈ sources := by
    rw [named.exists, charger]
    constructor
    · rintro ⟨b, kind, member, starts⟩
      have service := (b.startsWith_service (by decide)).1 starts
      exact ⟨b, (solar_services _ (mem_solarLeaves kind)).1.1 service, member⟩
    · rintro ⟨b, leaf, member⟩
      have kind : b.leaf.kind = .power := by rw [leaf]; rfl
      exact ⟨b, kind, member, (b.startsWith_service (by decide)).2 (by rw [leaf]; rfl)⟩
  have ac : (sources.any fun s => Text.contains s "/Ac/PvOn") = true ↔
      ∃ a : Source, (∃ bus phase, a.leaf = .acPv bus phase) ∧ a.render ∈ sources := by
    rw [named.exists]
    constructor
    · rintro ⟨a, kind, member, inside⟩
      exact ⟨a, (Source.contains_bus (mem_solarLeaves kind)).1 inside, member⟩
    · rintro ⟨a, ⟨bus, phase, leaf⟩, member⟩
      have kind : a.leaf.kind = .power := by rw [leaf]; rfl
      exact ⟨a, kind, member, (Source.contains_bus (mem_solarLeaves kind)).2 ⟨bus, phase, leaf⟩⟩
  have inverters : (sources.any fun s => Text.startsWith s "pvinverter/") = true ↔
      ∃ b : Source, (∃ phase, b.leaf = .inverterPower phase) ∧ b.render ∈ sources := by
    rw [named.exists, inverter]
    constructor
    · rintro ⟨b, kind, member, starts⟩
      have service := (b.startsWith_service (by decide)).1 starts
      obtain ⟨phase, -, leaf⟩ := (solar_services _ (mem_solarLeaves kind)).2.1 service
      exact ⟨b, ⟨phase, leaf⟩, member⟩
    · rintro ⟨b, ⟨phase, leaf⟩, member⟩
      have kind : b.leaf.kind = .power := by rw [leaf]; rfl
      exact ⟨b, kind, member, (b.startsWith_service (by decide)).2 (by rw [leaf]; rfl)⟩
  simp only [validatePowerOverlap, bind_eq_ok, check_eq_ok, mixed_system named, ← Bool.not_eq_true,
    phase_totals named, Bool.or_eq_true, Bool.and_eq_true, dc, chargers, ac, inverters]
  constructor
  · rintro ⟨-, devices, -, phases, system⟩
    refine ⟨fun a b overlap a_member b_member => ?_, system⟩
    cases overlap with
    | charger aggregate device =>
        exact devices (Or.inl ⟨⟨a, aggregate, a_member⟩, b, device, b_member⟩)
    | inverter bus phase phase' aggregate device =>
        exact devices (Or.inr ⟨⟨a, ⟨bus, phase, aggregate⟩, a_member⟩, b, ⟨phase', device⟩, b_member⟩)
    | busPhase bus phase same total part =>
        exact phases ⟨a, b, a_member, b_member, same, Or.inl ⟨bus, phase, total, part⟩⟩
    | devicePhase phase same total part =>
        exact phases ⟨a, b, a_member, b_member, same, Or.inr ⟨phase, total, part⟩⟩
  · rintro ⟨apart, system⟩
    refine ⟨(), ?_, (), ?_, system⟩
    · rintro (⟨⟨a, aggregate, a_member⟩, b, device, b_member⟩ |
        ⟨⟨a, ⟨bus, phase, aggregate⟩, a_member⟩, b, ⟨phase', device⟩, b_member⟩)
      · exact apart a b (.charger aggregate device) a_member b_member
      · exact apart a b (.inverter bus phase phase' aggregate device) a_member b_member
    · rintro ⟨a, b, a_member, b_member, same, ⟨bus, phase, total, part⟩ | ⟨phase, total, part⟩⟩
      · exact apart a b (.busPhase bus phase same total part) a_member b_member
      · exact apart a b (.devicePhase phase same total part) a_member b_member

/-! ## Consumption totals -/

/-- A consumption total and one of its components on the same phase. -/
inductive Aggregates (a b : Source) : Prop where
  | component (phase : AcPhase) (part : Consumption) (proper : part ≠ .total)
      (same : a.inst = b.inst) (total : a.leaf = .load .total phase)
      (piece : b.leaf = .load part phase)

theorem load_of_kind {leaf : Leaf} (kind : leaf.kind = .loadPower) :
    ∃ part phase, leaf = .load part phase := by
  cases leaf with
  | load part phase => exact ⟨part, phase, rfl⟩
  | _ => cases kind

theorem load_levels (phase : AcPhase) (part : Consumption) (proper : part ≠ .total) :
    "Consumption" ∉ Text.split (Leaf.load part phase).path '/' := by
  cases part with
  | total => exact absurd rfl proper
  | onInput => cases phase <;> decide
  | onOutput => cases phase <;> decide

/-- Only a total splits at the consumption aggregate. -/
theorem splitOnceText_load (source : Source) {part : Consumption} {phase : AcPhase}
    (leaf : source.leaf = .load part phase) {parts : String × String} :
    Text.splitOnceText source.render "/Ac/Consumption/" = some parts ↔
      part = .total ∧ parts = ("system/" ++ toString source.inst, phase.text ++ "/Power") := by
  by_cases isTotal : part = .total
  · subst isTotal
    have whole : source.render = "system/" ++ toString source.inst ++ "/Ac/Consumption/" ++
        (phase.text ++ "/Power") := by
      have service : "system/" = "system" ++ "/" := by decide
      have pattern : "/Ac/Consumption/" = "/" ++ ("Ac/" ++ ("Consumption" ++ "/")) := by decide
      rw [Source.render, leaf, service, pattern]
      simp only [Leaf.service, Leaf.path, Consumption.text, String.append_assoc]
    have without : 'A' ∉ ("system/" ++ toString source.inst).toList := by
      rw [String.toList_append, List.mem_append, not_or]
      exact ⟨by decide, (Text.digits_toString source.inst).ne (by decide)⟩
    have last : ("system/" ++ toString source.inst).toList.getLast? ≠ some '/' := by
      rw [String.toList_append, List.getLast?_append_of_ne_nil _ (Text.digits_toString source.inst).1]
      exact fun slash => instance_flat source.inst (List.mem_of_getLast? slash)
    have shape : "/Ac/Consumption/".toList = '/' :: 'A' :: "c/Consumption/".toList := by decide
    rw [whole, Text.splitOnceText_stem shape without last]
    simp [eq_comm]
  · constructor
    · intro found
      obtain ⟨stem, rest⟩ := parts
      have whole := Text.splitOnceText_some found
      have pattern : "/Ac/Consumption/".toList =
          "/Ac".toList ++ '/' :: ("Consumption".toList ++ ['/']) := by decide
      have level : "Consumption" ∈ Text.split source.render '/' := by
        refine Text.mem_split_between (stem.toList ++ "/Ac".toList) rest.toList ?_ (by decide)
        rw [whole, String.toList_append, String.toList_append, pattern]
        simp
      rw [Source.split_render, leaf] at level
      rcases List.mem_cons.1 level with system | level
      · have different : "Consumption" ≠ "system" := by decide
        exact absurd system different
      · rcases List.mem_cons.1 level with number | level
        · have letter : 'C' ∈ (toString source.inst).toList := by rw [← number]; decide
          exact absurd letter ((Text.digits_toString source.inst).ne (by decide))
        · exact absurd level (load_levels phase part isTotal)
    · rintro ⟨total, -⟩
      exact absurd total isTotal

/-- No total of a list stands beside one of its components. -/
def NoAggregate (sources : List String) : Prop :=
  ∀ a b : Source, Aggregates a b → a.render ∈ sources → b.render ∉ sources

theorem combinesConsumption_eq_false {sources : List String} (named : AllNamed .loadPower sources) :
    combinesConsumption sources = false ↔ NoAggregate sources := by
  have component (source : Source) (phase : AcPhase) (part : Consumption)
      (piece : source.leaf = .load part phase) :
      "system/" ++ toString source.inst ++ "/Ac/" ++ part.text ++ "/" ++ (phase.text ++ "/Power") =
        source.render := by
    have service : "system/" = "system" ++ "/" := by decide
    have ac : "/Ac/" = "/" ++ "Ac/" := by decide
    rw [Source.render, piece, service, ac]
    simp only [Leaf.service, Leaf.path, String.append_assoc]
  rw [← Bool.not_eq_true, combinesConsumption, named.exists]
  constructor
  · intro none a b combined a_member b_member
    obtain ⟨phase, part, proper, same, total, piece⟩ := combined
    refine none ⟨a, by rw [total]; rfl, a_member, (Option.any_eq_true _ _).2
      ⟨_, (splitOnceText_load a total).2 ⟨rfl, rfl⟩, ?_⟩⟩
    have listed : part.text ∈ ["ConsumptionOnInput", "ConsumptionOnOutput"] := by
      cases part with
      | total => exact absurd rfl proper
      | onInput => decide
      | onOutput => decide
    refine List.any_eq_true.2 ⟨part.text, listed, ?_⟩
    rw [List.contains_iff_mem, same, component b phase part piece]
    exact b_member
  · rintro apart ⟨a, kind, a_member, found⟩
    obtain ⟨part, phase, leaf⟩ := load_of_kind kind
    obtain ⟨parts, split, found⟩ := (Option.any_eq_true _ _).1 found
    obtain ⟨rfl, rfl⟩ := (splitOnceText_load a leaf).1 split
    obtain ⟨text, listed, found⟩ := List.any_eq_true.1 found
    rw [List.contains_iff_mem] at found
    have piece : ∃ part : Consumption, part ≠ .total ∧ part.text = text := by
      simp only [List.mem_cons, List.not_mem_nil, or_false] at listed
      rcases listed with rfl | rfl
      · exact ⟨.onInput, by decide, rfl⟩
      · exact ⟨.onOutput, by decide, rfl⟩
    obtain ⟨part, proper, rfl⟩ := piece
    have overlap : Aggregates a ⟨a.inst, a.fits, .load part phase⟩ :=
      .component phase part proper rfl leaf rfl
    rw [component ⟨a.inst, a.fits, .load part phase⟩ phase part rfl] at found
    exact apart a _ overlap a_member found

end InverterGateway.Gateway

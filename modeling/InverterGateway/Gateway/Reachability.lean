/-
# Gateway.Reachability — from a configured source to its reading

Five descriptions of one path have to agree: the source a user configures, the
topic filters the bridge subscribes to, the parser of a topic, the filter of
kept leaves and the key of a reading.  A source is rendered once (`Source.render`)
and followed through all of them, so that what a broker publishes below the
prefix for a configured source is read by a metric of that source.
-/
import InverterGateway.Gateway.EnergySources
import InverterGateway.Gateway.Bridge
import InverterGateway.Gateway.Alarms

namespace InverterGateway.Gateway

open InverterGateway.Theory InverterGateway.Rumqttc

set_option autoImplicit false

/-! ## Accepted sources -/

/-- A listed source of an accepted configuration is the text of one. -/
theorem names_of_configured {raw : RawEnergy} {cfg : EnergyConfig} (accept : configure raw = .ok cfg)
    {kind : MetricKind} {s : String} (listed : s ∈ cfg.sources kind) : Names kind s := by
  obtain ⟨contract, seconds, -, rfl⟩ := configure_eq_ok.1 accept
  rw [accepted_sources, mem_sorted] at listed
  exact contract.grammar kind s listed

/-! ## Subscription -/

theorem leaf_service_known (leaf : Leaf) : leaf.service ∈ energyServices :=
  leafKind_service (leafKind_of_leaf leaf)

/-- Every service with energy paths is subscribed to, over all its instances. -/
theorem energyServices_filtered : ∀ service ∈ energyServices,
    service ++ "/+/#" ∈ Env.portalFilters ∧ service ≠ "#" ∧
      Text.split (service ++ "/+/#") '/' = [service, "+", "#"] := by decide

namespace Source

/-- The service's filter takes the levels of a source. -/
theorem matchLevels_render (source : Source) :
    matchLevels [source.leaf.service, "+", "#"] (Text.split source.render '/') = true := by
  obtain ⟨-, hash, -⟩ := energyServices_filtered _ (leaf_service_known source.leaf)
  have number : toString source.inst ≠ "#" := by
    intro same
    have digit := (Text.digits_toString source.inst).2 '#' (by rw [same]; decide)
    exact absurd digit (by decide)
  rw [split_render, matchLevels_cons _ _ hash hash (Or.inr rfl),
    matchLevels_cons _ _ (by decide) number (Or.inl rfl), matchLevels_hash]

end Source

/-- What ends in a slash is a stem and a slash. -/
theorem exists_stem {s : String} (ends : Text.endsWith s "/" = true) :
    ∃ stem : String, s = stem ++ String.singleton '/' := by
  obtain ⟨stem, whole⟩ := Text.endsWith_iff.1 ends
  refine ⟨String.ofList stem, Text.toList_injective ?_⟩
  rw [String.toList_append, String.toList_ofList, String.toList_singleton, ← whole]
  rfl

/-- A text and one that starts with it begin alike. -/
theorem startsWith_append {s t pat : String} (one : pat.toList.length = 1) (some : s.toList ≠ []) :
    Text.startsWith (s ++ t) pat = Text.startsWith s pat := by
  have same : pat.toList <+: s.toList ++ t.toList ↔ pat.toList <+: s.toList := by
    constructor
    · intro starts
      refine List.prefix_of_prefix_length_le starts (List.prefix_append _ _) ?_
      have long := List.length_pos_iff.2 some
      omega
    · exact fun starts => starts.trans (List.prefix_append _ _)
  rw [Bool.eq_iff_iff, Text.startsWith_iff, Text.startsWith_iff, String.toList_append]
  exact same

/-- Below one prefix, a topic and a filter match when the rest of them does. -/
theorem topicMatches_below {stem topic filter : String} (ends : Text.endsWith stem "/" = true)
    (below : matchLevels (Text.split filter '/') (Text.split topic '/') = true) :
    topicMatches (stem ++ topic) (stem ++ filter) = true := by
  have some : stem.toList ≠ [] := by
    intro none
    have last := Text.endsWith_iff.1 ends
    rw [none, List.suffix_nil] at last
    exact absurd last (by decide)
  have dollar : (Text.startsWith (stem ++ topic) "$" &&
      (Text.startsWith (stem ++ filter) "+" || Text.startsWith (stem ++ filter) "#")) = false := by
    rw [startsWith_append (by decide) some, startsWith_append (by decide) some,
      startsWith_append (by decide) some]
    obtain ⟨first, rest, chars⟩ := List.exists_cons_of_ne_nil some
    have opens : ∀ pat : String, ∀ c : Char, pat.toList = [c] →
        Text.startsWith stem pat = decide (c = first) := by
      intro pat c only
      rw [Text.startsWith, only, chars, List.isPrefixOf_cons_cons, List.isPrefixOf_nil_left, Bool.and_true]
      rfl
    rw [opens "$" '$' (by decide), opens "+" '+' (by decide), opens "#" '#' (by decide)]
    by_cases sign : '$' = first
    · subst sign
      decide
    · rw [decide_eq_false sign, Bool.false_and]
  obtain ⟨root, rfl⟩ := exists_stem ends
  rw [topicMatches, dollar, Text.split_append_sep, Text.split_append_sep, matchLevels_append _ below]
  rfl

/-- The client accepts a service's filter below a prefix without wildcards. -/
theorem validFilter_service {stem service : String} (ends : Text.endsWith stem "/" = true)
    (literal : validTopic stem = true) (known : service ∈ energyServices) :
    validFilter (stem ++ (service ++ "/+/#")) = true := by
  obtain ⟨-, -, levels⟩ := energyServices_filtered service known
  have plain : ∀ service ∈ energyServices, validTopic service = true := by decide
  obtain ⟨root, rfl⟩ := exists_stem ends
  have free : ∀ entry ∈ Text.split root '/', validTopic entry = true := by
    intro entry listed
    have inside (c : Char) (found : c ∈ entry.toList) : c ∈ root.toList := by
      rw [← Text.joinAt_split root '/', Text.joinAt, String.toList_ofList]
      exact Text.mem_intercalate entry.toList (List.mem_map.2 ⟨entry, listed, rfl⟩) found
    have clear := (validTopic_append.1 literal).1
    rw [validTopic, Bool.not_eq_true', Bool.or_eq_false_iff, ← Bool.not_eq_true, ← Bool.not_eq_true,
      Text.containsChar_iff, Text.containsChar_iff] at clear ⊢
    exact ⟨fun found => clear.1 (inside _ found), fun found => clear.2 (inside _ found)⟩
  have entry_ok : ∀ entry : String, validTopic entry = true →
      (!Text.containsChar entry '#' &&
        !(decide (1 < entry.utf8ByteSize) && Text.containsChar entry '+')) = true := by
    intro entry plain
    simp only [validTopic, Bool.not_eq_true', Bool.or_eq_false_iff] at plain
    rw [plain.1, plain.2, Bool.and_false]
    rfl
  have nonempty : (root ++ String.singleton '/' ++ (service ++ "/+/#")).isEmpty = false := by
    rw [← Bool.not_eq_true, String.isEmpty_iff, ← String.toList_inj]
    simp [String.toList_append]
  have parts : (Text.split (root ++ String.singleton '/' ++ (service ++ "/+/#")) '/').reverse =
      "#" :: "+" :: service :: (Text.split root '/').reverse := by
    rw [Text.split_append_sep, levels, List.reverse_append]
    rfl
  rw [validFilter, nonempty, parts]
  simp only [List.all_cons, entry_ok service (plain service known), Bool.true_and, Bool.not_false,
    Bool.and_eq_true, List.all_eq_true]
  refine ⟨by decide, by decide, fun entry listed => ?_⟩
  have ok := entry_ok entry (free entry (List.mem_reverse.1 listed))
  rw [Bool.and_eq_true] at ok
  exact ok

/-- **A source is subscribed to**: below a prefix that ends in a slash, its topic
matches the filter of its service, which the client accepts when the prefix has
no wildcards. -/
theorem source_subscribed {F : Type} {env : Env F} (ends : Text.endsWith env.cfg.topicPrefix "/" = true)
    (source : Source) :
    ∃ filter ∈ env.filters, topicMatches (env.cfg.topicPrefix ++ source.render) filter = true ∧
      (validTopic env.cfg.topicPrefix = true → .subscribe ⟨0, [filter]⟩ ∈ env.subscribePortal) := by
  have known := leaf_service_known source.leaf
  obtain ⟨listed, -, levels⟩ := energyServices_filtered _ known
  have member : env.cfg.topicPrefix ++ (source.leaf.service ++ "/+/#") ∈ env.filters :=
    List.mem_append_left _ (List.mem_map.2 ⟨_, listed, rfl⟩)
  refine ⟨_, member, ?_, fun literal => ?_⟩
  · refine topicMatches_below ends ?_
    rw [levels]
    exact source.matchLevels_render
  · refine List.mem_filterMap.2 ⟨_, member, ?_⟩
    rw [subscribeRequest, if_pos (validFilter_service ends literal known)]

/-! ## Parsing -/

theorem alarms_ending : ∀ ending ∈ ["te", "de"],
    (∀ name ∈ vebusAlarms ++ batteryAlarms, Text.endsWith ("Alarms/" ++ name) ending = false) ∧
      ∀ phase ∈ phases, ∀ name ∈ phaseAlarms,
        Text.endsWith ("Alarms/" ++ phase ++ "/" ++ name) ending = false := by decide +kernel

/-- No leaf ends as the topics of the controller do. -/
theorem Leaf.path_ending (leaf : Leaf) :
    ∀ ending ∈ ["te", "de"], Text.endsWith leaf.path ending = false := by
  cases leaf with
  | acPv bus phase =>
      cases phase with
      | none => cases bus <;> decide
      | some phase => cases bus <;> cases phase <;> decide
  | inverterPower phase =>
      cases phase with
      | none => decide
      | some phase => cases phase <;> decide
  | vebusAlarm name =>
      intro ending few
      exact (alarms_ending ending few).1 name.1 (List.mem_append_left _ name.2)
  | vebusPhaseAlarm phase name =>
      intro ending few
      have listed : phase.text ∈ phases := by cases phase <;> decide
      exact (alarms_ending ending few).2 phase.text listed name.1 name.2
  | batteryAlarm name =>
      intro ending few
      exact (alarms_ending ending few).1 name.1 (List.mem_append_right _ name.2)
  | load part phase => cases part <;> cases phase <;> decide
  | grid phase => cases phase <;> decide
  | _ => decide

/-- A topic below a prefix is not one that ends without a leaf. -/
theorem Source.apart (source : Source) {stem owner ending : String} (few : ending ∈ ["te", "de"])
    (ends : Text.endsWith owner ending = true) : stem ++ source.render ≠ owner := by
  intro same
  have inside : ending.toList <:+ (stem ++ source.render).toList := by
    rw [same]
    exact Text.endsWith_iff.1 ends
  have leaf : source.leaf.tail <:+ (stem ++ source.render).toList := by
    rw [String.toList_append, source.toList_tail, ← List.append_assoc]
    exact List.suffix_append _ _
  have flats : ∀ ending ∈ ["te", "de"], '/' ∉ ending.toList := by decide
  have flat := flats ending few
  rcases List.suffix_or_suffix_of_suffix inside leaf with shorter | longer
  · rcases List.suffix_cons_iff.1 shorter with whole | path
    · exact flat (by rw [whole]; exact List.mem_cons_self)
    · have none := source.leaf.path_ending ending few
      rw [Text.endsWith_iff.2 path] at none
      cases none
  · exact flat (longer.subset List.mem_cons_self)

theorem endsWith_append {s t pat : String} (ends : Text.endsWith t pat = true) :
    Text.endsWith (s ++ t) pat = true := by
  rw [Text.endsWith_iff] at ends ⊢
  rw [String.toList_append]
  exact ends.trans (List.suffix_append _ _)

section Parse

variable {F : Type} {env : Env F}

/-- The service and the path of a source, as the parser of topics cuts them. -/
theorem servicePath_render (source : Source) :
    (Env.servicePath source.render).1 =
      (source.leaf.service, toString source.inst ++ "/" ++ source.leaf.path) := by
  have cut := source.splitOnce_render
  unfold Env.servicePath
  split
  · rename_i service path found
    rw [cut] at found
    cases found
    rfl
  · rename_i missing
    rw [cut] at missing
    cases missing

/-- The update of a source with a value. -/
def Source.update (source : Source) (value : Value F) : ParsedUpdate F :=
  ⟨source.leaf.service, toString source.inst ++ "/" ++ source.leaf.path, value,
    source.leaf.service_flat⟩

theorem parse_render (source : Source) {payload : ByteArray} {value : Value F}
    (decoded : (if payload.isEmpty then some .null else env.decode payload) = some value) :
    env.parse (env.cfg.topicPrefix ++ source.render) payload =
      some (source.update (Env.leafValue value)) := by
  have stripped : Text.stripPrefix (env.cfg.topicPrefix ++ source.render) env.cfg.topicPrefix =
      some source.render := Text.stripPrefix_eq_some.2 rfl
  have some : source.render ≠ "" := by
    intro empty
    have chars := source.toList_render
    rw [empty] at chars
    simp at chars
  have service : source.leaf.service ≠ "" := by
    have known := leaf_service_known source.leaf
    intro empty
    rw [empty] at known
    exact absurd known (by decide)
  have parts := servicePath_render source
  unfold Env.parse
  simp only [stripped, if_neg some, decoded, Option.map_some]
  rw [if_neg (by rw [parts]; exact service)]
  simp only [Source.update, parts]

/-- **A source is routed to the telemetry**: the controller has other topics. -/
theorem operation_render (source : Source) {p : Publish} {value : Value F}
    (topic : p.topic = env.cfg.topicPrefix ++ source.render)
    (decoded : (if p.payload.isEmpty then some .null else env.decode p.payload) = some value) :
    env.operation p = some (.update (source.update (Env.leafValue value))) := by
  have state : p.topic ≠ env.stateTopic := by
    rw [topic]
    exact source.apart (by simp : "te" ∈ ["te", "de"]) (endsWith_append (by decide))
  have override : p.topic ≠ env.overrideTopic := by
    rw [topic]
    exact source.apart (by simp : "de" ∈ ["te", "de"]) (endsWith_append (by decide))
  rw [Env.operation, if_neg state, if_neg override, topic, parse_render source decoded]
  rfl

/-! ## Storing -/

theorem Source.kept (source : Source) (value : Value F) :
    isEnergyPath (source.update value).service (source.update value).path = true := by
  show (metricKind source.leaf.service (toString source.inst ++ "/" ++ source.leaf.path)).isSome = true
  rw [source.metricKind_render]
  rfl

/-- A source is a leaf, so no value of it removes its device. -/
theorem Source.not_removes (source : Source) (value : Value F) :
    (source.update value).removesDevice = false := by
  have slash : Text.containsChar (source.update value).path '/' = true := by
    obtain ⟨whole, -⟩ := Text.splitOnce_eq_some.1 source.splitOnce_path
    rw [Text.containsChar_iff]
    show '/' ∈ (toString source.inst ++ "/" ++ source.leaf.path).toList
    rw [whole]
    exact List.mem_append_right _ List.mem_cons_self
  rw [ParsedUpdate.removesDevice, slash, Bool.not_true, Bool.and_false, Bool.false_and]

/-- The readings after a connected store applied a value of a source. -/
theorem update_render (source : Source) (value : Value F) {store : Shared F}
    (up : store.telemetry.connected = true) (now : Instant) :
    (store.update now (source.update value)).telemetry.energyReadings =
      if value.isNull then store.telemetry.energyReadings.remove source.render
      else store.telemetry.energyReadings.insert source.render ⟨value, now⟩ := by
  have key : sourceKey (source.update value).service (source.update value).path = source.render := by
    show source.leaf.service ++ "/" ++ (toString source.inst ++ "/" ++ source.leaf.path) = _
    simp only [Source.render, String.append_assoc]
  have step := store.telemetry.update_stores store.sse.receivers now (source.update value) up
    (source.not_removes value) (pathKeep_of_isEnergyPath (source.kept value))
  have energy := source.kept value
  rw [Shared.update, step]
  simp only [Telemetry.storeLeaf, energy, if_true, key]
  rfl

end Parse

/-! ## Reading -/

section Read

variable {F : Type} [Binary64 F]

/-- What is read of a source that has a value: a metric of it alone gives the
value if it admits it, while it is recent, and an alarm list of it alone gives
the alarm its code stands for. -/
structure ReadsAlone (cfg : EnergyConfig) (s : String) (value : Value F) (received : Instant)
    (readings : Table (Reading F)) : Prop where
  recent : ∀ unit signed x later, value.asF64 = some x → admits unit signed x = true →
    elapsed later received ≤ cfg.maxAge → ∃ sum, Binary64.eq sum x = true ∧
      collectMetric [s] unit true readings later cfg.maxAge signed =
        ⟨some sum, unit, .fresh, [s], some (asSecs (elapsed later received))⟩
  stale : ∀ unit signed x later, value.asF64 = some x → admits unit signed x = true →
    cfg.maxAge < elapsed later received →
      (collectMetric [s] unit true readings later cfg.maxAge signed).status = .stale
  refused : ∀ unit signed x later, value.asF64 = some x → admits unit signed x = false →
    (collectMetric [s] unit true readings later cfg.maxAge signed).status = .unavailable
  alarm : ∀ label severity later, sourceLabel s = some label → severityOf value = some severity →
    elapsed later received ≤ cfg.maxAge →
      Alarms.build { cfg with alarmSources := [s] } true readings later =
        ⟨.fresh, severity.toList.map fun level => ⟨s, level, label⟩, [s],
          some (asSecs (elapsed later received))⟩
  unknown : ∀ later, severityOf value = none →
    (Alarms.build { cfg with alarmSources := [s] } true readings later).status = .unavailable

/-- What is read of a source without a value. -/
structure Unread (cfg : EnergyConfig) (s : String) (readings : Table (Reading F)) : Prop where
  metric : ∀ unit signed later, collectMetric [s] unit true readings later cfg.maxAge signed =
    ⟨none, unit, .unavailable, [s], none⟩
  alarm : ∀ later, Alarms.build { cfg with alarmSources := [s] } true readings later =
    ⟨.unavailable, [], [s], none⟩

section Lookup

variable {cfg : EnergyConfig} {s : String} {readings : Table (Reading F)}

omit [Binary64 F] in
theorem sourceAge_read {value : Value F} {received : Instant}
    (read : readings.get s = some ⟨value, received⟩) (later : Instant) :
    sourceAge readings later s = some (elapsed later received) := by
  rw [sourceAge, read]
  rfl

theorem sourceValue_read {value : Value F} {received : Instant} {x : F}
    (read : readings.get s = some ⟨value, received⟩) (number : value.asF64 = some x) (unit : String)
    (signed : Bool) :
    sourceValue unit readings signed s = if admits unit signed x then some x else none := by
  rw [sourceValue, read, Option.bind_some, number]
  cases admitted : admits unit signed x <;> simp [Option.filter, admitted]

theorem greatest_one (age : Duration) : greatest [age] = age :=
  Nat.zero_max age

/-- A metric of one source, by the reading of the source. -/
theorem collectMetric_one [Binary64.AddZero F] {value : Value F} {received : Instant} {x : F}
    (read : readings.get s = some ⟨value, received⟩) (number : value.asF64 = some x) (unit : String)
    (signed : Bool) (later : Instant) :
    collectMetric [s] unit true readings later cfg.maxAge signed =
      ⟨if admits unit signed x ∧ elapsed later received ≤ cfg.maxAge then
          some (Binary64.add (Binary64.ofNat 0) x) else none, unit,
        if admits unit signed x then
          if cfg.maxAge < elapsed later received then .stale else .fresh
        else .unavailable, [s], some (asSecs (elapsed later received))⟩ := by
  have age := sourceAge_read read later
  have found := sourceValue_read read number unit signed
  rw [collectMetric_live (List.cons_ne_nil s [])]
  cases admitted : admits unit signed x with
  | false =>
      rw [admitted] at found
      simp [found, age, greatest_one]
  | true =>
      rw [admitted] at found
      have finite : Binary64.isFinite x = true := by
        simp only [admits, Bool.and_eq_true] at admitted
        exact admitted.1.1
      have sum := Binary64.AddZero.isFinite_zero_add x finite
      by_cases old : cfg.maxAge < elapsed later received
      · simp [found, age, greatest_one, total, sum, old, Nat.not_le.2 old]
      · simp [found, age, greatest_one, total, sum, old, Nat.le_of_not_lt old]

theorem build_one {value : Value F} {received : Instant}
    (read : readings.get s = some ⟨value, received⟩) (later : Instant) :
    Alarms.build { cfg with alarmSources := [s] } true readings later =
      ⟨if (scanAlarm readings later cfg.maxAge {} s).unavailable then .unavailable
        else if (scanAlarm readings later cfg.maxAge {} s).stale then .stale
        else .fresh, (scanAlarm readings later cfg.maxAge {} s).active, [s],
        some (asSecs (elapsed later received))⟩ := by
  have complete : (scanAlarm readings later cfg.maxAge {} s).completeAge = true ∧
      (scanAlarm readings later cfg.maxAge {} s).oldest = elapsed later received := by
    have zero : max (0 : Duration) (elapsed later received) = elapsed later received :=
      Nat.zero_max _
    unfold scanAlarm
    rw [read]
    dsimp only
    split
    · exact ⟨rfl, zero⟩
    · split
      · exact ⟨rfl, zero⟩
      · split
        · exact ⟨rfl, zero⟩
        · split <;> exact ⟨rfl, zero⟩
  obtain ⟨whole, oldest⟩ := complete
  simp only [Alarms.build, List.isEmpty_cons, Bool.not_true, Bool.or_self, Bool.false_eq_true,
    if_false, List.foldl_cons, List.foldl_nil, whole, oldest, if_true]
  rfl

/-- **A source with a value is read.** -/
theorem readsAlone_of_read [Binary64.AddZero F] {value : Value F} {received : Instant}
    (read : readings.get s = some ⟨value, received⟩) : ReadsAlone cfg s value received readings where
  recent := by
    intro unit signed x later number admitted young
    have finite : Binary64.isFinite x = true := by
      simp only [admits, Bool.and_eq_true] at admitted
      exact admitted.1.1
    refine ⟨_, Binary64.AddZero.zero_add_eq x finite, ?_⟩
    rw [collectMetric_one read number, if_pos ⟨admitted, young⟩, if_pos admitted,
      if_neg (Nat.not_lt.2 young)]
  stale := by
    intro unit signed x later number admitted old
    rw [collectMetric_one read number, if_pos admitted, if_pos old]
  refused := by
    intro unit signed x later number refused
    rw [collectMetric_one read number]
    simp [refused]
  alarm := by
    intro label severity later named severe young
    have scan : scanAlarm readings later cfg.maxAge {} s =
        { oldest := max 0 (elapsed later received)
          active := severity.toList.map fun level => ⟨s, level, label⟩ } := by
      simp only [scanAlarm, read, severe, named, if_neg (Nat.not_lt.2 young)]
      cases severity <;> rfl
    rw [build_one read, scan]
    rfl
  unknown := by
    intro later unclear
    have scan : (scanAlarm readings later cfg.maxAge {} s).unavailable = true := by
      simp only [scanAlarm, read, unclear]
    rw [build_one read, scan]
    rfl

/-- **A source without a value is unavailable.** -/
theorem unread_of_absent (absent : readings.get s = none) : Unread cfg s readings where
  metric := by
    intro unit signed later
    have age : sourceAge readings later s = none := by
      rw [sourceAge, absent]
      rfl
    have value : sourceValue unit readings signed s = none := by
      rw [sourceValue, absent]
      rfl
    rw [collectMetric_live (List.cons_ne_nil s [])]
    simp [age, value]
  alarm := by
    intro later
    have scan : scanAlarm readings later cfg.maxAge {} s =
        { unavailable := true, completeAge := false } := by
      simp only [scanAlarm, absent]
    simp only [Alarms.build, List.isEmpty_cons, Bool.not_true, Bool.or_self, Bool.false_eq_true,
      if_false, List.foldl_cons, List.foldl_nil, scan, if_true]

end Lookup

/-- Only a labelled leaf is an alarm. -/
theorem labelled_of_leafKind {service text : String} (known : leafKind service text = some .alarm) :
    (alarmLabel service text).isSome = true := by
  unfold leafKind at known
  split at known
  · cases known
  split at known
  · cases known
  split at known
  · cases known
  split at known
  · cases known
  split at known
  · rename_i alarm
    exact alarm.2
  split at known
  · unfold systemPowerKind at known
    split at known
    · split at known
      · cases known
      split at known
      · cases known
      split at known
      · cases known
      split at known
      · cases known
      · cases known
    · cases known
  · cases known

/-- The source of an alarm has a label. -/
theorem sourceLabel_render (source : Source) (alarm : source.leaf.kind = .alarm) :
    ∃ label, sourceLabel source.render = some label := by
  have known := leafKind_of_leaf source.leaf
  rw [alarm] at known
  obtain ⟨label, named⟩ := Option.isSome_iff_exists.1 (labelled_of_leafKind known)
  refine ⟨label, ?_⟩
  simp only [sourceLabel, source.splitOnce_render, source.splitOnce_path, Option.bind_eq_bind,
    Option.bind_some, named]

end Read

/-! ## End to end -/

section EndToEnd

variable {F : Type} [Binary64 F] [Binary64.AddZero F] {env : Env F}

/-- **Every configured source is reachable end to end.**  Below a prefix that ends
in a slash, the topic of a source of an accepted configuration matches a filter
the bridge subscribes to.  A number published there under `value` is recorded by
a connected store under exactly the source, with the time of its receipt, and a
metric or alarm list of the source alone reads it; an empty payload on the topic
withdraws it again. -/
theorem configured_source_reachable {raw : RawEnergy} {cfg : EnergyConfig} {kind : MetricKind}
    {s : String} {n : Number F} {p gone : Publish}
    (ends : Text.endsWith env.cfg.topicPrefix "/" = true) (accept : configure raw = .ok cfg)
    (listed : s ∈ cfg.sources kind) (topic : p.topic = env.cfg.topicPrefix ++ s)
    (full : p.payload.isEmpty = false)
    (decoded : env.decode p.payload = some (.object [("value", .number n)]))
    (same : gone.topic = p.topic) (empty : gone.payload.isEmpty = true) :
    (∃ filter ∈ env.filters, topicMatches p.topic filter = true ∧
      (validTopic env.cfg.topicPrefix = true → .subscribe ⟨0, [filter]⟩ ∈ env.subscribePortal)) ∧
    (kind = .alarm → ∃ label, sourceLabel s = some label) ∧
    ∃ u w, env.parse p.topic p.payload = some u ∧ env.operation p = some (.update u) ∧
      env.parse gone.topic gone.payload = some w ∧ env.operation gone = some (.update w) ∧
      ∀ (store : Shared F) (now : Instant), store.telemetry.connected = true →
        let readings := (store.update now u).telemetry.energyReadings
        let withdrawn := (store.update now w).telemetry.energyReadings
        readings = store.telemetry.energyReadings.insert s ⟨.number n, now⟩ ∧
          ReadsAlone cfg s (.number n) now readings ∧
          withdrawn = store.telemetry.energyReadings.remove s ∧ Unread cfg s withdrawn := by
  obtain ⟨source, leaf, rfl⟩ := names_of_configured accept listed
  have value : Env.leafValue (.object [("value", .number n)] : Value F) = .number n := rfl
  have message : (if p.payload.isEmpty then some .null else env.decode p.payload) =
      some (.object [("value", .number n)]) := by
    rw [full, if_neg Bool.false_ne_true, decoded]
  have nothing : (if gone.payload.isEmpty then some .null else env.decode gone.payload) =
      some (.null : Value F) := by
    rw [empty, if_pos rfl]
  have removed : gone.topic = env.cfg.topicPrefix ++ source.render := by
    rw [same, topic]
  refine ⟨?_, fun alarm => sourceLabel_render source (by rw [leaf, alarm]), ?_⟩
  · rw [topic]
    exact source_subscribed ends source
  · refine ⟨source.update (.number n), source.update .null, ?_, ?_, ?_, ?_, ?_⟩
    · rw [topic, parse_render source message, value]
    · rw [operation_render source topic message, value]
    · rw [removed, parse_render source nothing]
      rfl
    · rw [operation_render source removed nothing]
      rfl
    · intro store now up readings withdrawn
      have stored : readings = store.telemetry.energyReadings.insert source.render ⟨.number n, now⟩ :=
        update_render source (.number n) up now
      have dropped : withdrawn = store.telemetry.energyReadings.remove source.render :=
        update_render source .null up now
      refine ⟨stored, readsAlone_of_read ?_, dropped, unread_of_absent ?_⟩
      · rw [stored, Table.get_insert, if_pos rfl]
      · rw [dropped, Table.get_remove, if_pos rfl]

end EndToEnd

/-- One battery monitor, below the prefix of a portal. -/
def monitored : RawEnergy where
  sources
    | .battery => "battery/3/Soc"
    | _ => ""
  maxAge := "120"

/-- `{"value":55}`. -/
def monitorPayload : ByteArray :=
  ⟨#[123, 34, 118, 97, 108, 117, 101, 34, 58, 53, 53, 125]⟩

def monitorEnv : Env Int :=
  ⟨⟨"N/p/", "W/p/", "inverter"⟩, fun payload =>
    if payload.data.toList = monitorPayload.data.toList then
      some (.object [("value", .number (.posInt 55))])
    else none⟩

theorem configured_source_reachable_monitor :
    ∃ u, monitorEnv.parse "N/p/battery/3/Soc" monitorPayload = some u ∧
      ∀ (store : Shared Int) (now : Instant), store.telemetry.connected = true →
        (store.update now u).telemetry.energyReadings =
          store.telemetry.energyReadings.insert "battery/3/Soc" ⟨.number (.posInt 55), now⟩ := by
  obtain ⟨cfg, accept⟩ := accepted_of_isOk
    (show (configure monitored).isOk = true by decide +kernel)
  obtain ⟨-, seconds, -, same⟩ := configure_eq_ok.1 accept
  have listed : "battery/3/Soc" ∈ cfg.sources .battery := by
    rw [same, accepted_sources, mem_sorted]
    decide
  let full : Publish := ⟨.atMostOnce, "N/p/battery/3/Soc", 0, monitorPayload, .broker 0⟩
  let gone : Publish := ⟨.atMostOnce, "N/p/battery/3/Soc", 0, ⟨#[]⟩, .broker 0⟩
  have reachable := @configured_source_reachable Int _ _ monitorEnv monitored cfg .battery _
    (.posInt 55) full gone (by decide) accept listed (by decide) (by decide) rfl rfl (by decide)
  obtain ⟨-, -, u, w, parsed, -, -, -, stored⟩ := reachable
  exact ⟨u, parsed, fun store now up => (stored store now up).1⟩

end InverterGateway.Gateway

/-
# Gateway.Tables — the tables of kept leaves, buckets and filters agree

Which leaves are kept, which bucket a service is stored in and which topics are
subscribed to are three separate tables.  `tables_agree` says that a kept leaf
has a bucket and is taken by a requested filter, whatever the prefix, and that
no two kept leaves share a stored entry.
-/
import InverterGateway.Theory.TopicFilter
import InverterGateway.Gateway.Bridge
import InverterGateway.Gateway.History

namespace InverterGateway.Gateway

open InverterGateway.Theory
open InverterGateway.Rumqttc

set_option autoImplicit false

/-! ## Kept leaves -/

/-- The services whose leaves are all subscribed to. -/
def openServices : List String :=
  ["system", "vebus", "battery", "solarcharger", "pvinverter", "tank", "pump", "ev", "evcharger",
    "acload", "platform"]

/-- The only settings that are kept. -/
def essSettings : List String := ["Settings/CGwacs/Hub4Mode", "Settings/CGwacs/BatteryLife/State"]

/-- A kept leaf belongs to an open service, or is one of the two settings of an instance. -/
theorem pathKeep_service {service path : String} (kept : pathKeep service path = true) :
    service ∈ openServices ∨ (service = "settings" ∧ ∃ inst leaf : String, '/' ∉ inst.toList ∧
      leaf ∈ essSettings ∧ path = inst ++ "/" ++ leaf) := by
  by_cases energy : isEnergyPath service path = true
  · obtain ⟨-, -, -, -, known⟩ := isEnergyPath_shape energy
    have among : ∀ s ∈ energyServices, s ∈ openServices := by decide
    exact Or.inl (among service known)
  · unfold pathKeep at kept
    rw [if_neg energy] at kept
    dsimp only at kept
    split at kept
    · refine Or.inr ⟨rfl, ?_⟩
      cases parts : Text.splitOnce path '/' with
      | none =>
          -- both settings have slashes of their own
          rw [parts] at kept
          have listed : path ∈ essSettings := by simpa [essSettings] using kept
          have slashes : ∀ leaf ∈ essSettings, '/' ∈ leaf.toList := by decide
          exact absurd (slashes path listed) (Text.splitOnce_eq_none.1 parts)
      | some pair =>
          obtain ⟨inst, leaf⟩ := pair
          rw [parts] at kept
          obtain ⟨whole, plain⟩ := Text.splitOnce_eq_some.1 parts
          refine ⟨inst, leaf, plain, by simpa [essSettings] using kept, Text.toList_injective ?_⟩
          have slash : "/".toList = ['/'] := by decide
          rw [whole, String.toList_append, String.toList_append, slash, List.append_assoc]
          rfl
    all_goals first
      | exact Or.inl (by decide)
      | cases kept

/-- The bare topic of a service, and the key it would be stored under, are not kept. -/
theorem not_pathKeep_bare (service : String) : ∀ path ∈ ["", "_"], pathKeep service path = false := by
  intro path bare
  have single : Text.splitOnce path '/' = none := by
    simp only [List.mem_cons, List.not_mem_nil, or_false] at bare
    rcases bare with rfl | rfl <;> decide
  have energy : isEnergyPath service path = false := by
    rw [Bool.eq_false_iff]
    intro energy
    obtain ⟨inst, leaf, parts, -⟩ := isEnergyPath_shape energy
    rw [single] at parts
    cases parts
  unfold pathKeep
  rw [energy, single]
  simp only [List.mem_cons, List.not_mem_nil, or_false] at bare
  simp only [Bool.false_eq_true, if_false]
  rcases bare with rfl | rfl
  · split <;> decide
  · split <;> decide

/-! ## Stored entries -/

/-- Where a leaf is stored: the bucket of its service and its key there. -/
def entryOf (service path : String) : Option (Bucket × String) :=
  (bucketMut service).map fun bucket => (bucket, if path = "" then "_" else path)

theorem entryOf_kept {service path : String} {bucket : Bucket}
    (found : bucketMut service = some bucket) (kept : pathKeep service path = true) :
    entryOf service path = some (bucket, path) := by
  have some : path ≠ "" := by
    rintro rfl
    rw [not_pathKeep_bare service "" (by simp)] at kept
    cases kept
  rw [entryOf, found, Option.map_some, if_neg some]

theorem openServices_bucket : ∀ service ∈ openServices, (bucketMut service).isSome = true := by decide

theorem kept_bucket {service path : String} (kept : pathKeep service path = true) :
    ∃ bucket, bucketMut service = some bucket := by
  rcases pathKeep_service kept with known | ⟨rfl, -⟩
  · exact Option.isSome_iff_exists.1 (openServices_bucket service known)
  · exact ⟨.settings, rfl⟩

/-- Kept leaves with one entry are one leaf. -/
theorem entryOf_injective {service path service' path' : String}
    (kept : pathKeep service path = true) (kept' : pathKeep service' path' = true)
    (same : entryOf service path = entryOf service' path') : service = service' ∧ path = path' := by
  obtain ⟨bucket, found⟩ := kept_bucket kept
  obtain ⟨bucket', found'⟩ := kept_bucket kept'
  rw [entryOf_kept found kept, entryOf_kept found' kept', Option.some.injEq, Prod.mk.injEq] at same
  obtain ⟨rfl, rfl⟩ := same
  exact ⟨bucketMut_inj found found', rfl⟩

/-- The value stored for a leaf. -/
def Snapshot.entry {F : Type} (s : Snapshot F) (service path : String) : Option (Value F) :=
  (entryOf service path).bind fun (bucket, key) => (s.buckets bucket).get key

/-- A kept leaf is stored, and no other kept leaf changes. -/
theorem applyUpdate_entry {F : Type} (s : Snapshot F) (u : ParsedUpdate F)
    (kept : pathKeep u.service u.path = true) {service path : String}
    (kept' : pathKeep service path = true) :
    (applyUpdate s u).entry service path =
      if service = u.service ∧ path = u.path then some u.value else s.entry service path := by
  obtain ⟨bucket, found⟩ := kept_bucket kept
  obtain ⟨bucket', found'⟩ := kept_bucket kept'
  have own := entryOf_kept found kept
  have key : (if u.path = "" then "_" else u.path) = u.path := by
    rw [entryOf, found, Option.map_some, Option.some.injEq, Prod.mk.injEq] at own
    exact own.2
  have stored : applyUpdate s u = s.setBucket bucket ((s.buckets bucket).insert u.path u.value) := by
    simp only [applyUpdate, found, key]
  simp only [Snapshot.entry, entryOf_kept found' kept', Option.bind_some, stored,
    Snapshot.setBucket_buckets]
  by_cases service_same : service = u.service
  · subst service_same
    obtain rfl := Option.some.inj (found.symm.trans found')
    simp only [if_true, Table.get_insert, true_and]
  · have apart : bucket' ≠ bucket := by
      rintro rfl
      exact service_same (bucketMut_inj found' found)
    rw [if_neg apart, if_neg fun both => service_same both.1]

/-! ## Subscriptions -/

theorem openServices_filtered : ∀ service ∈ openServices,
    service ++ "/" ++ "+/#" ∈ Env.portalFilters ∧ service.toList ≠ [] := by decide

theorem essSettings_filtered : ∀ leaf ∈ essSettings,
    "settings" ++ "/" ++ ("+/" ++ leaf) ∈ Env.portalFilters ∧
      Text.split ("+/" ++ leaf) '/' = "+" :: Text.split leaf '/' := by decide

/-- Below any prefix, a kept leaf's topic is taken by a requested filter. -/
theorem kept_subscribed {F : Type} (env : Env F) {service path : String}
    (kept : pathKeep service path = true) : ∃ filter ∈ env.filters,
      TopicFilter.Accepts filter (env.cfg.topicPrefix ++ service ++ "/" ++ path) := by
  have requested : ∀ filter ∈ Env.portalFilters, env.cfg.topicPrefix ++ filter ∈ env.filters :=
    fun filter listed => List.mem_append_left _ (List.mem_map.2 ⟨filter, listed, rfl⟩)
  rcases pathKeep_service kept with known | ⟨rfl, inst, leaf, plain, setting, rfl⟩
  · obtain ⟨listed, some⟩ := openServices_filtered service known
    refine ⟨_, requested _ listed, TopicFilter.accepts_below _ some rfl ?_⟩
    have shape : Text.split "+/#" '/' = ["+", "#"] := by decide
    rw [shape]
    -- the instance level and everything below it
    cases levels : Text.split path '/' with
    | nil =>
        have parts : path.toList.splitOn '/' = [] := List.map_eq_nil_iff.1 levels
        exact absurd parts (List.splitOn_ne_nil _ _)
    | cons level rest => exact .one level (.rest rest)
  · obtain ⟨listed, shape⟩ := essSettings_filtered leaf setting
    refine ⟨_, requested _ listed, TopicFilter.accepts_below _ (by decide) shape ?_⟩
    have slash : ("/" : String) = String.singleton '/' := rfl
    have single : Text.split inst '/' = [inst] := by
      have joined : Text.split (Text.joinAt '/' [inst]) '/' = [inst] :=
        Text.split_joinAt (by simpa using plain) (by simp)
      simpa [Text.joinAt] using joined
    rw [slash, Text.split_append_sep, single]
    refine .one inst ?_
    exact List.append_nil (Text.split leaf '/') ▸ TopicFilter.Takes.append _ .done

theorem matchLevels_of_takes {filter topic : List String} (takes : TopicFilter.Takes filter topic)
    (plain : "#" ∉ topic) : matchLevels filter topic = true := by
  induction takes with
  | done => rfl
  | rest topic => exact matchLevels_hash _ _
  | one level _ ih =>
      obtain ⟨other, rest⟩ := not_or.1 (mt List.mem_cons.2 plain)
      rw [matchLevels_cons _ _ (by decide) (Ne.symm other) (Or.inl rfl)]
      exact ih rest
  | same level _ ih =>
      obtain ⟨other, rest⟩ := not_or.1 (mt List.mem_cons.2 plain)
      rw [matchLevels_cons _ _ (Ne.symm other) (Ne.symm other) (Or.inr rfl)]
      exact ih rest

/-- The broker delivers a topic without wildcards to a filter that takes it. -/
theorem topicMatches_of_accepts {filter topic : String} (accepts : TopicFilter.Accepts filter topic)
    (valid : validTopic topic = true) : topicMatches topic filter = true := by
  have plain : "#" ∉ Text.split topic '/' := by
    intro listed
    have inside : '#' ∈ topic.toList := by
      rw [← Text.joinAt_split topic '/', Text.joinAt, String.toList_ofList]
      exact Text.mem_intercalate ("#" : String).toList (List.mem_map.2 ⟨"#", listed, rfl⟩) (by decide)
    simp [validTopic, Text.containsChar, inside] at valid
  rw [topicMatches, matchLevels_of_takes accepts.levels plain, Bool.and_true, Bool.not_eq_true']
  cases dollar : Text.startsWith topic "$" with
  | false => rfl
  | true =>
      obtain ⟨plus, hash⟩ := accepts.dollar dollar
      rw [plus, hash]
      rfl

/-- Energy leaves with one reading are one leaf. -/
theorem sourceKey_injective {service path service' path' : String}
    (energy : isEnergyPath service path = true) (energy' : isEnergyPath service' path' = true)
    (same : sourceKey service path = sourceKey service' path') : service = service' ∧ path = path' := by
  have plain : ∀ service ∈ energyServices, '/' ∉ service.toList := by decide
  obtain ⟨-, -, -, -, known⟩ := isEnergyPath_shape energy
  obtain ⟨-, -, -, -, known'⟩ := isEnergyPath_shape energy'
  have slash : "/".toList = ['/'] := by decide
  have texts := congrArg String.toList same
  simp only [sourceKey, String.toList_append, slash, List.append_assoc, List.singleton_append] at texts
  rw [Text.append_sep_inj (plain service known) (plain service' known')] at texts
  exact ⟨String.toList_inj.1 texts.1, String.toList_inj.1 texts.2⟩

/-- **The tables agree.**  A kept leaf has a bucket, is taken by a requested filter
below any prefix and is stored under an entry of its own; an energy leaf has a
reading of its own besides. -/
theorem tables_agree {F : Type} (env : Env F) :
    (∀ service path, pathKeep service path = true ∨ isEnergyPath service path = true →
      (∃ bucket, bucketMut service = some bucket) ∧
        ∃ filter ∈ env.filters,
          TopicFilter.Accepts filter (env.cfg.topicPrefix ++ service ++ "/" ++ path)) ∧
    (∀ (s : Snapshot F) (u : ParsedUpdate F) service path, pathKeep u.service u.path = true →
      pathKeep service path = true → (applyUpdate s u).entry service path =
        if service = u.service ∧ path = u.path then some u.value else s.entry service path) ∧
    (∀ service path service' path', pathKeep service path = true → pathKeep service' path' = true →
      entryOf service path = entryOf service' path' → service = service' ∧ path = path') ∧
    ∀ service path service' path', isEnergyPath service path = true →
      isEnergyPath service' path' = true → sourceKey service path = sourceKey service' path' →
        service = service' ∧ path = path' := by
  refine ⟨fun service path wanted => ?_, fun s u _ _ kept kept' => applyUpdate_entry s u kept kept',
    fun _ _ _ _ kept kept' same => entryOf_injective kept kept' same,
    fun _ _ _ _ energy energy' same => sourceKey_injective energy energy' same⟩
  · have kept : pathKeep service path = true := by
      rcases wanted with kept | energy
      · exact kept
      · exact pathKeep_of_isEnergyPath energy
    exact ⟨kept_bucket kept, kept_subscribed env kept⟩

end InverterGateway.Gateway

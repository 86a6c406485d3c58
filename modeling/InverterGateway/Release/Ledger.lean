/-
# Release.Ledger — sound ledgers and what may be added to them

A sound ledger is one that `read_state` accepts, with more than that check asks:
no two reservations share a build number, and only stable releases may share a
tag.  A plan made for a run that has none may be added (`admits_created`), and
the floor may be raised to the number of a reserved plan; both keep the ledger
sound and only add to it.
-/
import InverterGateway.Release.State
import InverterGateway.Release.Versions
import Mathlib.Data.List.Nodup

namespace InverterGateway.Release

set_option autoImplicit false

open InverterGateway.Theory

/-! ## Sound ledgers -/

/-- What holds of one reservation. -/
structure Recorded (counter : Int) (entry : String × Reservation) : Prop where
  key : isPositive entry.1 = true
  plan : entry.2.plan.Valid
  build : ∃ n, entry.2.plan.build_number = some n ∧ n ≤ counter
  nightly : entry.2.plan.channel = "nightly" →
    ∃ attempt, entry.2.plan.sequence.runAttempt = some (entry.1, attempt)

structure Ledger.Sound (state : Ledger) : Prop where
  schema : state.schema = 1
  floor : 0 ≤ state.publication_floor
  counter : state.publication_floor ≤ state.counter
  keys : state.keys.Nodup
  recorded : ∀ entry ∈ state.plans, Recorded state.counter entry
  builds : ∀ e ∈ state.plans, ∀ f ∈ state.plans,
    e.2.plan.build_number = f.2.plan.build_number → e = f
  tags : ∀ e ∈ state.plans, ∀ f ∈ state.plans, e.2.plan.tag = f.2.plan.tag →
    e.2.plan.channel ≠ "stable" → e = f

/-- A ledger that may follow another one. -/
structure Ledger.Le (s t : Ledger) : Prop where
  counter : s.counter ≤ t.counter
  floor : s.publication_floor ≤ t.publication_floor
  plans : ∀ entry ∈ s.plans, entry ∈ t.plans

namespace Ledger

theorem Le.refl (s : Ledger) : s.Le s := ⟨le_refl _, le_refl _, fun _ found => found⟩

theorem Le.trans {s t u : Ledger} (one : s.Le t) (two : t.Le u) : s.Le u :=
  ⟨one.counter.trans two.counter, one.floor.trans two.floor,
    fun entry found => two.plans entry (one.plans entry found)⟩

theorem Same.le {s t : Ledger} (same : s.Same t) : t.Le s :=
  ⟨same.counter.ge, same.floor.ge, fun _ found => same.plans.mem_iff.2 found⟩

theorem sound_empty : Ledger.empty.Sound where
  schema := rfl
  floor := le_refl _
  counter := le_refl _
  keys := List.nodup_nil
  recorded := fun _ found => by cases found
  builds := fun _ found => by cases found
  tags := fun _ found => by cases found

theorem Sound.same {s t : Ledger} (sound : s.Sound) (same : t.Same s) : t.Sound where
  schema := same.schema.trans sound.schema
  floor := same.floor ▸ sound.floor
  counter := by rw [same.floor, same.counter]; exact sound.counter
  keys := (same.plans.map Prod.fst).nodup_iff.2 sound.keys
  recorded := fun entry found => by
    rw [same.counter]
    exact sound.recorded entry (same.plans.mem_iff.1 found)
  builds := fun e he f hf => sound.builds e (same.plans.mem_iff.1 he) f (same.plans.mem_iff.1 hf)
  tags := fun e he f hf => sound.tags e (same.plans.mem_iff.1 he) f (same.plans.mem_iff.1 hf)

/-- A key names one reservation. -/
theorem Sound.entry_eq {s : Ledger} (sound : s.Sound) {e f : String × Reservation}
    (he : e ∈ s.plans) (hf : f ∈ s.plans) (same : e.1 = f.1) : e = f :=
  List.inj_on_of_nodup_map sound.keys he hf same

theorem mem_of_lookup {plans : List (String × Reservation)} {key : String} {record : Reservation}
    (found : plans.lookup key = some record) : (key, record) ∈ plans := by
  induction plans with
  | nil => cases found
  | cons entry rest ih =>
      rw [List.lookup_cons] at found
      split at found
      · rename_i same
        cases found
        rw [beq_iff_eq] at same
        rw [same]
        exact List.mem_cons_self
      · exact List.mem_cons_of_mem _ (ih found)

theorem not_mem_of_lookup {plans : List (String × Reservation)} {key : String}
    (absent : plans.lookup key = none) : ∀ entry ∈ plans, entry.1 ≠ key := by
  induction plans with
  | nil => exact fun _ found => by cases found
  | cons first rest ih =>
      rw [List.lookup_cons] at absent
      split at absent
      · cases absent
      · rename_i other
        rw [beq_eq_false_iff_ne] at other
        rintro entry found
        rcases List.mem_cons.1 found with rfl | later
        · exact fun same => other same.symm
        · exact ih absent entry later

theorem requireLedger_ok {condition : Bool} {message : String} {u : Unit} :
    requireLedger condition message = .ok u ↔ condition = true := by
  unfold requireLedger
  cases condition <;> simp

theorem number_ok {plan : Plan} {n : Int} : plan.number = .ok n ↔ plan.build_number = some n := by
  unfold Plan.number
  split
  · rename_i number shape
    rw [shape, Except.ok.injEq, Option.some.injEq]
  · rename_i shape
    rw [shape]
    exact ⟨fun other => (by cases other), fun other => (by cases other)⟩

/-- **`read_state` accepts a sound ledger.** -/
theorem Sound.accepted {s : Ledger} (sound : s.Sound) : checkLedger s = .ok () := by
  simp only [checkLedger, bind_eq_ok, requireLedger_ok, exists_const, decide_eq_true_eq,
    Bool.and_eq_true, forM_eq_ok]
  refine ⟨sound.schema, sound.floor.trans sound.counter, ⟨sound.floor, sound.counter⟩, ?_⟩
  intro entry found
  obtain ⟨key, plan, ⟨n, build, bound⟩, -⟩ := sound.recorded entry found
  simp only [checkReservation, bind_eq_ok, requireLedger_ok, exists_const, decide_eq_true_eq]
  exact ⟨key, (), validate_plan_ok.2 plan, n, number_ok.2 build, bound⟩

/-- What a new reservation needs to keep a ledger sound. -/
structure Admits (s : Ledger) (number : Int) (key : String) (plan : Plan) : Prop where
  above : s.counter < number
  positive : isPositive key = true
  unused : ∀ entry ∈ s.plans, entry.1 ≠ key
  valid : plan.Valid
  build : plan.build_number = some number
  nightly : plan.channel = "nightly" →
    ∃ attempt, plan.sequence.runAttempt = some (key, attempt)
  numbered : ∀ entry ∈ s.plans, entry.2.plan.base_version = plan.base_version →
    entry.2.plan.channel = plan.channel → plan.channel = "beta" ∨ plan.channel = "rc" →
    entry.2.plan.sequence ≠ plan.sequence

/-- A new reservation has a tag of its own, unless it is for a stable release. -/
theorem Admits.fresh_tag {s : Ledger} {number : Int} {key : String} {plan : Plan} (sound : s.Sound)
    (admits : s.Admits number key plan) {entry : String × Reservation} (found : entry ∈ s.plans)
    (same : entry.2.plan.tag = plan.tag) : plan.channel = "stable" := by
  have recorded := sound.recorded entry found
  obtain ⟨bases, channels, sequences⟩ := recorded.plan.tag_injective admits.valid same
  rcases admits.valid.identifies.kind with ⟨stable, -⟩ | ⟨nightly, -⟩ | ⟨numbered, -⟩
  · exact stable
  · obtain ⟨attempt, fields⟩ := recorded.nightly (channels.trans nightly)
    obtain ⟨attempt', fields'⟩ := admits.nightly nightly
    rw [sequences, fields'] at fields
    cases fields
    exact absurd rfl (admits.unused entry found)
  · exact absurd sequences (admits.numbered entry found bases channels numbered)

theorem reserve_le (s : Ledger) {number : Int} (above : s.counter < number) (key : String)
    (plan : Plan) (parent : Option Parent) : s.Le (s.reserve number key plan parent) :=
  ⟨above.le, le_refl _, fun _ found => List.mem_append_left _ found⟩

/-- **A reservation keeps the ledger sound.** -/
theorem Sound.reserve {s : Ledger} {number : Int} {key : String} {plan : Plan} (sound : s.Sound)
    (admits : s.Admits number key plan) (parent : Option Parent) :
    (s.reserve number key plan parent).Sound := by
  have below : ∀ entry ∈ s.plans, entry.2.plan.build_number ≠ plan.build_number := by
    intro entry found same
    obtain ⟨n, build, bound⟩ := (sound.recorded entry found).build
    have equal := build.symm.trans (same.trans admits.build)
    have above := admits.above
    cases equal
    omega
  have split : ∀ e ∈ (s.reserve number key plan parent).plans,
      e ∈ s.plans ∨ e = (key, ⟨plan, some parent, []⟩) := by
    intro e found
    rcases List.mem_append.1 found with old | last
    · exact .inl old
    · exact .inr (List.mem_singleton.1 last)
  refine ⟨sound.schema, sound.floor, sound.counter.trans admits.above.le, ?_, ?_, ?_, ?_⟩
  · have names : (s.reserve number key plan parent).keys = s.keys ++ [key] := by
      rw [Ledger.keys, Ledger.reserve, List.map_append, List.map_singleton, Ledger.keys]
    rw [names, List.nodup_append]
    refine ⟨sound.keys, List.nodup_singleton _, ?_⟩
    intro k old k' last
    obtain ⟨entry, found, rfl⟩ := List.mem_map.1 old
    rw [List.mem_singleton.1 last]
    exact admits.unused entry found
  · intro e found
    rcases split e found with old | rfl
    · obtain ⟨key, plan, ⟨n, build, bound⟩, nightly⟩ := sound.recorded e old
      exact ⟨key, plan, ⟨n, build, bound.trans admits.above.le⟩, nightly⟩
    · exact ⟨admits.positive, admits.valid, ⟨number, admits.build, le_refl _⟩, admits.nightly⟩
  · intro e he f hf same
    rcases split e he with old | rfl
    · rcases split f hf with old' | rfl
      · exact sound.builds e old f old' same
      · exact absurd same (below e old)
    · rcases split f hf with old' | rfl
      · exact absurd same.symm (below f old')
      · rfl
  · intro e he f hf same unstable
    rcases split e he with old | rfl
    · rcases split f hf with old' | rfl
      · exact sound.tags e old f old' same unstable
      · have stable := admits.fresh_tag sound old same
        obtain ⟨-, channels, -⟩ := (sound.recorded e old).plan.tag_injective admits.valid same
        exact absurd (channels.trans stable) unstable
    · rcases split f hf with old' | rfl
      · exact absurd (admits.fresh_tag sound old' same.symm) unstable
      · rfl

/-- The ledger after the floor was raised to the number of a reserved plan. -/
theorem Sound.consume {s : Ledger} {number : Int} {entry : String × Reservation} (sound : s.Sound)
    (reserved : entry ∈ s.plans) (build : entry.2.plan.build_number = some number)
    (above : s.publication_floor ≤ number) :
    ({ s with publication_floor := number } : Ledger).Sound ∧
      s.Le { s with publication_floor := number } := by
  obtain ⟨n, build', bound⟩ := (sound.recorded entry reserved).build
  rw [build, Option.some.injEq] at build'
  cases build'
  exact ⟨⟨sound.schema, sound.floor.trans above, bound, sound.keys, sound.recorded, sound.builds,
    sound.tags⟩, ⟨le_refl _, above, fun _ found => found⟩⟩

end Ledger

/-! ## The identity of a new plan -/

theorem pad_plain (width n : Nat) : '.' ∉ pad width n := by
  intro found
  rcases List.mem_append.1 found with zero | digit
  · exact absurd (List.eq_of_mem_replicate zero) (by decide)
  · exact absurd (Text.isDigit_of_mem_toDigits digit) (by decide)

theorem stamp_plain (now : DateTime) : '.' ∉ now.stamp.toList := by
  rw [DateTime.stamp, String.toList_ofList]
  simp only [List.mem_append, not_or]
  exact ⟨⟨⟨⟨⟨pad_plain _ _, pad_plain _ _⟩, pad_plain _ _⟩, pad_plain _ _⟩, pad_plain _ _⟩,
    pad_plain _ _⟩

theorem toString_plain (n : Nat) : '.' ∉ (toString n).toList :=
  (Text.digits_toString n).ne (by decide)

theorem toString_int_plain (n : Int) : '.' ∉ (toString n).toList := by
  cases n with
  | ofNat k => exact toString_plain k
  | negSucc k =>
      have shape : toString (Int.negSucc k) = "-" ++ toString (k + 1) := rfl
      rw [shape, String.toList_append, List.mem_append, not_or]
      exact ⟨by decide, toString_plain _⟩

theorem isPositive_toString {n : Nat} (positive : 0 < n) : isPositive (toString n) = true := by
  obtain ⟨some, digits⟩ := Text.digits_toString n
  simp only [isPositive, Bool.and_eq_true, decide_eq_true_eq, List.all_eq_true]
  refine ⟨⟨some, digits⟩, ?_⟩
  intro zero
  rcases Nat.lt_or_ge 1 (toString n).toList.length with long | short
  · exact Text.toString_leading long zero
  · have value : Text.digitsValue (toString n).toList = n := by
      rw [Text.toList_toString, Text.digitsValue_toDigits]
    cases shape : (toString n).toList with
    | nil => exact some shape
    | cons c rest =>
        rw [shape] at zero short value
        cases zero
        have none : rest = [] := by
          refine List.eq_nil_of_length_eq_zero ?_
          rw [List.length_cons] at short
          omega
        rw [none] at value
        have nothing : Text.digitsValue ['0'] = 0 := by decide
        omega

theorem positiveKey_ok {value : Int} {name key : String} (made : positiveKey value name = .ok key) :
    0 < value ∧ key = toString value ∧ isPositive key = true := by
  unfold positiveKey at made
  split at made
  · rename_i positive
    cases made
    refine ⟨positive, rfl, ?_⟩
    rw [toString_positive positive]
    exact isPositive_toString (by omega)
  · cases made

/-- The fields of a sequence made of a stamp, a run and an attempt. -/
theorem runAttempt_stamped (now : DateTime) (run attempt : Int) :
    (Sequence.text (now.stamp ++ "." ++ toString run ++ "." ++ toString attempt)).runAttempt =
      some (toString run, toString attempt) := by
  have dot : "." = String.singleton '.' :=
    Text.toList_injective (by rw [String.toList_singleton]; decide)
  have fields : Text.split (now.stamp ++ "." ++ toString run ++ "." ++ toString attempt) '.' =
      [now.stamp, toString run, toString attempt] := by
    rw [dot, Text.split_append_sep, Text.split_append_sep, Text.split_of_not_mem (stamp_plain now),
      Text.split_of_not_mem (toString_int_plain run),
      Text.split_of_not_mem (toString_int_plain attempt)]
    rfl
  rw [Sequence.runAttempt, fields]

/-- What the sequence of a new plan satisfies. -/
structure NewSequence (state : Ledger) (request : Reserve) (sequence : Sequence) : Prop where
  numbered : request.channel = "beta" ∨ request.channel = "rc" →
    ∃ n, sequence = .number n ∧ ∀ m ∈ reservedSequences state request.base request.channel, m < n
  nightly : request.channel = "nightly" →
    sequence.runAttempt = some (toString request.run_id, toString request.attempt)

theorem lt_max_succ {l : List Int} {next m : Int} (listed : m ∈ l) :
    m < max next ((l.max?).getD 0 + 1) := by
  cases largest : l.max? with
  | none => rw [List.max?_eq_none_iff.1 largest] at listed; cases listed
  | some top =>
      have bound := (List.max?_eq_some_iff.1 largest).2 m listed
      rw [Option.getD_some]
      omega

theorem newSequence_only (state : Ledger) (request : Reserve) :
    (newSequence state request).Only Reads (NewSequence state request) := by
  unfold newSequence
  split
  · rename_i numbered
    refine Dialogue.Only.bind (P := fun _ => True) ?_ ?_
    · unfold next_sequence
      refine (Api.require_only _ _).bind fun _ _ => (Api.require_only _ _).bind fun _ _ => ?_
      exact (Api.api_only trivial).bind fun _ _ => (Api.api_only trivial).bind fun _ _ => trivial
    · intro next _
      refine ⟨fun _ => ⟨_, rfl, fun m listed => lt_max_succ listed⟩, fun nightly => ?_⟩
      rw [nightly] at numbered
      exact absurd numbered (by decide)
  · rename_i other
    split
    · exact ⟨fun numbered => absurd numbered other, fun _ => runAttempt_stamped _ _ _⟩
    · rename_i unlike
      exact ⟨fun numbered => absurd numbered other, fun nightly => absurd nightly unlike⟩

theorem mem_reservedSequences {state : Ledger} {base channel : String} {n : Int}
    {entry : String × Reservation} (found : entry ∈ state.plans)
    (same : entry.2.plan.base_version = base) (same' : entry.2.plan.channel = channel)
    (numbered : entry.2.plan.sequence = .number n) : n ∈ reservedSequences state base channel := by
  refine List.mem_filterMap.2 ⟨entry, found, ?_⟩
  rw [if_pos ⟨same, same'⟩, numbered]

/-- **A plan made for a run that has none may be added to the ledger.** -/
theorem admits_created {digest : PolicyDigest} {state : Ledger} {request : Reserve}
    {sequence : Sequence} {plan : Plan} {key : String}
    (sequenced : NewSequence state request sequence) (keyed : positiveKey request.run_id "run ID" = .ok key)
    (absent : state.plans.lookup key = none)
    (made : create_plan digest request.base request.channel sequence request.source_sha
      request.policy (some (max state.counter request.policy.floor + 1)) = .ok plan) :
    state.Admits (max state.counter request.policy.floor + 1) key plan := by
  obtain ⟨-, keyName, positive⟩ := positiveKey_ok keyed
  have valid := create_plan_valid made
  obtain ⟨-, -, -, -, -, -, shape⟩ := create_plan_ok.1 made
  have base : plan.base_version = request.base := by rw [shape]
  have channel : plan.channel = request.channel := by rw [shape]
  have sequences : plan.sequence = sequence := by rw [shape]
  refine ⟨by omega, positive, Ledger.not_mem_of_lookup absent, valid, by rw [shape], ?_, ?_⟩
  · intro nightly
    rw [sequences, keyName]
    exact ⟨_, sequenced.nightly (channel ▸ nightly)⟩
  · intro entry found bases channels numbered same
    obtain ⟨n, number, above⟩ := sequenced.numbered (channel ▸ numbered)
    have listed := mem_reservedSequences found (bases.trans base) (channels.trans channel)
      (same.trans (sequences.trans number))
    exact absurd (above n listed) (lt_irrefl n)

end InverterGateway.Release

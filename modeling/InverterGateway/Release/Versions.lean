/-
# Release.Versions — a version says what it is

The version and the tag of a release determine its base version, its channel and
its sequence (`identity_injective`, `tag_injective`), so two releases that
differ in one of them never meet under one tag.
-/
import InverterGateway.Release.Plan
import InverterGateway.Theory.Fallible

namespace InverterGateway.Release

set_option autoImplicit false

open InverterGateway.Theory

/-! ## The patterns by their characters -/

theorem isPositive_digits {s : String} (positive : isPositive s = true) : Text.Digits s := by
  simp only [isPositive, Bool.and_eq_true, decide_eq_true_eq, List.all_eq_true] at positive
  exact ⟨positive.1.1, positive.1.2⟩

theorem isNumeral_digits {s : String} (numeral : isNumeral s = true) : Text.Digits s := by
  simp only [isNumeral, Bool.or_eq_true, decide_eq_true_eq] at numeral
  rcases numeral with rfl | positive
  · exact ⟨by decide, List.all_eq_true.1 (by decide)⟩
  · exact isPositive_digits positive

/-- A character of a version base. -/
def BaseChar (c : Char) : Prop := Text.isDigit c = true ∨ c = '.'

theorem isBase_chars {s : String} (base : isBase s = true) : ∀ c ∈ s.toList, BaseChar c := by
  unfold isBase at base
  split at base
  case h_2 => cases base
  case h_1 major minor patch fields =>
    simp only [Bool.and_eq_true] at base
    have whole := Text.joinAt_split s '.'
    rw [fields] at whole
    intro c found
    rw [← whole, Text.joinAt] at found
    simp only [List.map_cons, List.map_nil, String.toList_ofList, List.intercalate,
      List.intersperse, List.flatten_cons, List.flatten_nil, List.append_nil, List.mem_append,
      List.mem_singleton] at found
    rcases found with here | rfl | here | rfl | here
    · exact .inl ((isNumeral_digits base.1.1).2 c here)
    · exact .inr rfl
    · exact .inl ((isNumeral_digits base.1.2).2 c here)
    · exact .inr rfl
    · exact .inl ((isNumeral_digits base.2).2 c here)

theorem isBase_ne {s : String} (base : isBase s = true) {c : Char} (other : Text.isDigit c = false)
    (dot : c ≠ '.') : c ∉ s.toList := by
  intro found
  rcases isBase_chars base c found with digit | same
  · rw [other] at digit
    cases digit
  · exact dot same

/-! ## Identities -/

/-- What a channel requires of a sequence, and the version it spells with the base. -/
inductive Identifies (base : String) : String → Sequence → String → Prop where
  | stable : Identifies base "stable" .none base
  | nightly {s : String} (pattern : isNightly s = true)
      (calendar : isTimestamp ((s.toList.splitOn '.').headD []) = true) :
      Identifies base "nightly" (.text s) (base ++ "-" ++ "nightly" ++ "." ++ s)
  | beta {n : Int} (positive : 0 < n) :
      Identifies base "beta" (.number n) (base ++ "-" ++ "beta" ++ "." ++ toString n)
  | rc {n : Int} (positive : 0 < n) :
      Identifies base "rc" (.number n) (base ++ "-" ++ "rc" ++ "." ++ toString n)

theorem identity_ok {base channel version : String} {sequence : Sequence} :
    identity base channel sequence = .ok version ↔
      isBase base = true ∧ Identifies base channel sequence version := by
  simp only [identity, bind_eq_ok, requirePlan_ok, exists_const]
  constructor
  · rintro ⟨based, known, rest⟩
    refine ⟨based, ?_⟩
    simp only [List.contains_eq_mem, List.mem_cons, List.not_mem_nil, or_false, decide_eq_true_eq]
      at known
    rcases known with rfl | rfl | rfl | rfl
    · rw [if_neg (by decide), if_pos rfl] at rest
      cases sequence with
      | text s =>
          simp only [bind_eq_ok, requirePlan_ok, exists_const] at rest
          obtain ⟨pattern, calendar, ⟨⟩⟩ := rest
          exact .nightly pattern calendar
      | none => cases rest
      | number n => cases rest
    · rw [if_neg (by decide), if_neg (by decide)] at rest
      cases sequence with
      | number n =>
          simp only [bind_eq_ok, requirePlan_ok, exists_const, decide_eq_true_eq] at rest
          obtain ⟨positive, ⟨⟩⟩ := rest
          exact .beta positive
      | none => cases rest
      | text s => cases rest
    · rw [if_neg (by decide), if_neg (by decide)] at rest
      cases sequence with
      | number n =>
          simp only [bind_eq_ok, requirePlan_ok, exists_const, decide_eq_true_eq] at rest
          obtain ⟨positive, ⟨⟩⟩ := rest
          exact .rc positive
      | none => cases rest
      | text s => cases rest
    · rw [if_pos rfl] at rest
      simp only [bind_eq_ok, requirePlan_ok, exists_const, decide_eq_true_eq] at rest
      obtain ⟨rfl, ⟨⟩⟩ := rest
      exact .stable
  · rintro ⟨based, named⟩
    refine ⟨based, ?_⟩
    cases named with
    | stable => exact ⟨by decide, rfl⟩
    | nightly pattern calendar =>
        refine ⟨by decide, ?_⟩
        rw [if_neg (by decide), if_pos rfl]
        simp only [bind_eq_ok, requirePlan_ok, exists_const]
        exact ⟨pattern, calendar, rfl⟩
    | beta positive =>
        refine ⟨by decide, ?_⟩
        rw [if_neg (by decide), if_neg (by decide)]
        simp only [bind_eq_ok, requirePlan_ok, exists_const, decide_eq_true_eq]
        exact ⟨positive, rfl⟩
    | rc positive =>
        refine ⟨by decide, ?_⟩
        rw [if_neg (by decide), if_neg (by decide)]
        simp only [bind_eq_ok, requirePlan_ok, exists_const, decide_eq_true_eq]
        exact ⟨positive, rfl⟩

/-- A version is its base, alone or before `-channel.sequence`. -/
theorem Identifies.spelling {base channel version : String} {sequence : Sequence}
    (named : Identifies base channel sequence version) :
    channel = "stable" ∧ sequence = .none ∧ version = base ∨
      channel ∈ ["nightly", "beta", "rc"] ∧ sequence ≠ .none ∧
        version.toList = base.toList ++ '-' :: (channel.toList ++ '.' :: sequence.str.toList) := by
  have dash : "-".toList = ['-'] := by decide
  have dot : ".".toList = ['.'] := by decide
  cases named with
  | stable => exact .inl ⟨rfl, rfl, rfl⟩
  | nightly _ _ => exact .inr ⟨by decide, by simp, by simp [Sequence.str, dash, dot]⟩
  | beta _ => exact .inr ⟨by decide, by simp, by simp [Sequence.str, dash, dot]⟩
  | rc _ => exact .inr ⟨by decide, by simp, by simp [Sequence.str, dash, dot]⟩

theorem toString_positive {n : Int} (positive : 0 < n) : toString n = toString n.toNat := by
  obtain ⟨k, rfl⟩ := Int.eq_ofNat_of_zero_le (Int.le_of_lt positive)
  rfl

theorem toString_positive_injective {m n : Int} (mp : 0 < m) (np : 0 < n)
    (same : toString m = toString n) : m = n := by
  rw [toString_positive mp, toString_positive np] at same
  have equal := Text.toString_injective same
  omega

/-- The kind of sequence that a channel takes. -/
theorem Identifies.kind {base channel version : String} {sequence : Sequence}
    (named : Identifies base channel sequence version) :
    channel = "stable" ∧ sequence = .none ∨
      channel = "nightly" ∧ (∃ s, sequence = .text s ∧ isNightly s = true) ∨
      (channel = "beta" ∨ channel = "rc") ∧ ∃ n, sequence = .number n ∧ 0 < n := by
  cases named with
  | stable => exact .inl ⟨rfl, rfl⟩
  | nightly pattern _ => exact .inr (.inl ⟨rfl, _, rfl, pattern⟩)
  | beta positive => exact .inr (.inr ⟨.inl rfl, _, rfl, positive⟩)
  | rc positive => exact .inr (.inr ⟨.inr rfl, _, rfl, positive⟩)

/-- Within a channel the text of the sequence determines it. -/
theorem Identifies.sequence_injective {base base' channel version version' : String}
    {sequence sequence' : Sequence} (one : Identifies base channel sequence version)
    (two : Identifies base' channel sequence' version') (same : sequence.str = sequence'.str) :
    sequence = sequence' := by
  rcases one.kind with ⟨rfl, rfl⟩ | ⟨rfl, s, rfl, -⟩ | ⟨numbered, m, rfl, mp⟩
  · rcases two.kind with ⟨-, rfl⟩ | ⟨other, -⟩ | ⟨other | other, -⟩
    · rfl
    all_goals exact absurd other (by decide)
  · rcases two.kind with ⟨other, -⟩ | ⟨-, t, rfl, -⟩ | ⟨other | other, -⟩
    · exact absurd other (by decide)
    · exact congrArg Sequence.text same
    all_goals exact absurd other (by decide)
  · rcases two.kind with ⟨rfl, -⟩ | ⟨rfl, -⟩ | ⟨-, n, rfl, np⟩
    · exact absurd numbered (by decide)
    · exact absurd numbered (by decide)
    · exact congrArg Sequence.number (toString_positive_injective mp np same)

/-- **A version determines its base, its channel and its sequence.** -/
theorem identity_injective {base base' channel channel' version : String}
    {sequence sequence' : Sequence} (one : identity base channel sequence = .ok version)
    (two : identity base' channel' sequence' = .ok version) :
    base = base' ∧ channel = channel' ∧ sequence = sequence' := by
  obtain ⟨based, named⟩ := identity_ok.1 one
  obtain ⟨based', named'⟩ := identity_ok.1 two
  have clear := isBase_ne based (c := '-') (by decide) (by decide)
  have clear' := isBase_ne based' (c := '-') (by decide) (by decide)
  rcases named.spelling with ⟨rfl, rfl, rfl⟩ | ⟨listed, -, spelled⟩
  · rcases named'.spelling with ⟨rfl, rfl, same⟩ | ⟨-, -, spelled'⟩
    · exact ⟨same, rfl, rfl⟩
    · exact absurd (spelled' ▸ List.mem_append_right _ List.mem_cons_self) clear
  · rcases named'.spelling with ⟨rfl, rfl, rfl⟩ | ⟨listed', -, spelled'⟩
    · exact absurd (spelled ▸ List.mem_append_right _ List.mem_cons_self) clear'
    · rw [spelled] at spelled'
      obtain ⟨bases, tails⟩ := (Text.append_sep_inj clear clear').1 spelled'
      have plain : ∀ s ∈ ["nightly", "beta", "rc"], '.' ∉ s.toList := by decide
      obtain ⟨channels, sequences⟩ :=
        (Text.append_sep_inj (plain _ listed) (plain _ listed')).1 tails
      obtain rfl := Text.toList_injective channels
      exact ⟨Text.toList_injective bases, rfl,
        named.sequence_injective named' (Text.toList_injective sequences)⟩

/-! ## Plans that pass their check -/

/-- What `validate_plan` asks of a plan. -/
structure Plan.Valid (plan : Plan) : Prop where
  schema : plan.schema_version = 1
  identified : identity plan.base_version plan.channel plan.sequence = .ok plan.version
  tagged : plan.tag = "v" ++ plan.version
  source : isSha plan.source_sha = true
  policy : isHex 64 plan.policy_sha256 = true
  profile : plan.promotion = "promote-bytes" ∨ plan.promotion = "final-build"
  build : buildInRange plan.build_number = true

theorem validate_plan_ok {plan : Plan} {u : Unit} :
    validate_plan plan = .ok u ↔ plan.Valid := by
  simp only [validate_plan, bind_eq_ok, requirePlan_ok, exists_const, decide_eq_true_eq,
    Bool.and_eq_true, List.contains_eq_mem, List.mem_cons, List.not_mem_nil, or_false]
  constructor
  · rintro ⟨schema, version, named, ⟨same, tagged⟩, source, policy, profile, build⟩
    exact ⟨schema, same ▸ named, same ▸ tagged, source, policy, profile, build⟩
  · rintro ⟨schema, named, tagged, source, policy, profile, build⟩
    exact ⟨schema, plan.version, named, ⟨rfl, tagged⟩, source, policy, profile, build⟩

/-- The version in a valid plan is the one its identity spells. -/
theorem Plan.Valid.identifies {plan : Plan} (valid : plan.Valid) :
    Identifies plan.base_version plan.channel plan.sequence plan.version :=
  (identity_ok.1 valid.identified).2

/-- **A tag determines the base, the channel and the sequence of its plan.** -/
theorem Plan.Valid.tag_injective {plan plan' : Plan} (valid : plan.Valid) (valid' : plan'.Valid)
    (same : plan.tag = plan'.tag) :
    plan.base_version = plan'.base_version ∧ plan.channel = plan'.channel ∧
      plan.sequence = plan'.sequence := by
  rw [valid.tagged, valid'.tagged] at same
  have versions := Text.append_left_cancel.1 same
  exact identity_injective valid.identified (versions ▸ valid'.identified)

/-- What making a plan checks, and the plan it makes. -/
theorem create_plan_ok {digest : PolicyDigest} {base channel source_sha : String}
    {sequence : Sequence} {policy : Policy} {build_number : Option Int} {plan : Plan} :
    create_plan digest base channel sequence source_sha policy build_number = .ok plan ↔
      validate_policy policy = .ok () ∧ identity base channel sequence = .ok plan.version ∧
      isSha source_sha = true ∧ buildInRange build_number = true ∧
      (build_number.all fun number => decide (policy.floor < number)) = true ∧
      (policy.files.forM fun item => do let _ ← projected_value plan item) = .ok () ∧
      plan = {
        schema_version := 1
        base_version := base
        version := plan.version
        channel := channel
        sequence := sequence
        tag := "v" ++ plan.version
        source_sha := source_sha
        build_number := build_number
        policy_sha256 := digest.of policy
        promotion := policy.promotion } := by
  simp only [create_plan, bind_eq_ok, requirePlan_ok, exists_const]
  constructor
  · rintro ⟨⟨⟩, policed, version, named, source, range, above, ⟨⟩, projected, ⟨⟩⟩
    exact ⟨policed, named, source, range, above, projected, rfl⟩
  · rintro ⟨policed, named, source, range, above, projected, shape⟩
    refine ⟨(), policed, plan.version, named, source, range, above, (), ?_, ?_⟩
    · rw [← shape]
      exact projected
    · rw [← shape]
      rfl

theorem create_plan_valid {digest : PolicyDigest} {base channel source_sha : String}
    {sequence : Sequence} {policy : Policy} {build_number : Option Int} {plan : Plan}
    (made : create_plan digest base channel sequence source_sha policy build_number = .ok plan) :
    plan.Valid := by
  obtain ⟨policed, named, source, range, -, -, shape⟩ := create_plan_ok.1 made
  rw [shape]
  refine ⟨rfl, named, rfl, source, digest.hex policy, ?_, range⟩
  simp only [validate_policy, bind_eq_ok, requirePlan_ok, exists_const, List.contains_eq_mem,
    List.mem_cons, List.not_mem_nil, or_false, decide_eq_true_eq] at policed
  exact policed.1

theorem validate_bound_plan_ok {digest : PolicyDigest} {plan : Plan} {policy : Policy}
    {source_sha : String} :
    validate_bound_plan digest plan policy source_sha = .ok () ↔
      plan.Valid ∧ validate_policy policy = .ok () ∧ plan.policy_sha256 = digest.of policy ∧
      plan.promotion = policy.promotion ∧
      (plan.build_number.all fun number => decide (policy.floor < number)) = true ∧
      (policy.files.forM fun item => do let _ ← projected_value plan item) = .ok () ∧
      plan.source_sha = source_sha := by
  simp only [validate_bound_plan, bind_eq_ok, requirePlan_ok, decide_eq_true_eq, exists_const]
  constructor
  · rintro ⟨⟨⟩, valid, ⟨⟩, policed, digested, profile, above, ⟨⟩, projected, source⟩
    exact ⟨validate_plan_ok.1 valid, policed, digested, profile, above, projected, source⟩
  · rintro ⟨valid, policed, digested, profile, above, projected, source⟩
    exact ⟨(), validate_plan_ok.2 valid, (), policed, digested, profile, above, (), projected,
      source⟩

/-- **A plan passes its own check, against its policy and its source, and
against no other source.** -/
theorem create_plan_accepted {digest : PolicyDigest} {base channel source_sha : String}
    {sequence : Sequence} {policy : Policy} {build_number : Option Int} {plan : Plan}
    (made : create_plan digest base channel sequence source_sha policy build_number = .ok plan)
    (sha : String) :
    validate_bound_plan digest plan policy sha = .ok () ↔ sha = source_sha := by
  have valid := create_plan_valid made
  obtain ⟨policed, named, source, range, above, projected, shape⟩ := create_plan_ok.1 made
  rw [validate_bound_plan_ok]
  constructor
  · rintro ⟨-, -, -, -, -, -, same⟩
    rw [shape] at same
    exact same.symm
  · rintro rfl
    refine ⟨valid, policed, ?_, ?_, ?_, projected, ?_⟩
    all_goals rw [shape]
    exact above

namespace Rehearsal

/-- Every field of a policy, each on a line. -/
def policyText (policy : Policy) : List Char :=
  ([policy.promotion, toString policy.floor] ++
    policy.files.flatMap (fun item => [item.value, item.ecosystem, item.prefixText]) ++
    policy.others.flatMap fun field => [field.1, field.2]).flatMap fun line => line.toList ++ ['\n']

/-- A checksum of the whole policy, in sixty-four digits. -/
def digest : PolicyDigest where
  of := fun policy =>
    let sum := (policyText policy).foldl (fun sum c => sum * 1000003 + c.toNat) 0
    String.ofList ((List.range 64).map fun place => Nat.digitChar (sum / 16 ^ place % 16))
  hex := by
    intro policy
    have digits : ∀ n < 16, (Text.isDigit (Nat.digitChar n) ||
        ('a' ≤ Nat.digitChar n && Nat.digitChar n ≤ 'f')) = true := by decide
    rw [isHex, String.toList_ofList, List.length_map, List.length_range, Bool.and_eq_true]
    refine ⟨rfl, List.all_eq_true.2 fun c listed => ?_⟩
    obtain ⟨place, -, rfl⟩ := List.mem_map.1 listed
    exact digits _ (Nat.mod_lt _ (by decide))

def sha : String := String.ofList (List.replicate 40 'a')

def policy : Policy := ⟨"promote-bytes", none, [{}], []⟩

/-- A plan for 1.2.3 under this policy. -/
def planFor (channel version : String) (sequence : Sequence) (number : Int) : Plan where
  schema_version := 1
  base_version := "1.2.3"
  version := version
  channel := channel
  sequence := sequence
  tag := "v" ++ version
  source_sha := sha
  build_number := some number
  policy_sha256 := digest.of policy
  promotion := "promote-bytes"

def plan (n : Int) : Plan := planFor "beta" ("1.2.3-beta." ++ toString n) (.number n) n

def nightly (text : String) (n : Int) : Plan :=
  planFor "nightly" ("1.2.3-nightly." ++ text) (.text text) n

theorem nightly_valid {text : String} {n : Int}
    (checked : validate_plan (nightly text n) = .ok ()) : (nightly text n).Valid :=
  validate_plan_ok.1 checked

end Rehearsal

theorem create_plan_accepted_beta :
    validate_bound_plan Rehearsal.digest (Rehearsal.plan 4) Rehearsal.policy Rehearsal.sha =
      .ok () := by
  have made : create_plan Rehearsal.digest "1.2.3" "beta" (.number 4) Rehearsal.sha
      Rehearsal.policy (some 4) = .ok (Rehearsal.plan 4) := by decide +kernel
  exact (create_plan_accepted made _).2 rfl

/-! ## Package versions of PEP 440 -/

/-- The run and the attempt of a nightly sequence. -/
def Sequence.runAttempt : Sequence → Option (String × String)
  | .text s =>
      match Text.split s '.' with
      | [_, run, attempt] => some (run, attempt)
      | _ => Option.none
  | _ => Option.none

theorem isPositive_injective {s t : String} (positive : isPositive s = true)
    (positive' : isPositive t = true)
    (same : Text.digitsValue s.toList = Text.digitsValue t.toList) : s = t := by
  have render : ∀ u, isPositive u = true →
      Nat.toDigits 10 (Text.digitsValue u.toList) = u.toList := by
    intro u numeral
    have digits := isPositive_digits numeral
    refine Text.toDigits_digitsValue digits.1 digits.2 fun _ => ?_
    simp only [isPositive, Bool.and_eq_true, decide_eq_true_eq] at numeral
    exact numeral.2
  apply Text.toList_injective
  rw [← render s positive, same, render t positive']

/-- The number of a nightly sequence, and the run and the attempt it is made of. -/
theorem nightlyNumber_ok {s : String} (pattern : isNightly s = true) :
    ∃ run attempt, (Sequence.text s).runAttempt = some (run, attempt) ∧
      isPositive run = true ∧ isPositive attempt = true ∧
      nightlyNumber (.text s) = .ok (Text.digitsValue run.toList * 1000000 +
        Text.digitsValue attempt.toList, Text.digitsValue attempt.toList) := by
  unfold isNightly at pattern
  unfold Sequence.runAttempt nightlyNumber
  split at pattern
  case h_1 stamp run attempt fields =>
    simp only [Bool.and_eq_true] at pattern
    refine ⟨run, attempt, ?_, pattern.1.2, pattern.2, ?_⟩
    · simp only [fields]
    · simp only [fields]
  case h_2 => cases pattern

/-- How a package version marks its channel: what stands before the first letter,
the letter and what follows it. -/
inductive Marked (plan : Plan) : List Char → Char → List Char → Prop where
  | beta {n : Int} (channel : plan.channel = "beta") (sequence : plan.sequence = .number n)
      (positive : 0 < n) :
      Marked plan plan.base_version.toList 'b' (toString n).toList
  | rc {n : Int} (channel : plan.channel = "rc") (sequence : plan.sequence = .number n)
      (positive : 0 < n) :
      Marked plan plan.base_version.toList 'r' ('c' :: (toString n).toList)
  | nightly {s run attempt : String} {n : Nat} (channel : plan.channel = "nightly")
      (sequence : plan.sequence = .text s)
      (fields : plan.sequence.runAttempt = some (run, attempt)) (positive : isPositive run = true)
      (positive' : isPositive attempt = true)
      (number : n = Text.digitsValue run.toList * 1000000 + Text.digitsValue attempt.toList)
      (small : Text.digitsValue attempt.toList < 1000000) (bound : n ≤ 2 ^ 64 - 2) :
      Marked plan (plan.base_version.toList ++ ['.']) 'd' ('e' :: 'v' :: (toString n).toList)

/-- A plan whose own package version is not that of the stable release it will become. -/
def Plan.Copied (plan : Plan) : Prop := plan.channel = "rc" ∧ plan.promotion = "promote-bytes"

theorem Rehearsal.nightly_own (text : String) (n : Int) : ¬ (nightly text n).Copied := by
  rintro ⟨channel, -⟩
  have other : "nightly" = "rc" := channel
  exact absurd other (by decide)

theorem packageVersion_shape {plan : Plan} (valid : plan.Valid) (own : ¬ plan.Copied)
    {text : String} (made : packageVersion plan "pep440" = .ok text) :
    plan.channel = "stable" ∧ plan.sequence = .none ∧ text = plan.base_version ∨
      ∃ stem letter tail, text.toList = stem ++ letter :: tail ∧ Marked plan stem letter tail := by
  have other : ¬ (plan.channel = "rc" ∧ plan.promotion = "promote-bytes") := own
  unfold packageVersion at made
  rw [if_neg other, if_pos rfl] at made
  have named := valid.identifies
  rcases named.kind with ⟨channel, sequence⟩ | ⟨channel, s, sequence, pattern⟩ |
      ⟨channel | channel, n, sequence, positive⟩
  · rw [channel, if_neg (by decide), if_neg (by decide), if_neg (by decide)] at made
    rw [channel, sequence] at named
    rcases named.spelling with ⟨-, -, same⟩ | ⟨listed, -⟩
    · cases made
      exact .inl ⟨channel, sequence, same⟩
    · exact absurd listed (by decide)
  · obtain ⟨run, attempt, fields, positive, positive', number⟩ := nightlyNumber_ok pattern
    rw [channel, if_neg (by decide), if_neg (by decide), if_pos rfl, sequence, number] at made
    simp only [bind_eq_ok, requirePlan_ok, exists_const, Except.ok.injEq, Bool.and_eq_true,
      decide_eq_true_eq] at made
    obtain ⟨_, rfl, ⟨small, bound⟩, ⟨⟩⟩ := made
    refine .inr ⟨_, 'd', _, ?_, .nightly channel sequence (sequence ▸ fields) positive positive'
      rfl small bound⟩
    have dev : ".dev".toList = ['.', 'd', 'e', 'v'] := by decide
    rw [String.toList_append, String.toList_append, dev]
    simp only [List.append_assoc, List.cons_append, List.nil_append]
  · rw [channel, if_pos rfl, sequence] at made
    cases made
    have b : "b".toList = ['b'] := by decide
    refine .inr ⟨_, 'b', _, ?_, .beta channel sequence positive⟩
    rw [String.toList_append, String.toList_append, b]
    simp only [Sequence.str, List.append_assoc, List.cons_append, List.nil_append]
  · rw [channel, if_neg (by decide), if_pos rfl, sequence] at made
    cases made
    have rc : "rc".toList = ['r', 'c'] := by decide
    refine .inr ⟨_, 'r', _, ?_, .rc channel sequence positive⟩
    rw [String.toList_append, String.toList_append, rc]
    simp only [Sequence.str, List.append_assoc, List.cons_append, List.nil_append]

theorem Marked.letter {plan : Plan} {stem tail : List Char} {letter : Char}
    (marked : Marked plan stem letter tail) : ¬ BaseChar letter := by
  cases marked <;> (unfold BaseChar; decide)

theorem Marked.stem {plan : Plan} (valid : plan.Valid) {stem tail : List Char} {letter : Char}
    (marked : Marked plan stem letter tail) : ∀ c ∈ stem, ¬ ¬ BaseChar c := by
  have base := isBase_chars (identity_ok.1 valid.identified).1
  intro c found
  rw [not_not]
  cases marked with
  | beta _ _ _ => exact base c found
  | rc _ _ _ => exact base c found
  | nightly _ _ _ _ _ _ _ _ =>
      rcases List.mem_append.1 found with inside | last
      · exact base c inside
      · exact .inr (List.mem_singleton.1 last)

/-- What two plans with one package version share. -/
structure Plan.SamePackage (plan plan' : Plan) : Prop where
  base : plan.base_version = plan'.base_version
  channel : plan.channel = plan'.channel
  sequence : plan.channel ≠ "nightly" → plan.sequence = plan'.sequence
  run : plan.sequence.runAttempt = plan'.sequence.runAttempt

theorem Marked.injective {plan plan' : Plan} {stem tail : List Char} {letter : Char}
    (one : Marked plan stem letter tail) {stem' tail' : List Char} {letter' : Char}
    (two : Marked plan' stem' letter' tail') (stems : stem = stem') (letters : letter = letter')
    (tails : tail = tail') : plan.SamePackage plan' := by
  cases one with
  | beta channel sequence positive =>
      cases two with
      | beta channel' sequence' positive' =>
          have same : plan.sequence = plan'.sequence := by
            rw [sequence, sequence']
            exact congrArg _ (toString_positive_injective positive positive'
              (Text.toList_injective tails))
          exact ⟨Text.toList_injective stems, channel.trans channel'.symm, fun _ => same,
            congrArg _ same⟩
      | rc _ _ _ => exact absurd letters (by decide)
      | nightly _ _ _ _ _ _ _ _ => exact absurd letters (by decide)
  | rc channel sequence positive =>
      cases two with
      | beta _ _ _ => exact absurd letters (by decide)
      | rc channel' sequence' positive' =>
          have same : plan.sequence = plan'.sequence := by
            rw [sequence, sequence']
            exact congrArg _ (toString_positive_injective positive positive'
              (Text.toList_injective (List.cons.inj tails).2))
          exact ⟨Text.toList_injective stems, channel.trans channel'.symm, fun _ => same,
            congrArg _ same⟩
      | nightly _ _ _ _ _ _ _ _ => exact absurd letters (by decide)
  | nightly channel sequence fields positive positive' number small bound =>
      cases two with
      | beta _ _ _ => exact absurd letters (by decide)
      | rc _ _ _ => exact absurd letters (by decide)
      | nightly channel' sequence' fields' other other' number' small' bound' =>
          have numbers := Text.toString_injective
            (Text.toList_injective (List.cons.inj (List.cons.inj tails).2).2)
          have runs := isPositive_injective positive other (by omega)
          have attempts := isPositive_injective positive' other' (by omega)
          refine ⟨Text.toList_injective (List.append_cancel_right stems),
            channel.trans channel'.symm, fun named => absurd channel named, ?_⟩
          rw [fields, fields', runs, attempts]

/-- **Two releases share a package version only when they are the same release.**
The time stamp of a nightly is not part of it; its run and attempt are. -/
theorem packageVersion_injective {plan plan' : Plan} (valid : plan.Valid) (valid' : plan'.Valid)
    (own : ¬ plan.Copied) (own' : ¬ plan'.Copied) {text : String}
    (made : packageVersion plan "pep440" = .ok text)
    (made' : packageVersion plan' "pep440" = .ok text) : plan.SamePackage plan' := by
  have base := isBase_chars (identity_ok.1 valid.identified).1
  have base' := isBase_chars (identity_ok.1 valid'.identified).1
  rcases packageVersion_shape valid own made with ⟨channel, sequence, whole⟩ |
      ⟨stem, letter, tail, spelled, marked⟩
  · rcases packageVersion_shape valid' own' made' with ⟨channel', sequence', whole'⟩ |
        ⟨stem, letter, tail, spelled, marked⟩
    · have same : plan.sequence = plan'.sequence := sequence.trans sequence'.symm
      exact ⟨whole.symm.trans whole', channel.trans channel'.symm, fun _ => same,
        congrArg _ same⟩
    · refine absurd (base letter ?_) marked.letter
      rw [← whole, spelled]
      exact List.mem_append_right _ List.mem_cons_self
  · rcases packageVersion_shape valid' own' made' with ⟨-, -, whole⟩ |
        ⟨stem', letter', tail', spelled', marked'⟩
    · refine absurd (base' letter ?_) marked.letter
      rw [← whole, spelled]
      exact List.mem_append_right _ List.mem_cons_self
    · obtain ⟨stems, letters, tails⟩ := Text.append_first_inj (spelled.symm.trans spelled')
        (marked.stem valid) (marked'.stem valid') marked.letter marked'.letter
      exact marked.injective marked' stems letters tails

theorem packageVersion_injective_nightly :
    (Rehearsal.nightly "20260801053000.7.1" 4).SamePackage
      (Rehearsal.nightly "20260801053001.7.1" 5) :=
  packageVersion_injective (Rehearsal.nightly_valid (by decide +kernel))
    (Rehearsal.nightly_valid (by decide +kernel)) (Rehearsal.nightly_own _ _)
    (Rehearsal.nightly_own _ _)
    (show packageVersion _ "pep440" = .ok "1.2.3.dev7000001" by decide +kernel) (by decide +kernel)

/-- **Nightly package versions are ordered by run and then by attempt**, and
their number fits the unsigned 64-bit component a resolver keeps. -/
theorem nightlyPackage_ordered {plan plan' : Plan} (valid : plan.Valid) (valid' : plan'.Valid)
    (nightly : plan.channel = "nightly") (nightly' : plan'.channel = "nightly")
    {text text' : String} (made : packageVersion plan "pep440" = .ok text)
    (made' : packageVersion plan' "pep440" = .ok text') :
    ∃ n n' run run' attempt attempt',
      text = plan.base_version ++ ".dev" ++ toString n ∧
      text' = plan'.base_version ++ ".dev" ++ toString n' ∧ n < 2 ^ 64 ∧ n' < 2 ^ 64 ∧
      plan.sequence.runAttempt = some (run, attempt) ∧
      plan'.sequence.runAttempt = some (run', attempt') ∧
      (n < n' ↔ Text.digitsValue run.toList < Text.digitsValue run'.toList ∨
        run = run' ∧ Text.digitsValue attempt.toList < Text.digitsValue attempt'.toList) := by
  have spelled : ∀ {p : Plan} {t : String}, p.Valid → p.channel = "nightly" →
      packageVersion p "pep440" = .ok t → ∃ n run attempt,
        t = p.base_version ++ ".dev" ++ toString n ∧ isPositive run = true ∧
        p.sequence.runAttempt = some (run, attempt) ∧
        n = Text.digitsValue run.toList * 1000000 + Text.digitsValue attempt.toList ∧
        Text.digitsValue attempt.toList < 1000000 ∧ n < 2 ^ 64 := by
    intro p t valid nightly made
    have own : ¬ p.Copied := by
      rintro ⟨other, -⟩
      rw [nightly] at other
      exact absurd other (by decide)
    have dev : ".dev".toList = ['.', 'd', 'e', 'v'] := by decide
    rcases packageVersion_shape valid own made with ⟨other, -⟩ | ⟨stem, letter, tail, whole, marked⟩
    · rw [nightly] at other
      exact absurd other (by decide)
    · cases marked with
      | beta other _ _ => rw [nightly] at other; exact absurd other (by decide)
      | rc other _ _ => rw [nightly] at other; exact absurd other (by decide)
      | nightly _ _ fields positive _ number small bound =>
          refine ⟨_, _, _, Text.toList_injective ?_, positive, fields, number, small, by omega⟩
          rw [whole, String.toList_append, String.toList_append, dev]
          simp only [List.append_assoc, List.cons_append, List.nil_append]
  obtain ⟨n, run, attempt, text, positive, fields, number, small, bound⟩ :=
    spelled valid nightly made
  obtain ⟨n', run', attempt', text', positive', fields', number', small', bound'⟩ :=
    spelled valid' nightly' made'
  refine ⟨n, n', run, run', attempt, attempt', text, text', bound, bound', fields, fields', ?_⟩
  constructor
  · intro less
    rcases Nat.lt_trichotomy (Text.digitsValue run.toList) (Text.digitsValue run'.toList) with
      before | same | after
    · exact .inl before
    · exact .inr ⟨isPositive_injective positive positive' same, by omega⟩
    · omega
  · rintro (before | ⟨rfl, before⟩)
    · omega
    · omega

theorem nightlyPackage_ordered_runs : ∃ n n' : Nat,
    "1.2.3.dev7000002" = "1.2.3" ++ ".dev" ++ toString n ∧
      "1.2.3.dev8000001" = "1.2.3" ++ ".dev" ++ toString n' ∧ n < n' := by
  have made : packageVersion (Rehearsal.nightly "20260801053000.7.2" 4) "pep440" =
      .ok "1.2.3.dev7000002" := by decide +kernel
  have made' : packageVersion (Rehearsal.nightly "20260801052959.8.1" 5) "pep440" =
      .ok "1.2.3.dev8000001" := by decide +kernel
  have fields : (Rehearsal.nightly "20260801053000.7.2" 4).sequence.runAttempt =
      some ("7", "2") := by decide +kernel
  have fields' : (Rehearsal.nightly "20260801052959.8.1" 5).sequence.runAttempt =
      some ("8", "1") := by decide +kernel
  obtain ⟨n, n', run, run', attempt, attempt', text, text', -, -, split, split', order⟩ :=
    nightlyPackage_ordered (Rehearsal.nightly_valid (by decide +kernel))
      (Rehearsal.nightly_valid (by decide +kernel)) rfl rfl made made'
  cases fields.symm.trans split
  cases fields'.symm.trans split'
  exact ⟨n, n', text, text', order.2 (.inl (by decide +kernel))⟩

/-! ## Apple build versions -/

/-- Three components of at most four, two and two digits. -/
def AppleLimits (parts : Nat × Nat × Nat) : Prop :=
  1 ≤ parts.1 ∧ parts.1 ≤ 9999 ∧ parts.2.1 ≤ 99 ∧ parts.2.2 ≤ 99

/-- One version is older than another, component by component. -/
def AppleBefore (parts later : Nat × Nat × Nat) : Prop :=
  parts.1 < later.1 ∨
    parts.1 = later.1 ∧ (parts.2.1 < later.2.1 ∨ parts.2.1 = later.2.1 ∧ parts.2.2 < later.2.2)

theorem appleText_injective {parts parts' : Nat × Nat × Nat}
    (same : appleText parts = appleText parts') : parts = parts' := by
  have dot : ".".toList = ['.'] := by decide
  have plain : ∀ n : Nat, '.' ∉ (toString n).toList := fun n =>
    (Text.digits_toString n).ne (by decide)
  have lists := congrArg String.toList same
  simp only [appleText, String.toList_append, dot, List.append_assoc, List.singleton_append] at lists
  obtain ⟨first, rest⟩ := (Text.append_sep_inj (plain _) (plain _)).1 lists
  obtain ⟨second, third⟩ := (Text.append_sep_inj (plain _) (plain _)).1 rest
  refine Prod.ext (Text.toString_injective (Text.toList_injective first)) (Prod.ext ?_ ?_)
  · exact Text.toString_injective (Text.toList_injective second)
  · exact Text.toString_injective (Text.toList_injective third)

theorem appleBuild_some {n : Int} (positive : 0 < n) (bound : n ≤ 99990000) :
    ∃ k : Nat, (k : Int) + 1 = n ∧ k < 99990000 ∧
      appleBuild (some n) = some (appleText (appleParts k)) := by
  refine ⟨n.toNat - 1, by omega, by omega, ?_⟩
  rw [appleBuild, if_pos ⟨positive, bound⟩]

/-- **Apple build versions order builds as their numbers do**: of two build
numbers the smaller has the older version, both keep the limits, and no two
builds share a text. -/
theorem appleBuild_ordered {m n : Int} (positive : 0 < m) (less : m < n) (bound : n ≤ 99990000) :
    ∃ parts later, appleBuild (some m) = some (appleText parts) ∧
      appleBuild (some n) = some (appleText later) ∧ AppleLimits parts ∧ AppleLimits later ∧
      AppleBefore parts later ∧ appleText parts ≠ appleText later := by
  obtain ⟨j, before, small, one⟩ := appleBuild_some positive (by omega)
  obtain ⟨k, after, small', two⟩ := appleBuild_some (n := n) (by omega) bound
  have order : j < k := by omega
  have older : AppleBefore (appleParts j) (appleParts k) := by
    unfold AppleBefore appleParts
    dsimp only
    omega
  refine ⟨_, _, one, two, ?_, ?_, older, ?_⟩
  · unfold AppleLimits appleParts
    dsimp only
    omega
  · unfold AppleLimits appleParts
    dsimp only
    omega
  · intro same
    rw [appleText_injective same] at older
    unfold AppleBefore at older
    omega

theorem appleBuild_ordered_carry : ∃ parts later, appleBuild (some 10000) = some (appleText parts) ∧
    appleBuild (some 10001) = some (appleText later) ∧ AppleBefore parts later := by
  obtain ⟨parts, later, one, two, -, -, older, -⟩ :=
    appleBuild_ordered (m := 10000) (n := 10001) (by decide) (by decide) (by decide)
  exact ⟨parts, later, one, two, older⟩

example : appleBuild (some 1234567) = some "124.45.66" := by decide +kernel

end InverterGateway.Release

/-
# Release.Clients — what each run keeps of the ledger

Runs reserve plans and consume build numbers in any interleaving of their calls,
with failed calls and lost replies, while others change the tags and releases.
A write replaces the ledger that the same run read, or does nothing
(`write_meets`), so each call of a run takes the file from one sound ledger to a
later one.  `reserve_meets` and `begin_meets` say what a run has in the file
when the function returns, and that the others cannot take it away.
-/
import InverterGateway.Release.Ledger
import InverterGateway.Release.Publish

namespace InverterGateway.Release

set_option autoImplicit false

open InverterGateway.Theory

/-! ## The file that the runs share -/

section Shared

variable {ι : Type} {platform : Platform}

/-- The file holds a sound ledger, and the raises of its floor are in order. -/
structure GitHub.Sound (platform : Platform) (w : GitHub ι) : Prop where
  reads : ∀ raw, w.file = some raw → ∃ s, platform.parse raw = .ok s
  ledger : (platform.ledger w.file).Sound
  ordered : w.raises.Pairwise fun a b => a.2 < b.2
  below : ∀ e ∈ w.raises, e.2 ≤ (platform.ledger w.file).publication_floor

/-- What the file and the raises become. -/
structure GitHub.Extends (platform : Platform) (v w : GitHub ι) : Prop where
  ledger : (platform.ledger v.file).Le (platform.ledger w.file)
  raises : v.raises <+: w.raises

/-- From a sound state the step leads to a sound state that extends it. -/
def GitHub.Grows (platform : Platform) (v w : GitHub ι) : Prop :=
  v.Sound platform → w.Sound platform ∧ v.Extends platform w

namespace GitHub

theorem Extends.refl (w : GitHub ι) : w.Extends platform w := ⟨.refl _, List.prefix_refl _⟩

theorem Extends.trans {u v w : GitHub ι} (one : u.Extends platform v)
    (two : v.Extends platform w) : u.Extends platform w :=
  ⟨one.ledger.trans two.ledger, one.raises.trans two.raises⟩

theorem Grows.refl (w : GitHub ι) : w.Grows platform w := fun sound => ⟨sound, .refl w⟩

theorem Grows.trans {u v w : GitHub ι} (one : u.Grows platform v) (two : v.Grows platform w) :
    u.Grows platform w := fun sound =>
  ⟨(two (one sound).1).1, (one sound).2.trans (two (one sound).1).2⟩

theorem grows_of_same {v w : GitHub ι} (file : w.file = v.file) (raises : w.raises = v.raises) :
    v.Grows platform w := by
  rintro ⟨reads, ledger, ordered, below⟩
  refine ⟨⟨?_, ?_, ?_, ?_⟩, ?_, ?_⟩
  · rw [file]; exact reads
  · rw [file]; exact ledger
  · rw [raises]; exact ordered
  · rw [file, raises]; exact below
  · rw [file]; exact .refl _
  · rw [raises]

end GitHub

/-- A request that does not write the file. -/
def Quiet (q : Request) : Prop := ∀ content sha, q ≠ .putContents content sha

theorem reads_quiet (q : Request) (reads : Reads q) : Quiet q := by
  rintro content sha rfl
  exact reads

theorem quiet_effect {i : ι} {v w : GitHub ι} {q : Request} {a : Answer q} (quiet : Quiet q)
    (effect : GitHub.Effect platform i v q a w) : w.file = v.file ∧ w.raises = v.raises := by
  cases q with
  | putContents content sha => exact absurd rfl (quiet content sha)
  | createBranch sha => obtain ⟨-, rfl⟩ := effect; exact ⟨rfl, rfl⟩
  | createTag tag sha => obtain ⟨-, rfl⟩ := effect; exact ⟨rfl, rfl⟩
  | createRelease payload => obtain ⟨-, rfl⟩ := effect; exact ⟨rfl, rfl⟩
  | upload id name content => obtain ⟨-, -, -, rfl⟩ := effect; exact ⟨rfl, rfl⟩
  | publishRelease id prerelease => obtain ⟨-, rfl⟩ := effect; exact ⟨rfl, rfl⟩
  | contents => obtain ⟨rfl, -⟩ := effect; exact ⟨rfl, rfl⟩
  | branchRef => obtain ⟨rfl, -⟩ := effect; exact ⟨rfl, rfl⟩
  | tags => obtain ⟨rfl, -⟩ := effect; exact ⟨rfl, rfl⟩
  | releases => obtain ⟨rfl, -⟩ := effect; exact ⟨rfl, rfl⟩
  | tagRef tag => obtain ⟨rfl, -⟩ := effect; exact ⟨rfl, rfl⟩
  | releaseByTag tag => obtain ⟨rfl, -⟩ := effect; exact ⟨rfl, rfl⟩
  | release id => obtain ⟨rfl, -⟩ := effect; exact ⟨rfl, rfl⟩
  | assets id => obtain ⟨rfl, -⟩ := effect; exact ⟨rfl, rfl⟩
  | downloadAsset id => obtain ⟨rfl, -⟩ := effect; exact ⟨rfl, rfl⟩

theorem quiet_serve {i : ι} {v w : GitHub ι} {q : Request} {r : Reply q} (quiet : Quiet q)
    (served : GitHub.Serve platform i v q r w) : w.file = v.file ∧ w.raises = v.raises := by
  rcases served with ⟨a, -, effect⟩ | ⟨e, -, rfl | ⟨a, effect⟩⟩
  · exact quiet_effect quiet effect
  · exact ⟨rfl, rfl⟩
  · exact quiet_effect quiet effect

/-- What the ledger holds a client to: its steps grow the file, and a floor that
it raises goes to a number it may raise it to. -/
def ledgerTerms (platform : Platform) (raisable : ι → Int → Prop) (i : ι) :
    Terms Request Reply (GitHub ι) where
  serve := GitHub.Serve platform i
  rely := GitHub.Grows platform
  keep v w := v.Grows platform w ∧ ∀ e ∈ w.raises, e ∈ v.raises ∨ e.1 = i ∧ raisable i e.2
  refl := GitHub.Grows.refl
  trans := GitHub.Grows.trans

variable {raisable : ι → Int → Prop} {i : ι}

theorem quiet_keeps {v w : GitHub ι} {q : Request} {r : Reply q} (quiet : Quiet q)
    (served : (ledgerTerms platform raisable i).serve v q r w) :
    (ledgerTerms platform raisable i).keep v w ∧ (ledgerTerms platform raisable i).rely v w := by
  obtain ⟨file, raises⟩ := quiet_serve quiet served
  exact ⟨⟨GitHub.grows_of_same file raises, fun e found => .inl (raises ▸ found)⟩,
    GitHub.grows_of_same file raises⟩

/-- A stretch of quiet calls from a sound state. -/
theorem quiet_meets {α : Type} {d : Api α} {P : α → Prop} {w : GitHub ι} (only : d.Only Quiet P)
    (sound : w.Sound platform) :
    d.Meets (ledgerTerms platform raisable i)
      (fun a v => P a ∧ v.Sound platform ∧ w.Extends platform v) w :=
  (only.meets fun _ _ _ _ quiet served => quiet_keeps quiet served).mono
    fun _ _ ⟨answered, grown⟩ => ⟨answered, (grown sound).1, (grown sound).2⟩

theorem quiet_then {α β : Type} {d : Api α} {f : α → Api β} {P : α → Prop}
    {final : β → GitHub ι → Prop} {w : GitHub ι} (only : d.Only Quiet P)
    (sound : w.Sound platform)
    (rest : ∀ a v, P a → v.Sound platform → w.Extends platform v →
      (f a).Meets (ledgerTerms platform raisable i) final v) :
    (d >>= f).Meets (ledgerTerms platform raisable i) final w :=
  (quiet_meets only sound).andThen fun a v ⟨answered, sound', extended⟩ =>
    rest a v answered sound' extended

/-! ## Reading and writing -/

/-- The ledger of a read and the hash that a later write names. -/
def Known (platform : Platform) (s : Ledger) (previous : Option String) : Prop :=
  previous = none ∧ s = .empty ∨
    ∃ raw, previous = some (platform.blobSha raw) ∧ platform.parse raw = .ok s

theorem ledger_of_parse {raw : Bytes} {s : Ledger} (parsed : platform.parse raw = .ok s) :
    platform.ledger (some raw) = s := by
  rw [Platform.ledger, parsed]
  rfl

/-- The hash names the ledger that was read. -/
theorem Known.ledger {s : Ledger} {previous : Option String} (known : Known platform s previous)
    {file : Option Bytes} (same : file.map platform.blobSha = previous) :
    platform.ledger file = s := by
  rcases known with ⟨rfl, rfl⟩ | ⟨raw, rfl, parsed⟩
  · rw [Option.map_eq_none_iff] at same
    rw [same]
    rfl
  · obtain ⟨raw', rfl, hashes⟩ := Option.map_eq_some_iff.1 same
    rw [platform.blobSha_injective hashes]
    exact ledger_of_parse parsed

/-- The state after a write that was accepted. -/
theorem put_sound {s new : Ledger} {previous : Option String} (known : Known platform s previous)
    {v : GitHub ι} (current : v.file.map platform.blobSha = previous)
    (change : s.Sound → new.Sound ∧ s.Le new) (sound : v.Sound platform) :
    (v.put platform i (platform.encode new)).Sound platform ∧
      v.Extends platform (v.put platform i (platform.encode new)) ∧
      new.Le (platform.ledger (v.put platform i (platform.encode new)).file) ∧
      (v.put platform i (platform.encode new)).raises =
        if s.publication_floor < new.publication_floor
        then v.raises ++ [(i, new.publication_floor)] else v.raises := by
  have old : platform.ledger v.file = s := known.ledger current
  obtain ⟨sound', le⟩ := change (old ▸ sound.ledger)
  obtain ⟨t, parsed, same⟩ := platform.parse_encode new sound'.keys
  have written : platform.ledger (some (platform.encode new)) = t := ledger_of_parse parsed
  have raises : (v.put platform i (platform.encode new)).raises =
      if s.publication_floor < new.publication_floor
      then v.raises ++ [(i, new.publication_floor)] else v.raises := by
    rw [GitHub.put, old, written, same.floor]
  have file : (v.put platform i (platform.encode new)).file = some (platform.encode new) := rfl
  refine ⟨⟨?_, ?_, ?_, ?_⟩, ⟨?_, ?_⟩, ?_, raises⟩
  · intro raw here
    rw [file, Option.some.injEq] at here
    exact ⟨t, here ▸ parsed⟩
  · rw [file, written]
    exact sound'.same same
  · rw [raises]
    split
    · rename_i raised
      rw [List.pairwise_append]
      refine ⟨sound.ordered, List.pairwise_singleton _ _, ?_⟩
      intro e found last final
      have bound := sound.below e found
      rw [old] at bound
      rw [List.mem_singleton.1 final]
      exact lt_of_le_of_lt bound raised
    · exact sound.ordered
  · rw [raises, file, written, same.floor]
    intro e found
    have grown := le.floor
    have kept : ∀ e ∈ v.raises, e.2 ≤ new.publication_floor := fun e found => by
      have bound := sound.below e found
      rw [old] at bound
      exact bound.trans grown
    split at found
    · rcases List.mem_append.1 found with here | last
      · exact kept e here
      · rw [List.mem_singleton.1 last]
    · exact kept e found
  · rw [file, written, old]
    exact le.trans same.le
  · rw [raises]
    split
    · exact List.prefix_append _ _
    · exact List.prefix_refl _
  · rw [file, written]
    exact same.le

/-- **A write replaces the ledger that was read, or does nothing.** -/
theorem write_meets {s new : Ledger} {previous : Option String} (known : Known platform s previous)
    (change : s.Sound → new.Sound ∧ s.Le new)
    (raise : s.publication_floor < new.publication_floor → raisable i new.publication_floor)
    {w : GitHub ι} (sound : w.Sound platform) :
    (write_state platform new previous).Meets (ledgerTerms platform raisable i)
      (fun _ v => v.Sound platform ∧ (platform.ledger w.file).Le s ∧
        new.Le (platform.ledger v.file) ∧
        (s.publication_floor < new.publication_floor → (i, new.publication_floor) ∈ v.raises)) w := by
  intro v others r v' served
  obtain ⟨sound', extends'⟩ := others sound
  have after : ∀ {x}, GitHub.Effect platform i v (.putContents (platform.encode new) previous) x v' →
      (ledgerTerms platform raisable i).keep v v' ∧ v'.Sound platform ∧
        (platform.ledger w.file).Le s ∧ new.Le (platform.ledger v'.file) ∧
        (s.publication_floor < new.publication_floor → (i, new.publication_floor) ∈ v'.raises) := by
    rintro - ⟨-, current, rfl⟩
    have written := fun given => put_sound (i := i) known current change (v := v) given
    obtain ⟨new_sound, -, grown, raises⟩ := written sound'
    refine ⟨⟨fun given => ⟨(written given).1, (written given).2.1⟩, ?_⟩, new_sound,
      known.ledger current ▸ extends'.ledger, grown, ?_⟩
    · intro e found
      rw [raises] at found
      split at found
      · rename_i raised
        rcases List.mem_append.1 found with here | last
        · exact .inl here
        · rw [List.mem_singleton.1 last]
          exact .inr ⟨rfl, raise raised⟩
      · exact .inl found
    · intro raised
      rw [raises, if_pos raised]
      exact List.mem_append_right _ (List.mem_singleton_self _)
  rcases served with ⟨a, rfl, effect⟩ | ⟨e, rfl, rfl | ⟨a, effect⟩⟩
  · obtain ⟨kept, new_sound, since, grown, raised⟩ := after effect
    refine ⟨kept, fun x further => ?_⟩
    obtain ⟨sound_x, extends_x⟩ := further new_sound
    exact ⟨sound_x, since, grown.trans extends_x.ledger,
      fun rise => extends_x.raises.subset (raised rise)⟩
  · exact ⟨⟨.refl _, fun e found => .inl found⟩, trivial⟩
  · exact ⟨(after effect).1, trivial⟩

/-- What a run knows after `read_state`. -/
structure ReadBack (platform : Platform) (w : GitHub ι) (a : Ledger × Option String)
    (v : GitHub ι) : Prop where
  sound : v.Sound platform
  extended : w.Extends platform v
  known : Known platform a.1 a.2
  le : a.1.Le (platform.ledger v.file)
  accepted : checkLedger a.1 = .ok ()

theorem ReadBack.later {w v x : GitHub ι} {a : Ledger × Option String}
    (read : ReadBack platform w a v) (sound : x.Sound platform) (extended : v.Extends platform x) :
    ReadBack platform w a x :=
  ⟨sound, read.extended.trans extended, read.known, read.le.trans extended.ledger, read.accepted⟩

theorem empty_le {v : GitHub ι} (sound : v.Sound platform) :
    Ledger.empty.Le (platform.ledger v.file) :=
  ⟨sound.ledger.floor.trans sound.ledger.counter, sound.ledger.floor, fun _ found => by cases found⟩

theorem read_meets {w : GitHub ι} (sound : w.Sound platform) :
    (read_state platform).Meets (ledgerTerms platform raisable i)
      (fun a v => ReadBack platform w a v) w := by
  refine Dialogue.Meets.andThen (P := fun (content : Option File) v =>
    v.Sound platform ∧ w.Extends platform v ∧ ∀ file, content = some file →
      file.sha = platform.blobSha file.raw ∧
        ∀ s, platform.parse file.raw = .ok s → s.Le (platform.ledger v.file)) ?_ ?_
  · intro v others r v' served
    obtain ⟨file, raises⟩ := quiet_serve (fun _ _ other => by cases other) served
    have grown : v.Grows platform v' := GitHub.grows_of_same file raises
    have kept : (ledgerTerms platform raisable i).keep v v' :=
      ⟨grown, fun e found => .inl (raises ▸ found)⟩
    have since : w.Grows platform v' := others.trans grown
    rcases served with ⟨a, rfl, rfl, raw, here, rfl⟩ | ⟨e, rfl, -⟩
    · refine ⟨kept, fun x further => ⟨((since.trans further) sound).1,
        ((since.trans further) sound).2, ?_⟩⟩
      rintro file' ⟨⟩
      refine ⟨rfl, fun s parsed => ?_⟩
      have current : platform.ledger v'.file = s := by rw [here]; exact ledger_of_parse parsed
      exact current ▸ (further (since sound).1).2.ledger
    · refine ⟨kept, ?_⟩
      cases e with
      | missing =>
          exact fun x further => ⟨((since.trans further) sound).1, ((since.trans further) sound).2,
            fun file other => by cases other⟩
      | ambiguous => exact trivial
      | other => exact trivial
  · rintro content v ⟨sound', extended, known⟩
    cases content with
    | none =>
        refine quiet_then (Api.optional_only fun _ _ other => by cases other) sound' ?_
        intro ref x _ sound_x extended_x
        refine quiet_then (Api.require_only _ _) sound_x ?_
        intro _ y _ sound_y extended_y z further
        obtain ⟨sound_z, extended_z⟩ := further sound_y
        exact ⟨sound_z, ((extended.trans extended_x).trans extended_y).trans extended_z,
          .inl ⟨rfl, rfl⟩, empty_le sound_z, rfl⟩
    | some file =>
        obtain ⟨hash, le⟩ := known file rfl
        refine quiet_then (Api.require_only _ _) sound' ?_
        intro _ v₁ _ sound₁ extended₁
        refine quiet_then (Api.require_only _ _) sound₁ ?_
        intro _ v₂ _ sound₂ extended₂
        refine quiet_then (Dialogue.Only.ofExcept fun _ same => same) sound₂ ?_
        intro state v₃ parsed sound₃ extended₃
        refine quiet_then (Dialogue.Only.ofExcept fun _ same => same) sound₃ ?_
        intro _ v₄ accepted sound₄ extended₄
        refine quiet_then (Api.require_only _ _) sound₄ ?_
        intro _ v₅ _ sound₅ extended₅ z further
        obtain ⟨sound_z, extended_z⟩ := further sound₅
        have later := (((extended₁.trans extended₂).trans extended₃).trans
          (extended₄.trans extended₅)).trans extended_z
        exact ⟨sound_z, extended.trans later, .inr ⟨file.raw, by rw [hash], parsed⟩,
          (le state parsed).trans later.ledger, accepted⟩

/-! ## Reserving -/

theorem ensure_absent_only (tag : String) : (ensure_absent tag).Only Reads fun _ => True := by
  unfold ensure_absent
  refine (Api.optional_only trivial).bind fun _ _ => (Api.require_only _ _).bind fun _ _ => ?_
  refine (Api.optional_only trivial).bind fun _ _ => (Api.require_only _ _).bind fun _ _ => ?_
  exact (Api.api_only trivial).bind fun _ _ => (Api.require_only _ _).mono fun _ _ => trivial

/-- What a plan that was reserved for a request is, and where it stands. -/
structure Reserved (platform : Platform) (digest : PolicyDigest) (request : Reserve) (plan : Plan)
    (v : GitHub ι) : Prop where
  sound : v.Sound platform
  run : 0 < request.run_id
  entry : ∃ record, (toString request.run_id, record) ∈ (platform.ledger v.file).plans ∧
    record.plan = plan ∧ record.parent.join = request.parent
  base : plan.base_version = request.base
  channel : plan.channel = request.channel
  source : plan.source_sha = request.source_sha
  policy : plan.policy_sha256 = digest.of request.policy

theorem Reserved.later {digest : PolicyDigest} {request : Reserve} {plan : Plan} {v x : GitHub ι}
    (reserved : Reserved platform digest request plan v) (others : v.Grows platform x) :
    Reserved platform digest request plan x := by
  obtain ⟨sound, run, ⟨record, found, rest⟩, base, channel, source, policy⟩ := reserved
  obtain ⟨sound', extended⟩ := others sound
  exact ⟨sound', run, ⟨record, extended.ledger.plans _ found, rest⟩, base, channel, source, policy⟩

/-- A reservation that the run finds in the ledger. -/
theorem found_meets {digest : PolicyDigest} {request : Reserve} (run : 0 < request.run_id)
    {w v : GitHub ι} {a : Ledger × Option String} (read : ReadBack platform w a v)
    {record : Reservation}
    (found : a.1.plans.lookup (toString request.run_id) = some record) :
    (do
      Dialogue.ofExcept
        (validate_bound_plan digest record.plan request.policy request.source_sha)
      Api.require
        (record.plan.base_version = request.base && record.plan.channel = request.channel)
        "Run already reserved a different release identity"
      Api.require (record.parent.join = request.parent) "Run already reserved a different RC"
      return record.plan : Api Plan).Meets (ledgerTerms platform raisable i)
        (Reserved platform digest request) v := by
  refine quiet_then (Dialogue.Only.ofExcept fun _ same => same) read.sound ?_
  intro _ v₁ bound sound₁ extended₁
  refine quiet_then (Api.require_only _ _) sound₁ ?_
  intro _ v₂ named sound₂ extended₂
  refine quiet_then (Api.require_only _ _) sound₂ ?_
  intro _ v₃ parent sound₃ extended₃ x further
  rw [Bool.and_eq_true, decide_eq_true_eq, decide_eq_true_eq] at named
  obtain ⟨-, -, policy, -, -, -, source⟩ := validate_bound_plan_ok.1 bound
  have read₃ := ((read.later sound₁ extended₁).later sound₂ extended₂).later sound₃ extended₃
  exact Reserved.later ⟨sound₃, run, ⟨record, read₃.le.plans _ (Ledger.mem_of_lookup found), rfl,
    of_decide_eq_true parent⟩, named.1, named.2, source, policy⟩ further

/-- **`reserve_plan` grows the ledger only, and returns a plan that it holds.** -/
theorem reserve_meets (digest : PolicyDigest) (request : Reserve) {w : GitHub ι}
    (sound : w.Sound platform) :
    (reserve_plan platform digest request).Meets (ledgerTerms platform raisable i)
      (Reserved platform digest request) w := by
  unfold reserve_plan
  refine quiet_then (Dialogue.Only.ofExcept fun _ same => same) sound ?_
  intro key v₀ keyed sound₀ _
  refine (read_meets sound₀).andThen ?_
  rintro ⟨state, previous⟩ v₁ read
  obtain ⟨run, rfl, -⟩ := positiveKey_ok keyed
  dsimp only
  split
  · rename_i record found
    exact found_meets run read found
  · rename_i absent
    refine quiet_then ((newSequence_only state request).asks reads_quiet) read.sound ?_
    intro sequence v₂ sequenced sound₂ extended₂
    refine quiet_then (Api.require_only _ _) sound₂ ?_
    intro _ v₃ _ sound₃ extended₃
    refine quiet_then (Dialogue.Only.ofExcept fun _ same => same) sound₃ ?_
    intro plan v₄ made sound₄ extended₄
    have admits := admits_created sequenced keyed absent made
    refine quiet_then ((ensure_absent_only _).asks reads_quiet) sound₄ ?_
    intro _ v₅ _ sound₅ extended₅
    refine quiet_then (Api.optional_only fun _ _ other => by cases other) sound₅ ?_
    intro ref v₆ _ sound₆ extended₆
    have tail : ∀ v : GitHub ι, v.Sound platform →
        (do
          write_state platform (state.reserve (max state.counter request.policy.floor + 1)
            (toString request.run_id) plan request.parent) previous
          return plan : Api Plan).Meets (ledgerTerms platform raisable i)
            (Reserved platform digest request) v := by
      intro v sound_v
      refine (write_meets read.known (fun sound => ⟨sound.reserve admits _,
        Ledger.reserve_le state admits.above _ _ _⟩) (fun raised => absurd raised (lt_irrefl _))
        sound_v).andThen ?_
      rintro - x ⟨sound_x, -, grown, -⟩ y further
      obtain ⟨-, -, -, -, -, -, shape⟩ := create_plan_ok.1 made
      refine Reserved.later
        ⟨sound_x, run, ⟨⟨plan, some request.parent, []⟩, grown.plans _ ?_, rfl, rfl⟩,
        by rw [shape], by rw [shape], by rw [shape], by rw [shape]⟩ further
      exact List.mem_append_right _ (List.mem_singleton_self _)
    split
    · refine quiet_then (Api.api_only fun _ _ other => by cases other) sound₆ ?_
      intro _ v₇ _ sound₇ _
      exact tail v₇ sound₇
    · exact tail v₆ sound₆

/-! ## Consuming -/

/-- What both orders of publication have checked of a plan. -/
structure Ordered (state : Ledger) (plan : Plan) (n : Int) (promotion : Bool) : Prop where
  entry : ∃ entry ∈ state.plans, entry.2.plan = plan
  build : plan.build_number = some n
  floor : state.publication_floor ≤ n
  above : promotion = false → state.publication_floor < n

theorem verify_reservation_only (state : Ledger) (plan : Plan) (run_id : Int)
    (parent : Option Parent) :
    (verify_reservation_in state plan run_id parent).Only Reads
      fun _ => ∃ n, Ordered state plan n false := by
  unfold verify_reservation_in
  refine (Dialogue.Only.ofExcept (P := fun _ => True) fun _ _ => trivial).bind fun _ _ => ?_
  refine (Dialogue.Only.ofExcept (P := fun _ => True) fun _ _ => trivial).bind fun key _ => ?_
  refine (Api.require_only _ _).bind fun _ held => ?_
  refine (Dialogue.Only.ofExcept fun _ same => same).bind fun n number => ?_
  refine (Api.require_only _ _).bind fun _ above => ?_
  refine (Api.api_only trivial).bind fun _ _ => (Api.require_only _ _).mono fun _ _ => ?_
  have below := of_decide_eq_true above
  exact ⟨n, ⟨_, Ledger.mem_of_lookup (of_decide_eq_true held), rfl⟩, Ledger.number_ok.1 number,
    below.le, fun _ => below⟩

theorem verify_promotion_only (state : Ledger) (plan : Plan) :
    (verify_promotion_order_in state plan).Only Reads fun _ => ∃ n, Ordered state plan n true := by
  unfold verify_promotion_order_in
  refine (Dialogue.Only.ofExcept (P := fun _ => True) fun _ _ => trivial).bind fun _ _ => ?_
  refine (Api.require_only _ _).bind fun _ _ => (Api.require_only _ _).bind fun _ unique => ?_
  refine (Dialogue.Only.ofExcept fun _ same => same).bind fun n number => ?_
  refine (Api.require_only _ _).bind fun _ floor => (Api.api_only trivial).bind fun _ _ => ?_
  refine (Api.require_only _ _).bind fun _ _ => (Api.require_only _ _).mono fun _ _ => ?_
  obtain ⟨entry, single⟩ := List.length_eq_one_iff.1 (of_decide_eq_true unique)
  have here : entry ∈ state.plans.filter fun entry => entry.2.plan = plan :=
    single ▸ List.mem_singleton_self entry
  obtain ⟨listed, same⟩ := List.mem_filter.1 here
  exact ⟨n, ⟨entry, listed, of_decide_eq_true same⟩, Ledger.number_ok.1 number,
    of_decide_eq_true floor, fun other => by cases other⟩

/-- What a publication that began has done. -/
structure Consumed (platform : Platform) (i : ι) (plan : Plan) (promotion : Bool) (v : GitHub ι) :
    Prop where
  sound : v.Sound platform
  entry : ∃ entry ∈ (platform.ledger v.file).plans, entry.2.plan = plan
  number : ∃ n, plan.build_number = some n ∧
    n ≤ (platform.ledger v.file).publication_floor ∧ (promotion = false → (i, n) ∈ v.raises)

/-- The number of a plan is above the floor of an earlier state; that of a
promotion is not below it. -/
def Above (platform : Platform) (w : GitHub ι) (plan : Plan) (promotion : Bool) : Prop :=
  ∀ n, plan.build_number = some n → (platform.ledger w.file).publication_floor ≤ n ∧
    (promotion = false → (platform.ledger w.file).publication_floor < n)

theorem Above.earlier {u w : GitHub ι} {plan : Plan} {promotion : Bool}
    (above : Above platform w plan promotion) (extended : u.Extends platform w) :
    Above platform u plan promotion := fun n build =>
  ⟨extended.ledger.floor.trans (above n build).1,
    fun publish => lt_of_le_of_lt extended.ledger.floor ((above n build).2 publish)⟩

theorem Consumed.later {plan : Plan} {promotion : Bool} {v x : GitHub ι}
    (consumed : Consumed platform i plan promotion v) (others : v.Grows platform x) :
    Consumed platform i plan promotion x := by
  obtain ⟨sound, ⟨entry, found, same⟩, n, build, floor, raised⟩ := consumed
  obtain ⟨sound', extended⟩ := others sound
  exact ⟨sound', ⟨entry, extended.ledger.plans _ found, same⟩, n, build,
    floor.trans extended.ledger.floor, fun publish => extended.raises.subset (raised publish)⟩

/-- **`begin_publication` raises the floor to the plan's number**: above every
floor since it was called, but for a promotion, which may leave it where it is. -/
theorem begin_meets {plan : Plan} {run_id : Int} {parent : Option Parent} {promotion : Bool}
    (raise : ∀ n, plan.build_number = some n → raisable i n) {w : GitHub ι}
    (sound : w.Sound platform) :
    (begin_publication platform plan run_id parent promotion).Meets
      (ledgerTerms platform raisable i)
      (fun _ v => Consumed platform i plan promotion v ∧ Above platform w plan promotion) w := by
  unfold begin_publication
  refine quiet_then (Dialogue.Only.ofExcept (P := fun _ => True) fun _ _ => trivial) sound ?_
  intro _ v₀ _ sound₀ extended₀
  refine (read_meets sound₀).andThen ?_
  rintro ⟨state, previous⟩ v₁ read
  dsimp only
  have tail : ∀ n (v : GitHub ι), Ordered state plan n promotion → v.Sound platform →
      w.Extends platform v →
      (do
        let number ← Dialogue.ofExcept plan.number
        write_state platform { state with publication_floor := number } previous
        return platform.encode { state with publication_floor := number } : Api Bytes).Meets
          (ledgerTerms platform raisable i)
          (fun _ v => Consumed platform i plan promotion v ∧ Above platform w plan promotion) v := by
    intro n v ordered sound_v extended_v
    refine quiet_then (Dialogue.Only.ofExcept fun _ same => same) sound_v ?_
    intro number v₃ numbered sound₃ extended₃
    obtain rfl : number = n :=
      Option.some.inj ((Ledger.number_ok.1 numbered).symm.trans ordered.build)
    obtain ⟨entry, listed, same⟩ := ordered.entry
    refine (write_meets read.known (fun sound => sound.consume listed (same ▸ ordered.build)
      ordered.floor) (fun _ => raise number ordered.build) sound₃).andThen ?_
    rintro - x ⟨sound_x, since, grown, raised⟩ y further
    refine ⟨Consumed.later ⟨sound_x, ⟨entry, grown.plans _ listed, same⟩, number, ordered.build,
      grown.floor, fun publish => raised (ordered.above publish)⟩ further, ?_⟩
    intro m build
    obtain rfl : m = number := Option.some.inj (build.symm.trans ordered.build)
    have before := ((extended_v.trans extended₃).ledger.trans since).floor
    exact ⟨before.trans ordered.floor, fun publish => lt_of_le_of_lt before (ordered.above publish)⟩
  have extended₁ := extended₀.trans read.extended
  cases promotion with
  | true =>
      refine quiet_then ((verify_promotion_only state plan).asks reads_quiet) read.sound ?_
      rintro - v₂ ⟨n, ordered⟩ sound₂ extended₂
      exact tail n v₂ ordered sound₂ (extended₁.trans extended₂)
  | false =>
      refine quiet_then ((verify_reservation_only state plan run_id parent).asks reads_quiet)
        read.sound ?_
      rintro - v₂ ⟨n, ordered⟩ sound₂ extended₂
      exact tail n v₂ ordered sound₂ (extended₁.trans extended₂)

theorem read_only : (read_state platform).Only Reads fun _ => True := by
  unfold read_state
  refine (Api.optional_only trivial).bind fun content _ => ?_
  cases content with
  | none =>
      exact (Api.optional_only trivial).bind fun _ _ =>
        (Api.require_only _ _).bind fun _ _ => trivial
  | some file =>
      refine (Api.require_only _ _).bind fun _ _ => (Api.require_only _ _).bind fun _ _ => ?_
      refine (Dialogue.Only.ofExcept (P := fun _ => True) fun _ _ => trivial).bind fun _ _ => ?_
      refine (Dialogue.Only.ofExcept (P := fun _ => True) fun _ _ => trivial).bind fun _ _ => ?_
      exact (Api.require_only _ _).bind fun _ _ => trivial

theorem verify_reservation_reads (plan : Plan) (run_id : Int) (parent : Option Parent) :
    (verify_reservation platform plan run_id parent).Only Reads fun _ => True :=
  read_only.bind fun _ _ => (verify_reservation_only _ _ _ _).mono fun _ _ => trivial

theorem verify_promotion_order_reads (plan : Plan) :
    (verify_promotion_order platform plan).Only Reads fun _ => True :=
  read_only.bind fun _ _ => (verify_promotion_only _ _).mono fun _ _ => trivial

/-! ## The transaction leaves the file alone -/

theorem create_confirmation_reads (consumed : Bytes) :
    (create_confirmation consumed).Only Reads fun _ => True :=
  (Api.api_only trivial).bind fun _ _ => (Api.require_only _ _).bind fun _ _ =>
    (Api.require_only _ _).mono fun _ _ => trivial

theorem checked_release_reads {payload : Payload} {id : Nat} {value : ReleaseData} :
    (checked_release payload id value).Only Reads fun _ => True :=
  (Api.require_only _ _).mono fun _ _ => trivial

theorem reconcile_reads {payload : Payload} {confirm : Api Unit}
    (reads : confirm.Only Reads fun _ => True) :
    (reconcile_created_release payload confirm).Only Reads fun _ => True := by
  unfold reconcile_created_release
  refine reads.bind fun _ _ => (Api.api_only trivial).bind fun first _ => ?_
  refine (Api.api_only trivial).bind fun second _ => (Api.require_only _ _).bind fun _ _ => ?_
  split
  · refine checked_release_reads.bind fun _ _ => checked_release_reads.bind fun _ _ => ?_
    refine (Api.api_only trivial).bind fun _ _ => checked_release_reads.bind fun _ _ => ?_
    refine (Api.api_only trivial).bind fun _ _ => (Api.require_only _ _).bind fun _ _ => ?_
    refine (Api.api_only trivial).bind fun _ _ => (Api.require_only _ _).bind fun _ _ => ?_
    refine reads.bind fun _ _ => (Api.api_only trivial).bind fun _ _ => ?_
    refine checked_release_reads.bind fun _ _ => (Api.api_only trivial).bind fun _ _ => ?_
    exact (Api.require_only _ _).bind fun _ _ => trivial
  · exact trivial
  · exact trivial

theorem verify_all_reads (stage : List Staged) (uploaded : List Asset) :
    (verify_all platform stage uploaded).Only Reads fun _ => True := by
  induction uploaded with
  | nil => exact trivial
  | cons item rest ih =>
      unfold verify_all
      split
      · refine Dialogue.Only.bind (P := fun _ => True) ?_ fun _ _ => ih
        exact (Api.require_only _ _).bind fun _ _ => (Api.api_only trivial).bind fun _ _ =>
          (Api.require_only _ _).mono fun _ _ => trivial
      · exact trivial

theorem upload_all_quiet (id : Nat) (stage : List Staged) :
    (upload_all id stage).Only Quiet fun _ => True := by
  induction stage with
  | nil => exact trivial
  | cons path rest ih =>
      refine Dialogue.Only.bind (P := fun _ => True) ?_ fun _ _ => ih
      exact (Api.api_only fun _ _ other => by cases other).bind fun _ _ =>
        (Api.require_only _ _).mono fun _ _ => trivial

theorem publish_prepared_quiet (payload : Payload) (stage : List Staged)
    {confirm_create : Option (Api Unit)}
    (reads : ∀ confirm, confirm_create = some confirm → confirm.Only Reads fun _ => True) :
    (publish_prepared platform payload stage confirm_create).Only Quiet fun _ => True := by
  have created : (create_release payload confirm_create).Only Quiet fun _ => True := by
    refine ⟨fun _ _ other => (by cases other), fun r => ?_⟩
    cases r with
    | ok release => exact trivial
    | error e =>
        cases e with
        | ambiguous =>
            cases confirm_create with
            | none => exact trivial
            | some confirm => exact (reconcile_reads (reads confirm rfl)).asks reads_quiet
        | missing => exact trivial
        | other => exact trivial
  unfold publish_prepared
  refine ((ensure_absent_only _).asks reads_quiet).bind fun _ _ => ?_
  refine (Api.api_only fun _ _ other => by cases other).bind fun _ _ => created.bind fun _ _ => ?_
  refine (Api.require_only _ _).bind fun _ _ => (upload_all_quiet _ _).bind fun _ _ => ?_
  refine (Api.api_only fun _ _ other => by cases other).bind fun _ _ => ?_
  refine (Api.require_only _ _).bind fun _ _ =>
    ((verify_all_reads _ _).asks reads_quiet).bind fun _ _ => ?_
  refine (Api.api_only fun _ _ other => by cases other).bind fun _ _ => ?_
  refine (Api.require_only _ _).bind fun _ _ =>
    (Api.api_only fun _ _ other => by cases other).bind fun _ _ => ?_
  exact (Api.require_only _ _).bind fun _ _ => trivial

/-! ## Whole jobs -/

/-- What a job that returned has in the ledger, when it was started in `w`. -/
def Job.Kept (platform : Platform) (digest : PolicyDigest) (i : ι) (w : GitHub ι) :
    Job → Outcome → GitHub ι → Prop
  | .reserve request, .plan plan, v => Reserved platform digest request plan v
  | .publish p, .release _, v => Consumed platform i p.plan false v ∧ Above platform w p.plan false
  | .promote p, .release _, v => Consumed platform i p.plan true v ∧ Above platform w p.plan true
  | _, _, _ => False

theorem publish_meets (p : Publication) (raise : ∀ n, p.plan.build_number = some n → raisable i n)
    {w : GitHub ι} (sound : w.Sound platform) :
    (publish_versioned platform p).Meets (ledgerTerms platform raisable i)
      (fun _ v => Consumed platform i p.plan false v ∧ Above platform w p.plan false) w := by
  unfold publish_versioned
  refine quiet_then (Dialogue.Only.ofExcept (P := fun _ => True) fun _ _ => trivial) sound ?_
  intro _ v₁ _ sound₁ extended₁
  refine quiet_then ((verify_reservation_reads _ _ _).asks reads_quiet) sound₁ ?_
  intro _ v₂ _ sound₂ extended₂
  refine quiet_then ((ensure_absent_only _).asks reads_quiet) sound₂ ?_
  intro _ v₃ _ sound₃ extended₃
  have tail : ∀ v : GitHub ι, v.Sound platform → w.Extends platform v →
      (do
        verify_reservation platform p.plan p.run_id p.parent
        let consumed ← begin_publication platform p.plan p.run_id p.parent false
        publish_prepared platform p.payload p.stage (some (create_confirmation consumed)) :
          Api ReleaseData).Meets (ledgerTerms platform raisable i)
        (fun _ v => Consumed platform i p.plan false v ∧ Above platform w p.plan false) v := by
    intro v sound_v extended_v
    refine quiet_then ((verify_reservation_reads _ _ _).asks reads_quiet) sound_v ?_
    intro _ x _ sound_x extended_x
    refine (begin_meets raise sound_x).andThen ?_
    rintro consumed y ⟨done, above⟩
    refine ((publish_prepared_quiet p.payload p.stage ?_).meets fun _ _ _ _ quiet served =>
      quiet_keeps quiet served).mono ?_
    · rintro confirm ⟨⟩
      exact create_confirmation_reads consumed
    · rintro - z ⟨-, further⟩
      exact ⟨done.later further, above.earlier (extended_v.trans extended_x)⟩
  have extended := (extended₁.trans extended₂).trans extended₃
  split
  · refine quiet_then ((ensure_absent_only _).asks reads_quiet) sound₃ ?_
    intro _ v₄ _ sound₄ extended₄
    exact tail v₄ sound₄ (extended.trans extended₄)
  · exact tail v₃ sound₃ extended

theorem promote_meets (p : Publication) (raise : ∀ n, p.plan.build_number = some n → raisable i n)
    {w : GitHub ι} (sound : w.Sound platform) :
    (promote platform p).Meets (ledgerTerms platform raisable i)
      (fun _ v => Consumed platform i p.plan true v ∧ Above platform w p.plan true) w := by
  unfold promote
  refine quiet_then ((verify_promotion_order_reads _).asks reads_quiet) sound ?_
  intro _ v₁ _ sound₁ extended₁
  refine quiet_then ((ensure_absent_only _).asks reads_quiet) sound₁ ?_
  intro _ v₂ _ sound₂ extended₂
  refine quiet_then ((verify_promotion_order_reads _).asks reads_quiet) sound₂ ?_
  intro _ v₃ _ sound₃ extended₃
  refine (begin_meets raise sound₃).andThen ?_
  rintro consumed y ⟨done, above⟩
  refine ((publish_prepared_quiet p.stable p.stage fun _ other => (by cases other)).meets
    fun _ _ _ _ quiet served => quiet_keeps quiet served).mono ?_
  rintro - z ⟨-, further⟩
  exact ⟨done.later further, above.earlier ((extended₁.trans extended₂).trans extended₃)⟩

/-- **Every job keeps the terms of the ledger.** -/
theorem job_meets (digest : PolicyDigest) (job : Job)
    (raise : ∀ n, job.number = some n → raisable i n) {w : GitHub ι} (sound : w.Sound platform) :
    (job.program platform digest).Meets (ledgerTerms platform raisable i)
      (job.Kept platform digest i w) w := by
  cases job with
  | reserve request =>
      refine (reserve_meets digest request sound).andThen fun plan v reserved => ?_
      exact fun x further => reserved.later further
  | publish p =>
      refine (publish_meets p raise sound).andThen fun release v ⟨done, above⟩ => ?_
      exact fun x further => ⟨done.later further, above⟩
  | promote p =>
      refine (promote_meets p raise sound).andThen fun release v ⟨done, above⟩ => ?_
      exact fun x further => ⟨done.later further, above⟩

end Shared

end InverterGateway.Release

/-
# Release.Reservations — the ledger over whole runs of the repository

Any number of workflow runs reserve, publish and promote at once, one API call
at a time, and GitHub may refuse a call or lose its reply.  Over every such run:

* the ledger file parses and passes the checks that `read_state` makes of its
  content, and it only grows (`ledger_grows`);
* two runs hold different build numbers and, but for stable releases, different
  tags, while one run that asks again gets the plan it has (`reserved_apart`);
* the publication floor is raised by publications in the order of their build
  numbers, each by one (`consumed_in_order`), and a publication that starts after
  a number was consumed has a greater one (`published_later`).

Nothing is assumed of the others but that they leave the ledger file alone.
-/
import InverterGateway.Release.Clients
import InverterGateway.Release.Shelf

namespace InverterGateway.Release

set_option autoImplicit false

open InverterGateway.Theory

section Runs

variable {ι : Type} {platform : Platform} {digest : PolicyDigest} {jobs : ι → Job}

/-- A step of anyone who does not write the ledger file. -/
def Elsewhere (v w : GitHub ι) : Prop := w.file = v.file ∧ w.raises = v.raises

/-- The file holds a sound ledger, or there is none yet. -/
def Opened (platform : Platform) (w : GitHub ι) : Prop := w.Sound platform ∧ w.raises = []

/-- The numbers that a client may raise the floor to. -/
def Raisable (jobs : ι → Job) (i : ι) (n : Int) : Prop := (jobs i).number = some n

theorem ledger_agreement (jobs : ι → Job) :
    Dialogue.Agreement (ledgerTerms platform (Raisable jobs)) Elsewhere where
  clients := fun _ _ _ _ _ kept => kept.1
  others := fun _ _ _ same => GitHub.grows_of_same same.1 same.2

variable [DecidableEq ι]

variable {s t : GitHub ι × (ι → Api Outcome)}

/-- Each client's obligation in a reached state. -/
theorem reached_keeps (reached : (runs platform digest jobs Elsewhere (Opened platform)).Reaches
    Machine.Any s) :
    ∀ i, (s.2 i).Meets (ledgerTerms platform (Raisable jobs) i)
      (fun o v => ∃ w, (jobs i).Kept platform digest i w o v) s.1 := by
  refine Dialogue.reached_meets (ledger_agreement jobs) ?_ reached
  rintro w ⟨sound, -⟩ i
  exact (job_meets digest (jobs i) (fun n number => number) sound).mono fun o v kept => ⟨w, kept⟩

/-- What every step of a run keeps. -/
structure Stepped (platform : Platform) (jobs : ι → Job) (v w : GitHub ι) : Prop where
  grows : v.Grows platform w
  raises : (∀ e ∈ v.raises, Raisable jobs e.1 e.2) → ∀ e ∈ w.raises, Raisable jobs e.1 e.2

theorem run_stepped
    (reached : (runs platform digest jobs Elsewhere (Opened platform)).Reaches Machine.Any s)
    (run : Relation.ReflTransGen
      ((runs platform digest jobs Elsewhere (Opened platform)).Under Machine.Any) s t) :
    Stepped platform jobs s.1 t.1 := by
  refine Dialogue.run_keeps (G := Stepped platform jobs) (fun w => ⟨.refl w, id⟩) ?_
    (ledger_agreement jobs) ?_ ?_ (reached_keeps reached) run
  · exact fun one two => ⟨one.grows.trans two.grows, fun given => two.raises (one.raises given)⟩
  · rintro i v w ⟨grows, raises⟩
    refine ⟨grows, fun given e found => ?_⟩
    rcases raises e found with old | ⟨rfl, new⟩
    · exact given e old
    · exact new
  · rintro v w ⟨file, raises⟩
    exact ⟨GitHub.grows_of_same file raises, fun given e found => given e (raises ▸ found)⟩

/-- The shared file of a reached state. -/
theorem reached_sound
    (reached : (runs platform digest jobs Elsewhere (Opened platform)).Reaches Machine.Any s) :
    s.1.Sound platform ∧ ∀ e ∈ s.1.raises, Raisable jobs e.1 e.2 := by
  obtain ⟨first, started, run⟩ := reached
  have stepped := run_stepped (.start started) run
  obtain ⟨⟨sound, none⟩, -⟩ := started
  exact ⟨(stepped.grows sound).1, stepped.raises fun e found => by rw [none] at found; cases found⟩

theorem rehearsal_opened : Opened Rehearsal.platform Rehearsal.start :=
  ⟨⟨fun _ here => (by cases here), Ledger.sound_empty, .nil, fun _ found => (by cases found)⟩, rfl⟩

/-! ## The results -/

/-- **The ledger always passes the checks of its content, and it only grows**: from
any reached state on, every reservation stays as it is and neither the counter nor
the publication floor goes back.  Of the length of the file, which `read_state`
bounds too, nothing is said: no writer checks it. -/
theorem ledger_grows
    (reached : (runs platform digest jobs Elsewhere (Opened platform)).Reaches Machine.Any s)
    (run : Relation.ReflTransGen
      ((runs platform digest jobs Elsewhere (Opened platform)).Under Machine.Any) s t) :
    (∀ raw, t.1.file = some raw → ∃ state, platform.parse raw = .ok state ∧
      checkLedger state = .ok () ∧ state.Sound) ∧
    (platform.ledger s.1.file).Le (platform.ledger t.1.file) := by
  obtain ⟨sound, extended⟩ := (run_stepped reached run).grows (reached_sound reached).1
  refine ⟨fun raw here => ?_, extended.ledger⟩
  obtain ⟨state, parsed⟩ := sound.reads raw here
  have held : platform.ledger t.1.file = state := by rw [here]; exact ledger_of_parse parsed
  exact ⟨state, parsed, held ▸ sound.ledger.accepted, held ▸ sound.ledger⟩

theorem ledger_grows_rehearsed :
    (Rehearsal.platform.ledger (Rehearsal.world 2).file).Le
      (Rehearsal.platform.ledger (Rehearsal.world 4).file) := by
  obtain ⟨s, t, u, reached, two, run, -, more, four⟩ := Rehearsal.rehearsed rehearsal_opened
  rw [← two.world, ← four.world]
  exact (ledger_grows reached (run.trans more)).2

/-- **Two runs never hold one build number, nor one tag unless it is stable; one
run always holds one plan.** -/
theorem reserved_apart
    (reached : (runs platform digest jobs Elsewhere (Opened platform)).Reaches Machine.Any s)
    {i j : ι} {a b : Reserve} (asks : jobs i = .reserve a) (asks' : jobs j = .reserve b)
    {p q : Plan} (holds : s.2 i = .done (.plan p)) (holds' : s.2 j = .done (.plan q)) :
    (a.run_id = b.run_id → p = q ∧ a.base = b.base ∧ a.channel = b.channel ∧
      a.source_sha = b.source_sha ∧ a.parent = b.parent) ∧
    (a.run_id ≠ b.run_id → p.build_number ≠ q.build_number ∧
      (a.channel ≠ "stable" → p.tag ≠ q.tag)) := by
  have kept : ∀ {k : ι} {request : Reserve} {plan : Plan}, jobs k = .reserve request →
      s.2 k = .done (.plan plan) → Reserved platform digest request plan s.1 := by
    intro k request plan asked answered
    have meets := reached_keeps reached k
    rw [asked, answered] at meets
    obtain ⟨_, reserved⟩ := meets s.1 (.refl s.1)
    exact reserved
  obtain ⟨sound, run, ⟨record, found, rfl, parent⟩, base, channel, source, -⟩ := kept asks holds
  obtain ⟨-, run', ⟨record', found', rfl, parent'⟩, base', channel', source', -⟩ := kept asks' holds'
  constructor
  · intro same
    have entry := sound.ledger.entry_eq found found' (congrArg toString same)
    obtain rfl : record = record' := congrArg Prod.snd entry
    exact ⟨rfl, base.symm.trans base', channel.symm.trans channel', source.symm.trans source',
      parent.symm.trans parent'⟩
  · intro other
    have apart : (toString a.run_id, record) ≠ (toString b.run_id, record') := fun same =>
      other (toString_positive_injective run run' (congrArg Prod.fst same))
    exact ⟨fun builds => apart (sound.ledger.builds _ found _ found' builds),
      fun unstable tags => apart (sound.ledger.tags _ found _ found' tags (channel ▸ unstable))⟩

theorem reserved_apart_rehearsed :
    (Rehearsal.plan 1).build_number ≠ (Rehearsal.plan 2).build_number ∧
      (Rehearsal.plan 1).tag ≠ (Rehearsal.plan 2).tag := by
  obtain ⟨s, _, _, reached, two, -⟩ := Rehearsal.rehearsed rehearsal_opened
  obtain ⟨builds, tags⟩ := (reserved_apart reached rfl rfl
    (two.answered 0 (by decide) _ Rehearsal.reserves_first)
    (two.answered 1 (by decide) _ Rehearsal.reserves_second)).2 (by decide)
  exact ⟨builds, tags (by decide)⟩

/-- **Build numbers are consumed in their order, each by one publication.**  The
raises of the publication floor are strictly increasing, whether or not the run
that made one got the reply; each goes to the build number of its run's plan;
and a run that published is among them. -/
theorem consumed_in_order
    (reached : (runs platform digest jobs Elsewhere (Opened platform)).Reaches Machine.Any s) :
    (s.1.raises.Pairwise fun e f => e.2 < f.2) ∧
    (∀ e ∈ s.1.raises, (jobs e.1).number = some e.2 ∧
      e.2 ≤ (platform.ledger s.1.file).publication_floor) ∧
    (∀ i p r, jobs i = .publish p → s.2 i = .done (.release r) →
      ∃ n, p.plan.build_number = some n ∧ (i, n) ∈ s.1.raises) ∧
    ∀ i j p q r r', jobs i = .publish p → jobs j = .publish q → s.2 i = .done (.release r) →
      s.2 j = .done (.release r') → i ≠ j → p.plan.build_number ≠ q.plan.build_number := by
  obtain ⟨sound, justified⟩ := reached_sound reached
  have consumed : ∀ i p r, jobs i = .publish p → s.2 i = .done (.release r) →
      ∃ n, p.plan.build_number = some n ∧ (i, n) ∈ s.1.raises := by
    intro i p r asked answered
    have meets := reached_keeps reached i
    rw [asked, answered] at meets
    obtain ⟨w, ⟨-, -, n, build, -, raised⟩, -⟩ := meets s.1 (.refl s.1)
    exact ⟨n, build, raised rfl⟩
  refine ⟨sound.ordered, fun e found => ⟨justified e found, sound.below e found⟩, consumed, ?_⟩
  intro i j p q r r' asked asked' answered answered' other builds
  obtain ⟨n, build, raised⟩ := consumed i p r asked answered
  obtain ⟨n', build', raised'⟩ := consumed j q r' asked' answered'
  obtain rfl : n = n' := Option.some.inj (build.symm.trans (builds.trans build'))
  have unlike : (i, n) ≠ (j, n) := fun same => other (congrArg Prod.fst same)
  have distinct : (s.1.raises.map Prod.snd).Nodup :=
    List.pairwise_map.2 (sound.ordered.imp fun less => ne_of_lt less)
  exact unlike (List.inj_on_of_nodup_map distinct raised raised' rfl)

theorem consumed_in_order_rehearsed :
    (Rehearsal.world 4).raises.Pairwise (fun e f => e.2 < f.2) ∧
      (2, 1) ∈ (Rehearsal.world 4).raises ∧ (3, 2) ∈ (Rehearsal.world 4).raises := by
  obtain ⟨s, t, u, reached, -, run, -, more, four⟩ := Rehearsal.rehearsed rehearsal_opened
  obtain ⟨r, first⟩ := Rehearsal.publishes_first
  obtain ⟨r', second⟩ := Rehearsal.publishes_second
  obtain ⟨ordered, -, consumed, -⟩ := consumed_in_order (reached.further (run.trans more))
  obtain ⟨n, build, raised⟩ := consumed 2 _ r rfl (four.answered 2 (by decide) _ first)
  obtain ⟨n', build', raised'⟩ := consumed 3 _ r' rfl (four.answered 3 (by decide) _ second)
  obtain rfl : 1 = n := Option.some.inj build
  obtain rfl : 2 = n' := Option.some.inj build'
  rw [← four.world]
  exact ⟨ordered, raised, raised'⟩

/-- **A publication that starts later publishes a greater build number** than any
that was consumed before it started, so a publication cannot be repeated; a
promotion does not go below it. -/
theorem published_later
    (reached : (runs platform digest jobs Elsewhere (Opened platform)).Reaches Machine.Any s)
    (run : Relation.ReflTransGen
      ((runs platform digest jobs Elsewhere (Opened platform)).Under Machine.Any) s t)
    {j : ι} (unstarted : s.2 j = (jobs j).program platform digest) {p : Publication}
    {r : ReleaseData} {n : Int} (build : p.plan.build_number = some n)
    (answered : t.2 j = .done (.release r)) :
    (jobs j = .publish p → ∀ e ∈ s.1.raises, e.2 < n) ∧
    (jobs j = .promote p → ∀ e ∈ s.1.raises, e.2 ≤ n) := by
  obtain ⟨sound, -⟩ := reached_sound reached
  have meets : ∀ i, (s.2 i).Meets (ledgerTerms platform (Raisable jobs) i)
      (fun o v => i = j → (jobs i).Kept platform digest i s.1 o v) s.1 := by
    intro i
    by_cases here : i = j
    · subst here
      rw [unstarted]
      exact (job_meets digest (jobs i) (fun n number => number) sound).mono fun _ _ kept _ => kept
    · exact (reached_keeps reached i).mono fun _ _ _ same => absurd same here
  have kept := Dialogue.run_meets (ledger_agreement jobs) meets run j
  rw [answered] at kept
  have held := kept t.1 (.refl t.1) rfl
  constructor
  · intro asked e found
    rw [asked] at held
    exact lt_of_le_of_lt (sound.below e found) ((held.2 n build).2 rfl)
  · intro asked e found
    rw [asked] at held
    exact (sound.below e found).trans (held.2 n build).1

theorem published_later_rehearsed :
    (Rehearsal.plan 2).build_number = some 2 ∧ ∀ e ∈ (Rehearsal.world 3).raises, e.2 < 2 := by
  obtain ⟨s, t, u, reached, -, run, three, more, four⟩ := Rehearsal.rehearsed rehearsal_opened
  obtain ⟨r, second⟩ := Rehearsal.publishes_second
  rw [← three.world]
  exact ⟨rfl, (published_later (reached.further run) more (three.unstarted 3 (by decide)) rfl
    (four.answered 3 (by decide) _ second)).1 rfl⟩

end Runs

end InverterGateway.Release

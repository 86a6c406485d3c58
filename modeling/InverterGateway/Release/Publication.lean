/-
# Release.Publication — what a public release holds

A publication creates its tag, and GitHub creates a tag once: the tag is the
lock under which one run alone makes a draft, fills it and makes it public.  The
others may hold other tags and releases and change those as they like.

`publish_meets_stage` follows one run through the transaction.  A reply that is
lost after the draft was created is answered by the readback, which adopts only
this run's draft; bytes that GitHub stored wrongly are found by comparing every
asset before the draft is published.  `published_faithful` is the result over
all runs: a public release made by a run has the tag and the source commit of
its plan and exactly the staged files, and it is the only one under its tag.
-/
import InverterGateway.Release.Clients
import InverterGateway.Release.Shelf
import Mathlib.Data.List.Perm.Subperm

namespace InverterGateway.Release

set_option autoImplicit false

open InverterGateway.Theory

/-- The release that a job may publish. -/
def Job.payload : Job → Option Payload
  | .reserve _ => none
  | .publish p => some p.payload
  | .promote p => some p.stable

/-- The text of a publication that makes a plan's release; it carries a random mark,
which the text of a promotion does not. -/
def Job.marked : Job → Option String
  | .publish p => some p.payload.body
  | _ => none

/-- The files that a job stages. -/
def Job.stage : Job → List Staged
  | .reserve _ => []
  | .publish p => p.stage
  | .promote p => p.stage

section Publication

variable {ι : Type} {platform : Platform} {jobs : ι → Job} {i : ι}

/-! ## Order among tags and releases -/

/-- Names and IDs identify, an owned release stands under a tag of its owner, and
nobody else's release has the marked text of a publication. -/
structure GitHub.Orderly (jobs : ι → Job) (w : GitHub ι) : Prop where
  tags : ∀ t ∈ w.tags, ∀ t' ∈ w.tags, t.name = t'.name → t = t'
  ids : ∀ r ∈ w.releases, ∀ r' ∈ w.releases, r.data.id = r'.data.id → r = r'
  fresh : ∀ r ∈ w.releases, r.data.id < w.fresh ∧ ∀ a ∈ r.data.assets, a.id < w.fresh
  assets : ∀ r ∈ w.releases, ∀ r' ∈ w.releases, ∀ a ∈ r.data.assets, ∀ a' ∈ r'.data.assets,
    a.id = a'.id → a = a'
  owned : ∀ r ∈ w.releases, ∀ i, r.owner = some i →
    ∃ t ∈ w.tags, t.name = r.data.tag_name ∧ t.owner = some i
  marked : ∀ r ∈ w.releases, r.owner = none → ∀ i body, (jobs i).marked = some body →
    r.data.body ≠ body

/-- A client's tags and releases are the same in two states. -/
structure GitHub.Alike (i : ι) (v w : GitHub ι) : Prop where
  tags : ∀ name sha, ⟨name, sha, some i⟩ ∈ w.tags ↔ ⟨name, sha, some i⟩ ∈ v.tags
  releases : ∀ d, ⟨d, some i⟩ ∈ w.releases ↔ ⟨d, some i⟩ ∈ v.releases

theorem GitHub.Alike.refl (i : ι) (w : GitHub ι) : GitHub.Alike i w w :=
  ⟨fun _ _ => Iff.rfl, fun _ => Iff.rfl⟩

theorem GitHub.Alike.trans {u v w : GitHub ι} (one : GitHub.Alike i u v)
    (two : GitHub.Alike i v w) : GitHub.Alike i u w :=
  ⟨fun name sha => (two.tags name sha).trans (one.tags name sha),
    fun d => (two.releases d).trans (one.releases d)⟩

/-- A release that holds what a job set out to publish. -/
structure Faithful (job : Job) (i : ι) (w : GitHub ι) (d : ReleaseData) : Prop where
  payload : ∃ payload, job.payload = some payload ∧ d.tag_name = payload.tag_name ∧
    d.target_commitish = payload.target_commitish ∧ d.body = payload.body ∧
    d.prerelease = payload.prerelease ∧ ⟨payload.tag_name, payload.target_commitish, some i⟩ ∈ w.tags
  assets : (d.assets.map fun a => (a.name, a.content)).Perm job.stage

/-- A client has one release at most, and if that is public it is faithful. -/
structure Own (job : Job) (i : ι) (w : GitHub ι) : Prop where
  single : ∀ d d', ⟨d, some i⟩ ∈ w.releases → ⟨d', some i⟩ ∈ w.releases → d = d'
  faithful : ∀ d, ⟨d, some i⟩ ∈ w.releases → d.draft = false → Faithful job i w d

theorem Own.alike {job : Job} {v w : GitHub ι} (own : Own job i v) (alike : GitHub.Alike i v w) :
    Own job i w := by
  refine ⟨fun d d' one two => own.single d d' ((alike.releases d).1 one) ((alike.releases d').1 two),
    fun d listed made => ?_⟩
  obtain ⟨⟨payload, job, tag, target, body, prerelease, held⟩, assets⟩ :=
    own.faithful d ((alike.releases d).1 listed) made
  exact ⟨⟨payload, job, tag, target, body, prerelease, (alike.tags _ _).2 held⟩, assets⟩

/-- What a client may rely on: nobody touches its tag and its release. -/
def Undisturbed (jobs : ι → Job) (i : ι) (v w : GitHub ι) : Prop :=
  v.Orderly jobs → w.Orderly jobs ∧ GitHub.Alike i v w

/-- What the tags and releases hold a client to. -/
def stageTerms (platform : Platform) (jobs : ι → Job) (i : ι) :
    Terms Request Reply (GitHub ι) where
  serve := GitHub.Serve platform i
  rely := Undisturbed jobs i
  keep v w := (∀ j, j ≠ i → Undisturbed jobs j v w) ∧
    (v.Orderly jobs → w.Orderly jobs ∧ (Own (jobs i) i v → Own (jobs i) i w))
  refl w orderly := ⟨orderly, .refl i w⟩
  trans one two orderly :=
    ⟨(two (one orderly).1).1, (one orderly).2.trans (two (one orderly).1).2⟩

/-! ## Calls that leave tags and releases alone -/

/-- A request that changes no tag and no release. -/
def Aside : Request → Prop
  | .createTag _ _ | .createRelease _ | .upload _ _ _ | .publishRelease _ _ => False
  | _ => True

theorem reads_aside (q : Request) (reads : Reads q) : Aside q := by
  cases q <;> trivial

theorem Orderly.same {v w : GitHub ι} (orderly : v.Orderly jobs) (tags : w.tags = v.tags)
    (releases : w.releases = v.releases) (fresh : w.fresh = v.fresh) : w.Orderly jobs := by
  obtain ⟨one, two, three, four, five, six⟩ := orderly
  refine ⟨?_, ?_, ?_, ?_, ?_, ?_⟩
  · rw [tags]; exact one
  · rw [releases]; exact two
  · rw [releases, fresh]; exact three
  · rw [releases]; exact four
  · rw [releases, tags]; exact five
  · rw [releases]; exact six

theorem aside_effect {v w : GitHub ι} {q : Request} {a : Answer q} (aside : Aside q)
    (effect : GitHub.Effect platform i v q a w) :
    w.tags = v.tags ∧ w.releases = v.releases ∧ w.fresh = v.fresh := by
  cases q with
  | createTag tag sha => exact False.elim aside
  | createRelease payload => exact False.elim aside
  | upload id name content => exact False.elim aside
  | publishRelease id prerelease => exact False.elim aside
  | putContents content sha => obtain ⟨-, -, rfl⟩ := effect; exact ⟨rfl, rfl, rfl⟩
  | createBranch sha => obtain ⟨-, rfl⟩ := effect; exact ⟨rfl, rfl, rfl⟩
  | contents => obtain ⟨rfl, -⟩ := effect; exact ⟨rfl, rfl, rfl⟩
  | branchRef => obtain ⟨rfl, -⟩ := effect; exact ⟨rfl, rfl, rfl⟩
  | tags => obtain ⟨rfl, -⟩ := effect; exact ⟨rfl, rfl, rfl⟩
  | releases => obtain ⟨rfl, -⟩ := effect; exact ⟨rfl, rfl, rfl⟩
  | tagRef tag => obtain ⟨rfl, -⟩ := effect; exact ⟨rfl, rfl, rfl⟩
  | releaseByTag tag => obtain ⟨rfl, -⟩ := effect; exact ⟨rfl, rfl, rfl⟩
  | release id => obtain ⟨rfl, -⟩ := effect; exact ⟨rfl, rfl, rfl⟩
  | assets id => obtain ⟨rfl, -⟩ := effect; exact ⟨rfl, rfl, rfl⟩
  | downloadAsset id => obtain ⟨rfl, -⟩ := effect; exact ⟨rfl, rfl, rfl⟩

theorem same_undisturbed (jobs : ι → Job) (j : ι) {v w : GitHub ι} (tags : w.tags = v.tags)
    (releases : w.releases = v.releases) (fresh : w.fresh = v.fresh) : Undisturbed jobs j v w :=
  fun orderly => ⟨Orderly.same orderly tags releases fresh,
    ⟨fun _ _ => by rw [tags], fun _ => by rw [releases]⟩⟩

theorem aside_keeps {v w : GitHub ι} {q : Request} {r : Reply q} (aside : Aside q)
    (served : (stageTerms platform jobs i).serve v q r w) :
    (stageTerms platform jobs i).keep v w ∧ (stageTerms platform jobs i).rely v w := by
  have same : w.tags = v.tags ∧ w.releases = v.releases ∧ w.fresh = v.fresh := by
    rcases served with ⟨a, -, effect⟩ | ⟨e, -, rfl | ⟨a, effect⟩⟩
    · exact aside_effect aside effect
    · exact ⟨rfl, rfl, rfl⟩
    · exact aside_effect aside effect
  obtain ⟨tags, releases, fresh⟩ := same
  have still := fun j => same_undisturbed jobs j tags releases fresh
  exact ⟨⟨fun j _ => still j, fun orderly => ⟨(still i orderly).1,
    fun own => own.alike (still i orderly).2⟩⟩, still i⟩

/-! ## The stages of a publication -/

/-- The client has no release. -/
structure Clear (jobs : ι → Job) (i : ι) (w : GitHub ι) : Prop where
  orderly : w.Orderly jobs
  none : ∀ d, ⟨d, some i⟩ ∉ w.releases

/-- The client has its tag. -/
structure Tagged (jobs : ι → Job) (i : ι) (payload : Payload) (w : GitHub ι) : Prop where
  orderly : w.Orderly jobs
  tag : ⟨payload.tag_name, payload.target_commitish, some i⟩ ∈ w.tags

/-- The client has its tag and one release. -/
structure Holding (jobs : ι → Job) (i : ι) (payload : Payload) (r : ReleaseData) (w : GitHub ι) :
    Prop extends Tagged jobs i payload w where
  only : ∀ d, ⟨d, some i⟩ ∈ w.releases ↔ d = r

theorem Clear.later {v w : GitHub ι} (clear : Clear jobs i v) (others : Undisturbed jobs i v w) :
    Clear jobs i w :=
  ⟨(others clear.orderly).1, fun d listed =>
    clear.none d (((others clear.orderly).2.releases d).1 listed)⟩

theorem Tagged.later {payload : Payload} {v w : GitHub ι} (tagged : Tagged jobs i payload v)
    (others : Undisturbed jobs i v w) : Tagged jobs i payload w :=
  ⟨(others tagged.orderly).1, ((others tagged.orderly).2.tags _ _).2 tagged.tag⟩

theorem Holding.later {payload : Payload} {r : ReleaseData} {v w : GitHub ι}
    (holding : Holding jobs i payload r v) (others : Undisturbed jobs i v w) :
    Holding jobs i payload r w :=
  ⟨holding.toTagged.later others, fun d =>
    ((others holding.orderly).2.releases d).trans (holding.only d)⟩

/-- The release that a client holds is the one with its ID. -/
theorem Holding.release_eq {payload : Payload} {r : ReleaseData} {v : GitHub ι}
    (holding : Holding jobs i payload r v) {x : Published ι} (listed : x ∈ v.releases)
    (same : x.data.id = r.id) : x = ⟨r, some i⟩ :=
  holding.orderly.ids x listed _ ((holding.only r).2 rfl) same

theorem Own.grown {job : Job} {v w : GitHub ι} (own : Own job i v)
    (tags : ∀ t ∈ v.tags, t ∈ w.tags) (releases : w.releases = v.releases) : Own job i w := by
  refine ⟨fun d d' => by rw [releases]; exact own.single d d', fun d listed made => ?_⟩
  rw [releases] at listed
  obtain ⟨⟨payload, job, tag, target, body, prerelease, held⟩, assets⟩ := own.faithful d listed made
  exact ⟨⟨payload, job, tag, target, body, prerelease, tags _ held⟩, assets⟩

/-- A release that is not public promises nothing. -/
theorem Holding.own {payload : Payload} {r : ReleaseData} {w : GitHub ι} (job : Job)
    (holding : Holding jobs i payload r w) (draft : r.draft = true) : Own job i w := by
  refine ⟨fun d d' one two => ?_, fun d listed made => ?_⟩
  · rw [(holding.only d).1 one, (holding.only d').1 two]
  · rw [(holding.only d).1 listed, draft] at made
    cases made

theorem Clear.own {w : GitHub ι} (job : Job) (clear : Clear jobs i w) : Own job i w :=
  ⟨fun d _ one => absurd one (clear.none d), fun d listed => absurd listed (clear.none d)⟩

/-- **GitHub creates a tag once.** -/
theorem createTag_step {v w : GitHub ι} {tag sha : String} {a : Answer (.createTag tag sha)}
    (effect : GitHub.Effect platform i v (.createTag tag sha) a w) (orderly : v.Orderly jobs) :
    w.Orderly jobs ∧ (∀ j, j ≠ i → GitHub.Alike j v w) ∧ ⟨tag, sha, some i⟩ ∈ w.tags ∧
      w.releases = v.releases ∧ ∀ t ∈ v.tags, t ∈ w.tags := by
  obtain ⟨unused, rfl⟩ := effect
  have split : ∀ t, t ∈ v.tags ++ [⟨tag, sha, some i⟩] ↔ t ∈ v.tags ∨ t = ⟨tag, sha, some i⟩ := by
    intro t
    rw [List.mem_append, List.mem_singleton]
  refine ⟨⟨?_, orderly.ids, orderly.fresh, orderly.assets, ?_, orderly.marked⟩, ?_,
    (split _).2 (.inr rfl), rfl, fun t listed => (split t).2 (.inl listed)⟩
  · intro t listed t' listed' same
    rcases (split t).1 listed with old | rfl
    · rcases (split t').1 listed' with old' | rfl
      · exact orderly.tags t old t' old' same
      · exact absurd same (unused t old)
    · rcases (split t').1 listed' with old' | rfl
      · exact absurd same.symm (unused t' old')
      · rfl
  · intro r listed j owner
    obtain ⟨t, held, named, owned⟩ := orderly.owned r listed j owner
    exact ⟨t, (split t).2 (.inl held), named, owned⟩
  · intro j other
    refine ⟨fun name sha' => ?_, fun d => Iff.rfl⟩
    rw [split]
    constructor
    · rintro (old | new)
      · exact old
      · cases new
        exact absurd rfl other
    · exact .inl

/-- A draft is created under the tag that its client holds. -/
theorem createRelease_step {v w : GitHub ι} {payload : Payload} {a : Answer (.createRelease payload)}
    (effect : GitHub.Effect platform i v (.createRelease payload) a w)
    (tagged : Tagged jobs i payload v) (clear : Clear jobs i v) :
    (∀ j, j ≠ i → GitHub.Alike j v w) ∧ a = payload.draft v.fresh ∧
      Holding jobs i payload (payload.draft v.fresh) w := by
  obtain ⟨rfl, rfl⟩ := effect
  have orderly := tagged.orderly
  have split : ∀ r, r ∈ v.releases ++ [⟨payload.draft v.fresh, some i⟩] ↔
      r ∈ v.releases ∨ r = ⟨payload.draft v.fresh, some i⟩ := by
    intro r
    rw [List.mem_append, List.mem_singleton]
  refine ⟨?_, rfl, ⟨⟨orderly.tags, ?_, ?_, ?_, ?_, ?_⟩, tagged.tag⟩, ?_⟩
  · intro j other
    refine ⟨fun _ _ => Iff.rfl, fun d => ?_⟩
    rw [split]
    constructor
    · rintro (old | new)
      · exact old
      · cases new
        exact absurd rfl other
    · exact .inl
  · intro r listed r' listed' same
    rcases (split r).1 listed with old | rfl
    · rcases (split r').1 listed' with old' | rfl
      · exact orderly.ids r old r' old' same
      · exact absurd same (ne_of_lt (orderly.fresh r old).1)
    · rcases (split r').1 listed' with old' | rfl
      · exact absurd same.symm (ne_of_lt (orderly.fresh r' old').1)
      · rfl
  · intro r listed
    rcases (split r).1 listed with old | rfl
    · obtain ⟨id, assets⟩ := orderly.fresh r old
      exact ⟨Nat.lt_succ_of_lt id, fun a attached => Nat.lt_succ_of_lt (assets a attached)⟩
    · exact ⟨Nat.lt_succ_self _, fun a attached => by cases attached⟩
  · intro r listed r' listed' x attached x' attached' same
    rcases (split r).1 listed with old | rfl
    · rcases (split r').1 listed' with old' | rfl
      · exact orderly.assets r old r' old' x attached x' attached' same
      · cases attached'
    · cases attached
  · intro r listed j owner
    rcases (split r).1 listed with old | rfl
    · exact orderly.owned r old j owner
    · exact ⟨_, tagged.tag, rfl, owner⟩
  · intro r listed unowned
    rcases (split r).1 listed with old | rfl
    · exact orderly.marked r old unowned
    · cases unowned
  · intro d
    constructor
    · intro listed
      rcases (split _).1 listed with old | new
      · exact absurd old (clear.none d)
      · exact congrArg Published.data new
    · rintro rfl
      exact (split _).2 (.inr rfl)

/-- What a client may make of its release: the same release, with at most one
asset more, of a new ID. -/
structure Amends (fresh n : Nat) (r r' : ReleaseData) : Prop where
  id : r'.id = r.id
  tag : r'.tag_name = r.tag_name
  later : fresh ≤ n
  assets : r'.assets = r.assets ∨ ∃ a, r'.assets = r.assets ++ [a] ∧ a.id = fresh ∧ fresh < n

theorem Amends.mem {fresh n : Nat} {r r' : ReleaseData} (amends : Amends fresh n r r') {a : Asset}
    (attached : a ∈ r'.assets) : a ∈ r.assets ∨ a.id = fresh ∧ fresh < n := by
  rcases amends.assets with same | ⟨x, more, id, less⟩
  · exact .inl (same ▸ attached)
  · rw [more] at attached
    rcases List.mem_append.1 attached with old | last
    · exact .inl old
    · rw [List.mem_singleton.1 last]
      exact .inr ⟨id, less⟩

/-- **A change to a client's release reaches no other.** -/
theorem edit_step {v : GitHub ι} {payload : Payload} {r : ReleaseData}
    (holding : Holding jobs i payload r v) {f : ReleaseData → ReleaseData} {n : Nat}
    (amends : Amends v.fresh n r (f r)) :
    (∀ j, j ≠ i → GitHub.Alike j v { v.edit r.id f with fresh := n }) ∧
      Holding jobs i payload (f r) { v.edit r.id f with fresh := n } := by
  have orderly := holding.orderly
  have mine : ⟨r, some i⟩ ∈ v.releases := (holding.only r).2 rfl
  have split : ∀ x, x ∈ (v.edit r.id f).releases ↔
      x = ⟨f r, some i⟩ ∨ x ∈ v.releases ∧ x.data.id ≠ r.id := by
    intro x
    rw [GitHub.edit, List.mem_map]
    constructor
    · rintro ⟨y, listed, rfl⟩
      by_cases here : y.data.id = r.id
      · rw [if_pos here, holding.release_eq listed here]
        exact .inl rfl
      · rw [if_neg here]
        exact .inr ⟨listed, here⟩
    · rintro (rfl | ⟨listed, other⟩)
      · exact ⟨_, mine, by rw [if_pos rfl]⟩
      · exact ⟨x, listed, by rw [if_neg other]⟩
  have bounds := orderly.fresh _ mine
  refine ⟨?_, ⟨⟨orderly.tags, ?_, ?_, ?_, ?_, ?_⟩, holding.tag⟩, ?_⟩
  · intro j other
    refine ⟨fun _ _ => Iff.rfl, fun d => ?_⟩
    rw [split]
    constructor
    · rintro (new | ⟨listed, -⟩)
      · cases new
        exact absurd rfl other
      · exact listed
    · intro listed
      refine .inr ⟨listed, fun same => ?_⟩
      cases holding.release_eq listed same
      exact other rfl
  · intro x listed x' listed' same
    rcases (split x).1 listed with rfl | ⟨old, unlike⟩
    · rcases (split x').1 listed' with rfl | ⟨old', unlike'⟩
      · rfl
      · exact absurd (same.symm.trans amends.id) unlike'
    · rcases (split x').1 listed' with rfl | ⟨old', unlike'⟩
      · exact absurd (same.trans amends.id) unlike
      · exact orderly.ids x old x' old' same
  · intro x listed
    rcases (split x).1 listed with rfl | ⟨old, -⟩
    · refine ⟨lt_of_lt_of_le (amends.id ▸ bounds.1) amends.later, fun a attached => ?_⟩
      rcases amends.mem attached with old | ⟨id, less⟩
      · exact lt_of_lt_of_le (bounds.2 a old) amends.later
      · exact id ▸ less
    · obtain ⟨id, assets⟩ := orderly.fresh x old
      exact ⟨lt_of_lt_of_le id amends.later, fun a attached =>
        lt_of_lt_of_le (assets a attached) amends.later⟩
  · have fresh : ∀ x ∈ v.releases, ∀ a ∈ x.data.assets, a.id ≠ v.fresh := fun x listed a attached =>
      ne_of_lt ((orderly.fresh x listed).2 a attached)
    intro x listed x' listed' a attached a' attached' same
    rcases (split x).1 listed with rfl | ⟨old, -⟩
    · rcases (split x').1 listed' with rfl | ⟨old', -⟩
      · rcases amends.assets with unchanged | ⟨new, more, id, -⟩
        · exact orderly.assets _ mine _ mine a (unchanged ▸ attached) a' (unchanged ▸ attached') same
        · dsimp only at attached attached'
          rw [more, List.mem_append, List.mem_singleton] at attached attached'
          rcases attached with inside | rfl
          · rcases attached' with inside' | rfl
            · exact orderly.assets _ mine _ mine a inside a' inside' same
            · exact absurd (same.trans id) (fresh _ mine a inside)
          · rcases attached' with inside' | rfl
            · exact absurd (same.symm.trans id) (fresh _ mine a' inside')
            · rfl
      · rcases amends.mem attached with inside | ⟨id, -⟩
        · exact orderly.assets _ mine x' old' a inside a' attached' same
        · exact absurd (same.symm.trans id) (fresh x' old' a' attached')
    · rcases (split x').1 listed' with rfl | ⟨old', -⟩
      · rcases amends.mem attached' with inside | ⟨id, -⟩
        · exact orderly.assets x old _ mine a attached a' inside same
        · exact absurd (same.trans id) (fresh x old a attached)
      · exact orderly.assets x old x' old' a attached a' attached' same
  · intro x listed j owner
    rcases (split x).1 listed with rfl | ⟨old, -⟩
    · obtain ⟨t, held, named, owned⟩ := orderly.owned _ mine j owner
      exact ⟨t, held, named.trans amends.tag.symm, owned⟩
    · exact orderly.owned x old j owner
  · intro x listed unowned
    rcases (split x).1 listed with rfl | ⟨old, -⟩
    · cases unowned
    · exact orderly.marked x old unowned
  · intro d
    constructor
    · intro listed
      rcases (split _).1 listed with new | ⟨old, unlike⟩
      · exact congrArg Published.data new
      · exact absurd (congrArg ReleaseData.id ((holding.only d).1 old)) unlike
    · rintro rfl
      exact (split _).2 (.inl rfl)

/-! ## One run through the transaction -/

theorem aside_then {α β : Type} {d : Api α} {f : α → Api β} {P : α → Prop}
    {final : β → GitHub ι → Prop} {w : GitHub ι} (only : d.Only Aside P)
    (rest : ∀ a v, P a → Undisturbed jobs i w v →
      (f a).Meets (stageTerms platform jobs i) final v) :
    (d >>= f).Meets (stageTerms platform jobs i) final w :=
  (only.meets fun _ _ _ _ aside served => aside_keeps aside served).andThen
    fun a v ⟨answered, others⟩ => rest a v answered others

theorem reads_effect {v w : GitHub ι} {q : Request} {a : Answer q} (reads : Reads q)
    (effect : GitHub.Effect platform i v q a w) : w = v := by
  cases q <;> first | exact False.elim reads | exact effect.1

/-- **A read tells the truth about one moment** between the call and its return. -/
theorem truth_then {β : Type} {q : Request} {f : Answer q → Api β} {final : β → GitHub ι → Prop}
    {w : GitHub ι} (reads : Reads q)
    (rest : ∀ a u v, Undisturbed jobs i w u → GitHub.Effect platform i u q a u →
      Undisturbed jobs i u v → (f a).Meets (stageTerms platform jobs i) final v) :
    (Api.api q >>= f).Meets (stageTerms platform jobs i) final w := by
  refine Dialogue.Meets.andThen (P := fun a v => ∃ u, Undisturbed jobs i w u ∧
    GitHub.Effect platform i u q a u ∧ Undisturbed jobs i u v) ?_ ?_
  · intro u others r u' served
    refine ⟨(aside_keeps (reads_aside q reads) served).1, ?_⟩
    rcases served with ⟨a, rfl, effect⟩ | ⟨e, rfl, -⟩
    · obtain rfl := reads_effect reads effect
      exact fun v further => ⟨u', others, effect, further⟩
    · exact trivial
  · rintro a v ⟨u, others, effect, further⟩
    exact rest a u v others effect further

theorem createTag_meets {payload : Payload} {w : GitHub ι} (clear : Clear jobs i w) :
    (Api.api (.createTag payload.tag_name payload.target_commitish)).Meets
      (stageTerms platform jobs i) (fun _ v => Clear jobs i v ∧ Tagged jobs i payload v) w := by
  intro v others r v' served
  have here := clear.later others
  have done : ∀ {a}, GitHub.Effect platform i v
      (.createTag payload.tag_name payload.target_commitish) a v' →
      (stageTerms platform jobs i).keep v v' ∧ Clear jobs i v' ∧ Tagged jobs i payload v' := by
    intro a effect
    obtain ⟨orderly, alike, held, releases, tags⟩ := createTag_step effect here.orderly
    refine ⟨⟨fun j other _ => ⟨orderly, alike j other⟩, fun _ => ⟨orderly, fun own =>
      own.grown tags releases⟩⟩, ⟨orderly, fun d => ?_⟩, ⟨orderly, held⟩⟩
    rw [releases]
    exact here.none d
  rcases served with ⟨a, rfl, effect⟩ | ⟨e, rfl, rfl | ⟨a, effect⟩⟩
  · obtain ⟨kept, clear', tagged⟩ := done effect
    exact ⟨kept, fun x further => ⟨clear'.later further, tagged.later further⟩⟩
  · exact ⟨⟨fun j _ orderly => ⟨orderly, .refl j _⟩, fun orderly => ⟨orderly, id⟩⟩, trivial⟩
  · exact ⟨(done effect).1, trivial⟩

/-- After a create call of unknown outcome: no release yet, or the draft. -/
def MayHold (jobs : ι → Job) (i : ι) (payload : Payload) (w : GitHub ι) : Prop :=
  Tagged jobs i payload w ∧ (Clear jobs i w ∨ ∃ id, Holding jobs i payload (payload.draft id) w)

theorem MayHold.later {payload : Payload} {v w : GitHub ι} (may : MayHold jobs i payload v)
    (others : Undisturbed jobs i v w) : MayHold jobs i payload w := by
  obtain ⟨tagged, clear | ⟨id, holding⟩⟩ := may
  · exact ⟨tagged.later others, .inl (clear.later others)⟩
  · exact ⟨tagged.later others, .inr ⟨id, holding.later others⟩⟩

/-- **The readback adopts nobody else's draft**: a release with the tag and the
text of this publication is this client's. -/
theorem MayHold.adopts {payload : Payload} {w : GitHub ι} (may : MayHold jobs i payload w)
    (marked : (jobs i).marked = some payload.body) {x : Published ι} (listed : x ∈ w.releases)
    {id : Nat} (draft : x.data = payload.draft id) : Holding jobs i payload x.data w := by
  obtain ⟨tagged, rest⟩ := may
  have orderly := tagged.orderly
  have mine : x.owner = some i := by
    cases owner : x.owner with
    | none => exact absurd (by rw [draft]; rfl) (orderly.marked x listed owner i _ marked)
    | some j =>
        obtain ⟨t, held, named, owned⟩ := orderly.owned x listed j owner
        rw [draft] at named
        obtain rfl := orderly.tags t held _ tagged.tag named
        exact owned.symm
  have own : ⟨x.data, some i⟩ ∈ w.releases := by rw [← mine]; exact listed
  rcases rest with clear | ⟨id', holding⟩
  · exact absurd own (clear.none _)
  · rw [(holding.only _).1 own]
    exact holding

theorem checked_only {A : Request → Prop} {payload : Payload} {id : Nat} {value : ReleaseData} :
    (checked_release payload id value).Only A fun _ => value = payload.draft id :=
  (Api.require_only _ _).mono fun _ same => of_decide_eq_true same

theorem reconcile_meets {payload : Payload} (marked : (jobs i).marked = some payload.body)
    {confirm : Api Unit} (reads : confirm.Only Reads fun _ => True) {w : GitHub ι}
    (may : MayHold jobs i payload w) :
    (reconcile_created_release payload confirm).Meets (stageTerms platform jobs i)
      (fun release v => ∃ id, release = payload.draft id ∧ Holding jobs i payload release v) w := by
  unfold reconcile_created_release
  refine aside_then (reads.asks reads_aside) fun _ v₁ _ others₁ => ?_
  refine truth_then trivial fun first u₂ v₂ others₂ _ further₂ => ?_
  refine truth_then trivial fun second u₃ v₃ others₃ listing further₃ => ?_
  have may₃ := (((may.later others₁).later others₂).later further₂).later others₃
  obtain ⟨-, rfl⟩ := listing
  refine aside_then (Api.require_only _ _) fun _ v₄ _ others₄ => ?_
  split
  case h_2 => exact trivial
  case h_3 => exact trivial
  case h_1 listed original matched _ =>
    refine aside_then checked_only fun _ v₅ draft others₅ => ?_
    refine aside_then checked_only fun _ v₆ _ others₆ => ?_
    have member : listed ∈ (u₃.releases.map Published.data).filter
        fun r => r.tag_name = payload.tag_name := by
      rw [matched]
      exact List.mem_singleton_self listed
    obtain ⟨x, found, rfl⟩ := List.mem_map.1 (List.mem_filter.1 member).1
    have holding := ((((may₃.adopts marked found draft).later further₃).later others₄).later
      others₅).later others₆
    refine aside_then (Api.api_only trivial) fun _ v₇ _ others₇ => ?_
    refine aside_then checked_only fun _ v₈ _ others₈ => ?_
    refine aside_then (Api.api_only trivial) fun _ v₉ _ others₉ => ?_
    refine aside_then (Api.require_only _ _) fun _ x₁ _ ox₁ => ?_
    refine aside_then (Api.api_only trivial) fun _ x₂ _ ox₂ => ?_
    refine aside_then (Api.require_only _ _) fun _ x₃ _ ox₃ => ?_
    refine aside_then (reads.asks reads_aside) fun _ x₄ _ ox₄ => ?_
    have holding₄ := ((((((holding.later others₇).later others₈).later others₉).later ox₁).later
      ox₂).later ox₃).later ox₄
    refine truth_then trivial fun final u₅ x₅ ou₅ answer ox₅ => ?_
    obtain ⟨-, y, present, same, rfl⟩ := answer
    rw [(holding₄.later ou₅).release_eq present same]
    refine aside_then checked_only fun _ x₆ _ ox₆ => ?_
    refine aside_then (Api.api_only trivial) fun _ x₇ _ ox₇ => ?_
    refine aside_then (Api.require_only _ _) fun _ x₈ _ ox₈ => fun x₉ ox₉ => ?_
    exact ⟨_, draft, (((((holding₄.later ou₅).later ox₅).later ox₆).later ox₇).later ox₈).later ox₉⟩

theorem create_release_meets {payload : Payload} {confirm_create : Option (Api Unit)}
    (readback : ∀ confirm, confirm_create = some confirm →
      confirm.Only Reads (fun _ => True) ∧ (jobs i).marked = some payload.body)
    {w : GitHub ι} (clear : Clear jobs i w) (tagged : Tagged jobs i payload w) :
    (create_release payload confirm_create).Meets (stageTerms platform jobs i)
      (fun release v => ∃ id, release = payload.draft id ∧ Holding jobs i payload release v) w := by
  intro v others r v' served
  have clear' := clear.later others
  have tagged' := tagged.later others
  have done : ∀ {a}, GitHub.Effect platform i v (.createRelease payload) a v' →
      (stageTerms platform jobs i).keep v v' ∧ a = payload.draft v.fresh ∧
        Holding jobs i payload (payload.draft v.fresh) v' := by
    intro a effect
    obtain ⟨alike, answer, holding⟩ := createRelease_step effect tagged' clear'
    exact ⟨⟨fun j other _ => ⟨holding.orderly, alike j other⟩, fun _ => ⟨holding.orderly, fun _ =>
      holding.own _ rfl⟩⟩, answer, holding⟩
  rcases served with ⟨a, rfl, effect⟩ | ⟨e, rfl, outcome⟩
  · obtain ⟨kept, answer, holding⟩ := done effect
    obtain rfl : a = payload.draft v.fresh := answer
    exact ⟨kept, fun x further => ⟨v.fresh, rfl, holding.later further⟩⟩
  · have after : (stageTerms platform jobs i).keep v v' ∧ MayHold jobs i payload v' := by
      rcases outcome with rfl | ⟨a, effect⟩
      · exact ⟨⟨fun j _ orderly => ⟨orderly, .refl j _⟩, fun orderly => ⟨orderly, id⟩⟩,
          tagged', .inl clear'⟩
      · obtain ⟨kept, -, holding⟩ := done effect
        exact ⟨kept, holding.toTagged, .inr ⟨_, holding⟩⟩
    refine ⟨after.1, ?_⟩
    cases e with
    | missing => exact trivial
    | other => exact trivial
    | ambiguous =>
        cases confirm_create with
        | none => exact trivial
        | some confirm =>
            obtain ⟨reads, marked⟩ := readback confirm rfl
            exact reconcile_meets marked reads after.2

/-! ## Filling and publishing the draft -/

/-- The draft of a create request with the assets it has so far. -/
def Payload.filled (payload : Payload) (id : Nat) (assets : List Asset) : ReleaseData :=
  { payload.draft id with assets := assets }

theorem upload_meets {payload : Payload} {id : Nat} {assets : List Asset} (path : Staged)
    {w : GitHub ι} (holding : Holding jobs i payload (payload.filled id assets) w) :
    (upload id path).Meets (stageTerms platform jobs i)
      (fun _ v => ∃ more, Holding jobs i payload (payload.filled id more) v) w := by
  unfold upload
  refine Dialogue.Meets.andThen (P := fun _ v => ∃ more, Holding jobs i payload
    (payload.filled id more) v) ?_ ?_
  · intro v others r v' served
    have here := holding.later others
    have done : ∀ {a : Asset}, GitHub.Effect platform i v (.upload id path.1 path.2) a v' →
        (stageTerms platform jobs i).keep v v' ∧
          Holding jobs i payload (payload.filled id (assets ++ [a])) v' := by
      rintro a ⟨-, new, -, rfl⟩
      obtain ⟨alike, holding'⟩ := edit_step here (f := fun r => r.attach a)
        (n := v.fresh + 1) ⟨rfl, rfl, Nat.le_succ _, .inr ⟨a, rfl, new, Nat.lt_succ_self _⟩⟩
      exact ⟨⟨fun j other _ => ⟨holding'.orderly, alike j other⟩, fun _ => ⟨holding'.orderly,
        fun _ => holding'.own _ rfl⟩⟩, holding'⟩
    rcases served with ⟨a, rfl, effect⟩ | ⟨e, rfl, rfl | ⟨a, effect⟩⟩
    · obtain ⟨kept, holding'⟩ := done effect
      exact ⟨kept, fun x further => ⟨_, holding'.later further⟩⟩
    · exact ⟨⟨fun j _ orderly => ⟨orderly, .refl j _⟩, fun orderly => ⟨orderly, fun own => own⟩⟩,
        trivial⟩
    · exact ⟨(done effect).1, trivial⟩
  · rintro asset v ⟨more, holding'⟩
    refine ((Api.require_only _ _).meets fun _ _ _ _ aside served =>
      aside_keeps aside served).mono ?_
    rintro - x ⟨-, others⟩
    exact ⟨more, holding'.later others⟩

theorem upload_all_meets {payload : Payload} {id : Nat} (stage : List Staged) :
    ∀ {assets : List Asset} {w : GitHub ι}, Holding jobs i payload (payload.filled id assets) w →
      (upload_all id stage).Meets (stageTerms platform jobs i)
        (fun _ v => ∃ more, Holding jobs i payload (payload.filled id more) v) w := by
  induction stage with
  | nil => exact fun holding v others => ⟨_, holding.later others⟩
  | cons path rest ih =>
      intro assets w holding
      exact (upload_meets path holding).andThen fun _ v ⟨more, holding'⟩ => ih holding'

/-- **Every asset that passes the comparison has the bytes that were staged for it.** -/
theorem verify_all_meets {payload : Payload} {id : Nat} {assets : List Asset}
    (stage : List Staged) (uploaded : List Asset) :
    ∀ {w : GitHub ι}, Holding jobs i payload (payload.filled id assets) w →
      (∀ a ∈ uploaded, a ∈ assets) →
      (verify_all platform stage uploaded).Meets (stageTerms platform jobs i)
        (fun _ v => (∀ a ∈ uploaded, stage.lookup a.name = some a.content) ∧
          Holding jobs i payload (payload.filled id assets) v) w := by
  induction uploaded with
  | nil => exact fun holding _ v others => ⟨fun a listed => (by cases listed), holding.later others⟩
  | cons item rest ih =>
      intro w holding listed
      unfold verify_all
      split
      case h_2 => exact trivial
      case h_1 content staged =>
        refine Dialogue.Meets.andThen (P := fun _ v => item.content = content ∧
          Holding jobs i payload (payload.filled id assets) v) ?_ ?_
        · unfold verify_uploaded_asset
          refine aside_then (Api.require_only _ _) fun _ v₁ _ others₁ => ?_
          refine truth_then trivial fun downloaded u v₂ others₂ answer further₂ => ?_
          obtain ⟨-, x, present, a, attached, same, rfl⟩ := answer
          have here := (holding.later others₁).later others₂
          have mine := (here.only _).2 rfl
          obtain rfl := here.orderly.assets x present _ mine a attached item
            (listed item List.mem_cons_self) same
          refine ((Api.require_only _ _).meets fun _ _ _ _ aside served =>
            aside_keeps aside served).mono ?_
          rintro - v₃ ⟨equal, others₃⟩
          have identities := of_decide_eq_true equal
          exact ⟨platform.sha256_injective (congrArg Prod.snd identities),
            (here.later further₂).later others₃⟩
        · rintro _ v ⟨rfl, holding'⟩
          refine (ih holding' fun a found => listed a (List.mem_cons_of_mem _ found)).mono ?_
          rintro - x ⟨others, holding''⟩
          exact ⟨List.forall_mem_cons.2 ⟨staged, others⟩, holding''⟩

/-- An inventory of the right length and names, each with its staged bytes, is
the stage. -/
theorem perm_stage {stage : List Staged} {uploaded : List Asset}
    (distinct : (stage.map Prod.fst).Nodup) (length : uploaded.length = stage.length)
    (names : ∀ n ∈ stage.map Prod.fst, n ∈ uploaded.map Asset.name)
    (bytes : ∀ a ∈ uploaded, stage.lookup a.name = some a.content) :
    (uploaded.map fun a => (a.name, a.content)).Perm stage := by
  have keys : ∀ {name : String} {content content' : Bytes}, (name, content) ∈ stage →
      stage.lookup name = some content' → content = content' := by
    intro name content content' listed found
    have listed' : (name, content') ∈ stage := by
      clear distinct length names bytes listed
      induction stage with
      | nil => cases found
      | cons first rest ih =>
          rw [List.lookup_cons] at found
          split at found
          · rename_i same
            cases found
            rw [beq_iff_eq] at same
            rw [same]
            exact List.mem_cons_self
          · exact List.mem_cons_of_mem _ (ih found)
    exact congrArg Prod.snd (List.inj_on_of_nodup_map distinct listed listed' rfl)
  have subset : stage ⊆ uploaded.map fun a => (a.name, a.content) := by
    rintro ⟨name, content⟩ listed
    obtain ⟨a, found, rfl⟩ := List.mem_map.1 (names name (List.mem_map_of_mem listed))
    rw [keys listed (bytes a found)]
    exact List.mem_map.2 ⟨a, found, rfl⟩
  have sub := (List.Nodup.of_map _ distinct).subperm subset
  exact (sub.perm_of_length_le (by rw [List.length_map, length])).symm

/-- The release as it is when it is public. -/
def Payload.released (payload : Payload) (id : Nat) (assets : List Asset) : ReleaseData :=
  { payload.filled id assets with draft := false }

/-- **A draft with the staged files becomes a public release with the staged files.** -/
theorem publishRelease_meets {payload : Payload} (asked : (jobs i).payload = some payload)
    {id : Nat} {assets : List Asset} {w : GitHub ι}
    (staged : (assets.map fun a => (a.name, a.content)).Perm (jobs i).stage)
    (holding : Holding jobs i payload (payload.filled id assets) w) :
    (Api.api (.publishRelease id payload.prerelease)).Meets (stageTerms platform jobs i)
      (fun r v => r = payload.released id assets ∧
        Holding jobs i payload (payload.released id assets) v) w := by
  intro v others r v' served
  have held := holding.later others
  have done : ∀ {a : ReleaseData},
      GitHub.Effect platform i v (.publishRelease id payload.prerelease) a v' →
      (stageTerms platform jobs i).keep v v' ∧ a = payload.released id assets ∧
        Holding jobs i payload (payload.released id assets) v' := by
    rintro a ⟨⟨y, present, same, rfl⟩, rfl⟩
    obtain ⟨alike, holding'⟩ := edit_step held (n := v.fresh)
      (f := fun r => { r with draft := false, prerelease := payload.prerelease })
      ⟨rfl, rfl, le_refl _, .inl rfl⟩
    refine ⟨⟨fun j other _ => ⟨holding'.orderly, alike j other⟩, fun _ => ⟨holding'.orderly,
      fun _ => ⟨fun d d' one two => ?_, fun d listed _ => ?_⟩⟩⟩, ?_, holding'⟩
    · rw [(holding'.only d).1 one, (holding'.only d').1 two]
    · rw [(holding'.only d).1 listed]
      exact ⟨⟨payload, asked, rfl, rfl, rfl, rfl, holding'.tag⟩, staged⟩
    · rw [held.release_eq present same]
      rfl
  rcases served with ⟨a, rfl, effect⟩ | ⟨e, rfl, rfl | ⟨a, effect⟩⟩
  · obtain ⟨kept, answer, holding'⟩ := done effect
    exact ⟨kept, fun x further => ⟨answer, holding'.later further⟩⟩
  · exact ⟨⟨fun j _ orderly => ⟨orderly, .refl j _⟩, fun orderly => ⟨orderly, fun own => own⟩⟩,
      trivial⟩
  · exact ⟨(done effect).1, trivial⟩

/-- The release is public, and its client's. -/
structure Public (jobs : ι → Job) (i : ι) (r : ReleaseData) (w : GitHub ι) : Prop where
  orderly : w.Orderly jobs
  listed : ⟨r, some i⟩ ∈ w.releases
  made : r.draft = false

theorem Public.later {r : ReleaseData} {v w : GitHub ι} (published : Public jobs i r v)
    (others : Undisturbed jobs i v w) : Public jobs i r w :=
  ⟨(others published.orderly).1, ((others published.orderly).2.releases r).2 published.listed,
    published.made⟩

/-- **The transaction keeps its terms**: what it publishes is its own release,
with the staged files. -/
theorem prepared_meets_stage {payload : Payload} (asked : (jobs i).payload = some payload)
    (distinct : ((jobs i).stage.map Prod.fst).Nodup) {confirm_create : Option (Api Unit)}
    (readback : ∀ confirm, confirm_create = some confirm →
      confirm.Only Reads (fun _ => True) ∧ (jobs i).marked = some payload.body)
    {w : GitHub ι} (clear : Clear jobs i w) :
    (publish_prepared platform payload (jobs i).stage confirm_create).Meets
      (stageTerms platform jobs i) (Public jobs i) w := by
  unfold publish_prepared
  refine aside_then ((ensure_absent_only _).asks reads_aside) fun _ v₁ _ others₁ => ?_
  refine (createTag_meets (clear.later others₁)).andThen ?_
  rintro - v₂ ⟨clear₂, tagged₂⟩
  refine (create_release_meets readback clear₂ tagged₂).andThen ?_
  rintro - v₃ ⟨id, rfl, holding₃⟩
  refine aside_then (Api.require_only _ _) fun _ v₄ _ others₄ => ?_
  have empty : Holding jobs i payload (payload.filled id []) v₄ := holding₃.later others₄
  refine (upload_all_meets (jobs i).stage empty).andThen ?_
  rintro - v₅ ⟨assets, holding₅⟩
  refine truth_then trivial fun uploaded u₆ v₆ others₆ answer further₆ => ?_
  obtain ⟨-, y, present, same, rfl⟩ := answer
  have here := holding₅.later others₆
  rw [here.release_eq present same]
  have holding₆ := here.later further₆
  refine aside_then (Api.require_only _ _) fun _ v₇ inventory others₇ => ?_
  simp only [Bool.and_eq_true, decide_eq_true_eq, List.all_eq_true, List.contains_eq_mem]
    at inventory
  obtain ⟨⟨length, -⟩, names⟩ := inventory
  refine (verify_all_meets (jobs i).stage _ (holding₆.later others₇) fun a found => found).andThen ?_
  rintro - v₈ ⟨bytes, holding₈⟩
  have staged := perm_stage distinct length names bytes
  refine aside_then (Api.api_only trivial) fun _ v₉ _ others₉ => ?_
  refine aside_then (Api.require_only _ _) fun _ v₁₀ _ others₁₀ => ?_
  refine (publishRelease_meets asked staged ((holding₈.later others₉).later others₁₀)).andThen ?_
  rintro - v₁₁ ⟨rfl, holding₁₁⟩
  refine aside_then (Api.require_only _ _) fun _ v₁₂ _ others₁₂ => fun x further => ?_
  have holding := (holding₁₁.later others₁₂).later further
  exact ⟨holding.orderly, (holding.only _).2 rfl, rfl⟩

/-! ## Whole jobs -/

theorem begin_aside (plan : Plan) (run_id : Int) (parent : Option Parent) (promotion : Bool) :
    (begin_publication platform plan run_id parent promotion).Only Aside fun _ => True := by
  unfold begin_publication
  refine (Dialogue.Only.ofExcept (P := fun _ => True) fun _ _ => trivial).bind fun _ _ => ?_
  refine (read_only.asks reads_aside).bind fun read _ => ?_
  have tail : (do
      let number ← Dialogue.ofExcept plan.number
      write_state platform { read.1 with publication_floor := number } read.2
      return platform.encode { read.1 with publication_floor := number } : Api Bytes).Only Aside
        fun _ => True :=
    (Dialogue.Only.ofExcept (P := fun _ => True) fun _ _ => trivial).bind fun _ _ =>
      (Api.api_only trivial).bind fun _ _ => trivial
  cases promotion with
  | true => exact ((verify_promotion_only read.1 plan).asks reads_aside).bind fun _ _ => tail
  | false =>
      exact ((verify_reservation_only read.1 plan run_id parent).asks reads_aside).bind
        fun _ _ => tail

theorem reserve_aside (digest : PolicyDigest) (request : Reserve) :
    (reserve_plan platform digest request).Only Aside fun _ => True := by
  have given : ∀ {α : Type} {x : Except Fault α},
      (Dialogue.ofExcept x : Api α).Only Aside fun _ => True :=
    Dialogue.Only.ofExcept fun _ _ => trivial
  unfold reserve_plan
  refine given.bind fun run_key _ => (read_only.asks reads_aside).bind fun read _ => ?_
  dsimp only
  split
  · refine given.bind fun _ _ => (Api.require_only _ _).bind fun _ _ => ?_
    exact (Api.require_only _ _).bind fun _ _ => trivial
  · refine ((newSequence_only _ _).asks reads_aside).bind fun sequence _ => ?_
    refine (Api.require_only _ _).bind fun _ _ => given.bind fun plan _ => ?_
    refine ((ensure_absent_only _).asks reads_aside).bind fun _ _ => ?_
    refine (Api.optional_only trivial).bind fun ref _ => ?_
    split
    · exact (Api.api_only trivial).bind fun _ _ => (Api.api_only trivial).bind fun _ _ => trivial
    · exact (Api.api_only trivial).bind fun _ _ => trivial

theorem publish_meets_stage {p : Publication} (job : jobs i = .publish p) {w : GitHub ι}
    (clear : Clear jobs i w) :
    (publish_versioned platform p).Meets (stageTerms platform jobs i) (Public jobs i) w := by
  have asked : (jobs i).payload = some p.payload := by rw [job]; rfl
  have stage : (jobs i).stage = p.stage := by rw [job]; rfl
  unfold publish_versioned
  refine aside_then (Dialogue.Only.ofExcept (P := fun _ => True) fun _ _ => trivial)
    fun _ v₁ _ others₁ => ?_
  refine aside_then ((verify_reservation_reads _ _ _).asks reads_aside) fun _ v₂ _ others₂ => ?_
  refine aside_then ((ensure_absent_only _).asks reads_aside) fun _ v₃ _ others₃ => ?_
  have tail : ∀ v : GitHub ι, Clear jobs i v →
      (do
        verify_reservation platform p.plan p.run_id p.parent
        let consumed ← begin_publication platform p.plan p.run_id p.parent false
        publish_prepared platform p.payload p.stage (some (create_confirmation consumed)) :
          Api ReleaseData).Meets (stageTerms platform jobs i) (Public jobs i) v := by
    intro v clear_v
    refine aside_then ((verify_reservation_reads _ _ _).asks reads_aside) fun _ x _ others => ?_
    refine aside_then (begin_aside _ _ _ _) fun consumed y _ others' => ?_
    have distinct : ((jobs i).stage.map Prod.fst).Nodup := by rw [stage]; exact p.distinct
    rw [← stage]
    refine prepared_meets_stage asked distinct ?_ ((clear_v.later others).later others')
    rintro confirm ⟨⟩
    exact ⟨create_confirmation_reads consumed, by rw [job]; rfl⟩
  have clear₃ := ((clear.later others₁).later others₂).later others₃
  split
  · exact aside_then ((ensure_absent_only _).asks reads_aside) fun _ v₄ _ others₄ =>
      tail v₄ (clear₃.later others₄)
  · exact tail v₃ clear₃

theorem promote_meets_stage {p : Publication} (job : jobs i = .promote p) {w : GitHub ι}
    (clear : Clear jobs i w) :
    (promote platform p).Meets (stageTerms platform jobs i) (Public jobs i) w := by
  have asked : (jobs i).payload = some p.stable := by rw [job]; rfl
  have stage : (jobs i).stage = p.stage := by rw [job]; rfl
  have distinct : ((jobs i).stage.map Prod.fst).Nodup := by rw [stage]; exact p.distinct
  unfold promote
  refine aside_then ((verify_promotion_order_reads _).asks reads_aside) fun _ v₁ _ others₁ => ?_
  refine aside_then ((ensure_absent_only _).asks reads_aside) fun _ v₂ _ others₂ => ?_
  refine aside_then ((verify_promotion_order_reads _).asks reads_aside) fun _ v₃ _ others₃ => ?_
  refine aside_then (begin_aside _ _ _ _) fun _ v₄ _ others₄ => ?_
  rw [← stage]
  exact prepared_meets_stage asked distinct (fun _ other => (by cases other))
    ((((clear.later others₁).later others₂).later others₃).later others₄)

/-- **Every job keeps the terms of the tags and releases**, and has its release
public when it says so. -/
theorem job_meets_stage (digest : PolicyDigest) {w : GitHub ι} (clear : Clear jobs i w) :
    ((jobs i).program platform digest).Meets (stageTerms platform jobs i)
      (fun o v => ∀ r, o = .release r → Public jobs i r v) w := by
  cases job : jobs i with
  | reserve request =>
      refine aside_then (reserve_aside digest request) fun plan v _ _ => ?_
      intro x _ r same
      cases same
  | publish p =>
      refine (publish_meets_stage job clear).andThen fun r v published => ?_
      rintro x further _ ⟨⟩
      exact published.later further
  | promote p =>
      refine (promote_meets_stage job clear).andThen fun r v published => ?_
      rintro x further _ ⟨⟩
      exact published.later further

/-! ## All the runs -/

/-- A step of the others, who may do anything to their own tags and releases. -/
def Beside (jobs : ι → Job) (v w : GitHub ι) : Prop :=
  v.Orderly jobs → w.Orderly jobs ∧ ∀ i, GitHub.Alike i v w

/-- No run has made a release yet. -/
def Unowned (jobs : ι → Job) (w : GitHub ι) : Prop :=
  w.Orderly jobs ∧ ∀ i d, ⟨d, some i⟩ ∉ w.releases

theorem stage_agreement (platform : Platform) (jobs : ι → Job) :
    Dialogue.Agreement (stageTerms platform jobs) (Beside jobs) where
  clients := fun _ j other _ _ kept => kept.1 j other.symm
  others := fun j _ _ beside orderly => ⟨(beside orderly).1, (beside orderly).2 j⟩

/-- What every step keeps of the tags and releases. -/
def Staying (jobs : ι → Job) (v w : GitHub ι) : Prop :=
  v.Orderly jobs → w.Orderly jobs ∧ ∀ i, Own (jobs i) i v → Own (jobs i) i w

variable [DecidableEq ι] {digest : PolicyDigest} {s : GitHub ι × (ι → Api Outcome)}

theorem staying_keeps (i : ι) {v w : GitHub ι} (kept : (stageTerms platform jobs i).keep v w) :
    Staying jobs v w := by
  intro orderly
  obtain ⟨others, mine⟩ := kept
  refine ⟨(mine orderly).1, fun j own => ?_⟩
  by_cases same : j = i
  · subst same
    exact (mine orderly).2 own
  · exact own.alike (others j same orderly).2

/-- **A public release is what its run was to publish.**  In every reached state,
whatever calls failed or lost their replies, a run has one release at most, and no
other run has one under its tag; once it is public it has the tag, source commit,
text and kind that were asked for and exactly the staged files, byte for byte, and
its tag is the run's; and a run that reports success has its release public. -/
theorem published_faithful
    (reached : (runs platform digest jobs (Beside jobs) (Unowned jobs)).Reaches Machine.Any s)
    (i : ι) :
    (∀ d, ⟨d, some i⟩ ∈ s.1.releases →
      (d.draft = false → Faithful (jobs i) i s.1 d) ∧
      ∀ r ∈ s.1.releases, r.owner = some i ∨ r.owner.isSome ∧ r.data.tag_name = d.tag_name →
        r = ⟨d, some i⟩) ∧
    ∀ r, s.2 i = .done (.release r) → ⟨r, some i⟩ ∈ s.1.releases ∧ r.draft = false := by
  have initially : ∀ w, Unowned jobs w → ∀ i, ((jobs i).program platform digest).Meets
      (stageTerms platform jobs i) (fun o v => ∀ r, o = .release r → Public jobs i r v) w :=
    fun w unowned i => job_meets_stage digest ⟨unowned.1, unowned.2 i⟩
  have meets := Dialogue.reached_meets (stage_agreement platform jobs) initially reached i
  obtain ⟨first, ⟨⟨orderly, none⟩, same⟩, run⟩ := reached
  obtain ⟨orderly', owns⟩ := Dialogue.run_keeps (G := Staying jobs)
    (fun w orderly => ⟨orderly, fun _ own => own⟩)
    (fun one two orderly => ⟨(two (one orderly).1).1, fun i own =>
      (two (one orderly).1).2 i ((one orderly).2 i own)⟩)
    (stage_agreement platform jobs) (fun i _ _ kept => staying_keeps i kept)
    (fun v w beside orderly => ⟨(beside orderly).1, fun i own => own.alike ((beside orderly).2 i)⟩)
    (fun i => by rw [same]; exact initially first.1 ⟨orderly, none⟩ i) run orderly
  have own := owns i (Clear.own (jobs i) ⟨orderly, none i⟩)
  refine ⟨fun d listed => ⟨own.faithful d listed, fun r found owner => ?_⟩, fun r answered => ?_⟩
  · have mine : r.owner = some i := by
      rcases owner with mine | ⟨owner, tag⟩
      · exact mine
      · obtain ⟨j, owner⟩ := Option.isSome_iff_exists.1 owner
        obtain ⟨t, held, named, owned⟩ := orderly'.owned r found j owner
        obtain ⟨t', held', named', owned'⟩ := orderly'.owned _ listed i rfl
        obtain rfl := orderly'.tags t held t' held' (named.trans (tag.trans named'.symm))
        exact owner.trans (owned.symm.trans owned')
    obtain ⟨data, _⟩ := r
    obtain rfl : _ = some i := mine
    rw [own.single data d found listed]
  · rw [answered] at meets
    have published := meets s.1 (fun orderly => ⟨orderly, .refl i _⟩) r rfl
    exact ⟨published.listed, published.made⟩

theorem rehearsal_unowned : Unowned Rehearsal.jobs Rehearsal.start := by
  refine ⟨⟨?_, ?_, ?_, ?_, ?_, ?_⟩, fun _ _ found => (by cases found)⟩
  all_goals intro _ found
  all_goals cases found

theorem published_faithful_rehearsed : ∃ d, ⟨d, some 2⟩ ∈ (Rehearsal.world 4).releases ∧
    d.draft = false ∧ Faithful (Rehearsal.jobs 2) 2 (Rehearsal.world 4) d := by
  obtain ⟨s, t, u, reached, -, run, -, more, four⟩ := Rehearsal.rehearsed rehearsal_unowned
  obtain ⟨r, first⟩ := Rehearsal.publishes_first
  obtain ⟨faithful, success⟩ := published_faithful ((reached.further run).further more) 2
  obtain ⟨listed, made⟩ := success r (four.answered 2 (by decide) _ first)
  rw [← four.world]
  exact ⟨r, listed, made, (faithful r listed).1 made⟩

end Publication

end InverterGateway.Release

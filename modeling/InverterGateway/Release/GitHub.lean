/-
# Release.GitHub — the part of GitHub the release tools talk to

The tools of a release run in separate workflow runs and meet only in the
repository: in one JSON file on a metadata branch, in the tags and in the
releases.  `Request` is the set of API calls they make, `Serve` what GitHub may
do with one: have its effect and say so, refuse it, or fail to answer, with or
without the effect.  A read tells the truth about the moment it is served; an
upload may store other bytes than it was sent.

The file is replaced by compare-and-swap on the blob it replaces: the write
names the hash of the old content, or no hash when the file is not there yet.

Two fields of the state are not GitHub's.  `owner` says which client made a tag
or a release, and `raises` lists, in order, which client raised the publication
floor and how far.  No client reads either.
-/
import InverterGateway.Release.Plan
import InverterGateway.Theory.Dialogue

namespace InverterGateway.Release

set_option autoImplicit false

open InverterGateway.Theory

abbrev Bytes := List UInt8

/-! ## The ledger file -/

/-- The acceptance a stable build was reserved with, by its fields. -/
abbrev Parent := List (String × String)

/-- A reservation: the plan, the `parent` field if the record has one (`null` or
an acceptance), and the names of any other fields. -/
structure Reservation where
  plan : Plan
  parent : Option (Option Parent)
  others : List String := []
  deriving DecidableEq

structure Ledger where
  schema : Int
  counter : Int
  publication_floor : Int
  plans : List (String × Reservation)
  deriving DecidableEq

def Ledger.empty : Ledger := ⟨1, 0, 0, []⟩

def Ledger.keys (state : Ledger) : List String := state.plans.map Prod.fst

/-- Two ledgers that differ in the order of their reservations at most. -/
structure Ledger.Same (s t : Ledger) : Prop where
  schema : s.schema = t.schema
  counter : s.counter = t.counter
  floor : s.publication_floor = t.publication_floor
  plans : s.plans.Perm t.plans

/-- JSON and the two hashes, with what the tools rely on: a ledger whose run IDs
are distinct reads back as it was written, in the order its keys are sorted in;
a ledger with a duplicate key is not read; and different bytes have different
hashes. -/
structure Platform where
  encode : Ledger → Bytes
  parse : Bytes → Except Fault Ledger
  blobSha : Bytes → String
  sha256 : Bytes → String
  parse_encode : ∀ s : Ledger, s.keys.Nodup → ∃ t, parse (encode s) = .ok t ∧ t.Same s
  parse_keys : ∀ {raw s}, parse raw = .ok s → s.keys.Nodup
  blobSha_injective : Function.Injective blobSha
  sha256_injective : Function.Injective sha256

/-! ## Requests -/

structure File where
  type : String
  encoding : String
  raw : Bytes
  sha : String
  deriving DecidableEq

structure Asset where
  id : Nat
  name : String
  content : Bytes
  state : String
  deriving DecidableEq

structure ReleaseData where
  id : Nat
  tag_name : String
  target_commitish : String
  name : String
  body : String
  draft : Bool
  prerelease : Bool
  assets : List Asset
  deriving DecidableEq

def ReleaseData.attach (r : ReleaseData) (asset : Asset) : ReleaseData :=
  { r with assets := r.assets ++ [asset] }

/-- The body of a release-create request.  It asks for a draft, named by its tag. -/
structure Payload where
  tag_name : String
  target_commitish : String
  body : String
  prerelease : Bool
  deriving DecidableEq

/-- The release that a create request asks for. -/
def Payload.draft (payload : Payload) (id : Nat) : ReleaseData where
  id := id
  tag_name := payload.tag_name
  target_commitish := payload.target_commitish
  name := payload.tag_name
  body := payload.body
  draft := true
  prerelease := payload.prerelease
  assets := []

inductive Request where
  | contents
  | branchRef
  | createBranch (sha : String)
  | putContents (content : Bytes) (sha : Option String)
  | tags
  | releases
  | tagRef (tag : String)
  | releaseByTag (tag : String)
  | release (id : Nat)
  | createTag (tag sha : String)
  | createRelease (payload : Payload)
  | upload (id : Nat) (name : String) (content : Bytes)
  | assets (id : Nat)
  | downloadAsset (id : Nat)
  | publishRelease (id : Nat) (prerelease : Bool)

def Answer : Request → Type
  | .contents => File
  | .branchRef => Unit
  | .createBranch _ => Unit
  | .putContents _ _ => Unit
  | .tags => List String
  | .releases => List ReleaseData
  | .tagRef _ => String
  | .releaseByTag _ => ReleaseData
  | .release _ => ReleaseData
  | .createTag _ _ => Unit
  | .createRelease _ => ReleaseData
  | .upload _ _ _ => Asset
  | .assets _ => List Asset
  | .downloadAsset _ => Bytes
  | .publishRelease _ _ => ReleaseData

/-- A request that changes nothing. -/
def Reads : Request → Prop
  | .createBranch _ | .putContents _ _ | .createTag _ _ | .createRelease _ | .upload _ _ _
  | .publishRelease _ _ => False
  | _ => True

/-- How a call fails: GitHub reports a missing resource, the outcome of a create
call is not known (`AmbiguousCreate`), or anything else. -/
inductive Refusal where
  | missing
  | ambiguous
  | other
  deriving DecidableEq

def Reply (q : Request) : Type := Except Refusal (Answer q)

/-- The programs of the release tools. -/
abbrev Api (α : Type) := Dialogue Request Reply Fault α

namespace Api

def require (condition : Bool) (message : String) : Api Unit :=
  if condition then .done () else .fail (.release message)

/-- `GitHub.api`, and the other calls that raise when they are refused. -/
def api (q : Request) : Api (Answer q) :=
  .ask q fun
    | .ok a => .done a
    | .error _ => .fail (.github "request failed")

/-- `GitHub.optional`: a resource that GitHub reports missing is none. -/
def optional (q : Request) : Api (Option (Answer q)) :=
  .ask q fun
    | .ok a => .done (some a)
    | .error .missing => .done none
    | .error _ => .fail (.github "request failed")

variable {A : Request → Prop}

theorem require_only (condition : Bool) (message : String) :
    (require condition message).Only A fun _ => condition = true := by
  unfold require
  cases condition with
  | true => exact rfl
  | false => exact trivial

theorem api_only {q : Request} (asked : A q) : (api q).Only A fun _ => True :=
  ⟨asked, fun r => by cases r <;> exact trivial⟩

theorem optional_only {q : Request} (asked : A q) : (optional q).Only A fun _ => True := by
  refine ⟨asked, fun r => ?_⟩
  cases r with
  | ok a => exact trivial
  | error e => cases e <;> exact trivial

end Api

/-! ## The server -/

structure Tag (ι : Type) where
  name : String
  sha : String
  owner : Option ι

structure Published (ι : Type) where
  data : ReleaseData
  owner : Option ι

structure GitHub (ι : Type) where
  file : Option Bytes
  branch : Bool
  tags : List (Tag ι)
  releases : List (Published ι)
  /-- Above every release and asset ID. -/
  fresh : Nat
  raises : List (ι × Int)

/-- The ledger in a file; a missing file is the empty ledger. -/
def Platform.ledger (platform : Platform) (file : Option Bytes) : Ledger :=
  match file with
  | none => .empty
  | some raw => (platform.parse raw).toOption.getD .empty

namespace GitHub

variable {ι : Type}

/-- Replace the content of the file, and note a raised floor. -/
def put (platform : Platform) (i : ι) (w : GitHub ι) (content : Bytes) : GitHub ι :=
  let before := (platform.ledger w.file).publication_floor
  let after := (platform.ledger (some content)).publication_floor
  { w with
    file := some content
    raises := if before < after then w.raises ++ [(i, after)] else w.raises }

/-- Change the release with an ID. -/
def edit (w : GitHub ι) (id : Nat) (change : ReleaseData → ReleaseData) : GitHub ι :=
  { w with releases := w.releases.map fun r =>
      if r.data.id = id then { r with data := change r.data } else r }

/-- What a request does when GitHub carries it out for client `i`, and its answer. -/
def Effect (platform : Platform) (i : ι) (w : GitHub ι) :
    (q : Request) → Answer q → GitHub ι → Prop
  | .contents, a, w' =>
      w' = w ∧ ∃ raw, w.file = some raw ∧ a = ⟨"file", "base64", raw, platform.blobSha raw⟩
  | .branchRef, _, w' => w' = w ∧ w.branch = true
  | .createBranch _, _, w' => w.branch = false ∧ w' = { w with branch := true }
  | .putContents content sha, _, w' =>
      w.branch = true ∧ w.file.map platform.blobSha = sha ∧ w' = w.put platform i content
  | .tags, a, w' => w' = w ∧ a = w.tags.map Tag.name
  | .releases, a, w' => w' = w ∧ a = w.releases.map Published.data
  | .tagRef tag, a, w' => w' = w ∧ ∃ t ∈ w.tags, t.name = tag ∧ a = t.sha
  | .releaseByTag tag, a, w' =>
      w' = w ∧ ∃ r ∈ w.releases, r.data.draft = false ∧ r.data.tag_name = tag ∧ a = r.data
  | .release id, a, w' => w' = w ∧ ∃ r ∈ w.releases, r.data.id = id ∧ a = r.data
  | .createTag tag sha, _, w' =>
      (∀ t ∈ w.tags, t.name ≠ tag) ∧ w' = { w with tags := w.tags ++ [⟨tag, sha, some i⟩] }
  | .createRelease payload, a, w' =>
      a = payload.draft w.fresh ∧
        w' = { w with releases := w.releases ++ [⟨a, some i⟩], fresh := w.fresh + 1 }
  | .upload id name _, a, w' =>
      (∃ r ∈ w.releases, r.data.id = id) ∧ a.id = w.fresh ∧ a.name = name ∧
        w' = { w.edit id (fun r => r.attach a) with fresh := w.fresh + 1 }
  | .assets id, a, w' => w' = w ∧ ∃ r ∈ w.releases, r.data.id = id ∧ a = r.data.assets
  | .downloadAsset id, a, w' =>
      w' = w ∧ ∃ r ∈ w.releases, ∃ x ∈ r.data.assets, x.id = id ∧ a = x.content
  | .publishRelease id prerelease, a, w' =>
      (∃ r ∈ w.releases, r.data.id = id ∧
        a = { r.data with draft := false, prerelease := prerelease }) ∧
        w' = w.edit id (fun r => { r with draft := false, prerelease := prerelease })

/-- How GitHub may answer.  A failed call may have had its effect. -/
def Serve (platform : Platform) (i : ι) (w : GitHub ι) (q : Request) (r : Reply q)
    (w' : GitHub ι) : Prop :=
  (∃ a, r = .ok a ∧ Effect platform i w q a w') ∨
    ∃ e, r = .error e ∧ (w' = w ∨ ∃ a, Effect platform i w q a w')

/-- GitHub on a good day: it carries out every call it can and stores what it is sent. -/
def respond (platform : Platform) (i : ι) (w : GitHub ι) : (q : Request) → Reply q × GitHub ι
  | .contents =>
      match w.file with
      | some raw => (.ok ⟨"file", "base64", raw, platform.blobSha raw⟩, w)
      | none => (.error .missing, w)
  | .branchRef => if w.branch = true then (.ok (), w) else (.error .missing, w)
  | .createBranch _ =>
      if w.branch = false then (.ok (), { w with branch := true }) else (.error .other, w)
  | .putContents content sha =>
      if w.branch = true ∧ w.file.map platform.blobSha = sha then
        (.ok (), w.put platform i content)
      else (.error .other, w)
  | .tags => (.ok (w.tags.map Tag.name), w)
  | .releases => (.ok (w.releases.map Published.data), w)
  | .tagRef tag =>
      match w.tags.find? fun t => t.name = tag with
      | some t => (.ok t.sha, w)
      | none => (.error .missing, w)
  | .releaseByTag tag =>
      match w.releases.find? fun r => !r.data.draft && r.data.tag_name = tag with
      | some r => (.ok r.data, w)
      | none => (.error .missing, w)
  | .release id =>
      match w.releases.find? fun r => r.data.id = id with
      | some r => (.ok r.data, w)
      | none => (.error .missing, w)
  | .createTag tag sha =>
      if w.tags.all fun t => t.name ≠ tag then
        (.ok (), { w with tags := w.tags ++ [⟨tag, sha, some i⟩] })
      else (.error .other, w)
  | .createRelease payload =>
      (.ok (payload.draft w.fresh),
        { w with releases := w.releases ++ [⟨payload.draft w.fresh, some i⟩], fresh := w.fresh + 1 })
  | .upload id name content =>
      if w.releases.any fun r => r.data.id = id then
        (.ok ⟨w.fresh, name, content, "uploaded"⟩,
          { w.edit id (fun r => r.attach ⟨w.fresh, name, content, "uploaded"⟩) with
            fresh := w.fresh + 1 })
      else (.error .missing, w)
  | .assets id =>
      match w.releases.find? fun r => r.data.id = id with
      | some r => (.ok r.data.assets, w)
      | none => (.error .missing, w)
  | .downloadAsset id =>
      match (w.releases.flatMap fun r => r.data.assets).find? fun x => x.id = id with
      | some x => (.ok x.content, w)
      | none => (.error .missing, w)
  | .publishRelease id prerelease =>
      match w.releases.find? fun r => r.data.id = id with
      | some r =>
          (.ok { r.data with draft := false, prerelease := prerelease },
            w.edit id fun r => { r with draft := false, prerelease := prerelease })
      | none => (.error .missing, w)

theorem serve_ok {platform : Platform} {i : ι} {w w' : GitHub ι} {q : Request} {a : Answer q}
    (effect : Effect platform i w q a w') : Serve platform i w q (.ok a) w' := .inl ⟨a, rfl, effect⟩

theorem serve_error (platform : Platform) (i : ι) (w : GitHub ι) (q : Request) (e : Refusal) :
    Serve platform i w q (.error e) w := .inr ⟨e, rfl, .inl rfl⟩

theorem find_decide {α : Type} {p : α → Prop} [DecidablePred p] {l : List α} {x : α}
    (found : l.find? (fun x => decide (p x)) = some x) : x ∈ l ∧ p x :=
  ⟨List.mem_of_find?_eq_some found, by simpa using List.find?_some found⟩

/-- A good day is one of the days. -/
theorem respond_serves (platform : Platform) (i : ι) (w : GitHub ι) (q : Request) :
    Serve platform i w q (w.respond platform i q).1 (w.respond platform i q).2 := by
  cases q with
  | contents =>
      dsimp only [respond]
      split
      · rename_i raw here
        exact serve_ok ⟨rfl, raw, here, rfl⟩
      · exact serve_error ..
  | branchRef =>
      dsimp only [respond]
      split
      · rename_i present
        exact serve_ok ⟨rfl, present⟩
      · exact serve_error ..
  | createBranch sha =>
      dsimp only [respond]
      split
      · rename_i absent
        exact serve_ok ⟨absent, rfl⟩
      · exact serve_error ..
  | putContents content sha =>
      dsimp only [respond]
      split
      · rename_i current
        exact serve_ok ⟨current.1, current.2, rfl⟩
      · exact serve_error ..
  | tags => exact serve_ok ⟨rfl, rfl⟩
  | releases => exact serve_ok ⟨rfl, rfl⟩
  | tagRef tag =>
      dsimp only [respond]
      split
      · rename_i t found
        obtain ⟨listed, same⟩ := find_decide found
        exact serve_ok ⟨rfl, t, listed, same, rfl⟩
      · exact serve_error ..
  | releaseByTag tag =>
      dsimp only [respond]
      split
      · rename_i r found
        have fits := List.find?_some found
        simp only [Bool.and_eq_true, Bool.not_eq_true', decide_eq_true_eq] at fits
        exact serve_ok ⟨rfl, r, List.mem_of_find?_eq_some found, fits.1, fits.2, rfl⟩
      · exact serve_error ..
  | release id =>
      dsimp only [respond]
      split
      · rename_i r found
        obtain ⟨listed, same⟩ := find_decide found
        exact serve_ok ⟨rfl, r, listed, same, rfl⟩
      · exact serve_error ..
  | createTag tag sha =>
      dsimp only [respond]
      split
      · rename_i absent
        rw [List.all_eq_true] at absent
        exact serve_ok ⟨fun t listed => of_decide_eq_true (absent t listed), rfl⟩
      · exact serve_error ..
  | createRelease payload => exact serve_ok ⟨rfl, rfl⟩
  | upload id name content =>
      dsimp only [respond]
      split
      · rename_i present
        obtain ⟨r, listed, same⟩ := List.any_eq_true.1 present
        exact serve_ok ⟨⟨r, listed, of_decide_eq_true same⟩, rfl, rfl, rfl⟩
      · exact serve_error ..
  | assets id =>
      dsimp only [respond]
      split
      · rename_i r found
        obtain ⟨listed, same⟩ := find_decide found
        exact serve_ok ⟨rfl, r, listed, same, rfl⟩
      · exact serve_error ..
  | downloadAsset id =>
      dsimp only [respond]
      split
      · rename_i x found
        obtain ⟨inside, same⟩ := find_decide found
        obtain ⟨r, listed, attached⟩ := List.mem_flatMap.1 inside
        exact serve_ok ⟨rfl, r, listed, x, attached, same, rfl⟩
      · exact serve_error ..
  | publishRelease id prerelease =>
      dsimp only [respond]
      split
      · rename_i r found
        obtain ⟨listed, same⟩ := find_decide found
        exact serve_ok ⟨⟨r, listed, same, rfl⟩, rfl⟩
      · exact serve_error ..

end GitHub

end InverterGateway.Release

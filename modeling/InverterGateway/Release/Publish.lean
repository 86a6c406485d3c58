/-
# Release.Publish — from a consumed build number to a public release

The publication transaction of `release_control.py` and the parts of
`publish_versioned` and `promote` around it: the last checks, the consumption of
the build number, the tag, the draft, the uploads, the comparison of every byte
that was stored, and only then the change that makes the release public.

What the source checks in between and what can only stop a publication is left
out: the run's own state, the policy and evidence of a candidate, signatures,
receipts and notes.  A run may stop at any call here as well.
-/
import InverterGateway.Release.State

namespace InverterGateway.Release

set_option autoImplicit false

open InverterGateway.Theory

/-! ## The transaction -/

/-- A staged file: its name and its bytes. -/
abbrev Staged := String × Bytes

/-- `stream_identity` -/
def Platform.identity (platform : Platform) (content : Bytes) : Nat × String :=
  (content.length, platform.sha256 content)

/-- `GitHub.upload` of one staged file. -/
def upload (release_id : Nat) (path : Staged) : Api Unit := do
  let asset : Asset ← Api.api (.upload release_id path.1 path.2)
  Api.require (asset.name = path.1 && asset.state = "uploaded" &&
    asset.content.length = path.2.length) "upload response did not confirm the staged asset"

def upload_all (release_id : Nat) : List Staged → Api Unit
  | [] => .done ()
  | path :: rest => do
      upload release_id path
      upload_all release_id rest

/-- `verify_uploaded_asset` -/
def verify_uploaded_asset (platform : Platform) (item : Asset) (path : Staged) : Api Unit := do
  Api.require (item.state = "uploaded" && item.content.length = path.2.length)
    "Incomplete asset upload; draft left unpublished"
  let downloaded : Bytes ← Api.api (.downloadAsset item.id)
  Api.require (platform.identity downloaded = platform.identity path.2)
    "Uploaded bytes differ; draft left unpublished"

/-- The loop over the uploaded assets; an asset without a staged file is a `KeyError`. -/
def verify_all (platform : Platform) (stage : List Staged) : List Asset → Api Unit
  | [] => .done ()
  | item :: rest => do
      match stage.lookup item.name with
      | some content => verify_uploaded_asset platform item (item.name, content)
      | none => .fail (.python "KeyError")
      verify_all platform stage rest

/-- `checked_release` of the readback of a create call. -/
def checked_release (payload : Payload) (release_id : Nat) (value : ReleaseData) : Api Unit :=
  Api.require (value = payload.draft release_id)
    "Create readback release differs from the exact request"

/-- Whether two listings hold the same releases under the same tags. -/
def sameInventory (first second : List ReleaseData) : Bool :=
  let rows := fun (listing : List ReleaseData) => listing.map fun r => (r.id, r.tag_name)
  (rows first).all (rows second).contains && (rows second).all (rows first).contains

/-- `_reconcile_created_release`: adopt the draft that a create call of this
publication left behind. -/
def reconcile_created_release (payload : Payload) (confirm : Api Unit) : Api ReleaseData := do
  confirm
  let first : List ReleaseData ← Api.api .releases
  let second : List ReleaseData ← Api.api .releases
  Api.require (sameInventory first second) "Release inventory changed during readback"
  match second.filter (fun r => r.tag_name = payload.tag_name),
      first.filter (fun r => r.tag_name = payload.tag_name) with
  | [listed], [original] => do
      checked_release payload listed.id listed
      checked_release payload listed.id original
      let release : ReleaseData ← Api.api (.release listed.id)
      checked_release payload listed.id release
      let assets : List Asset ← Api.api (.assets listed.id)
      Api.require assets.isEmpty "Create readback draft is not empty"
      let ref : String ← Api.api (.tagRef payload.tag_name)
      Api.require (ref = payload.target_commitish) "Create readback tag source changed"
      confirm
      let final : ReleaseData ← Api.api (.release listed.id)
      checked_release payload listed.id final
      let assets : List Asset ← Api.api (.assets listed.id)
      Api.require assets.isEmpty "Create readback draft gained assets"
      return final
  | [_], _ => .fail (.release "Create readback original inventory is contradictory")
  | _, _ => .fail (.release "Create readback requires one matching release")

/-- `create_release_once` and, when its outcome is not known, the readback. -/
def create_release (payload : Payload) (confirm_create : Option (Api Unit)) : Api ReleaseData :=
  .ask (.createRelease payload) fun
    | .ok release => .done release
    | .error .ambiguous =>
        match confirm_create with
        | some confirm => reconcile_created_release payload confirm
        | none => .fail (.github "request failed")
    | .error _ => .fail (.github "request failed")

/-- `_publish_prepared` -/
def publish_prepared (platform : Platform) (payload : Payload) (stage : List Staged)
    (confirm_create : Option (Api Unit)) : Api ReleaseData := do
  ensure_absent payload.tag_name
  Api.api (.createTag payload.tag_name payload.target_commitish)
  let release : ReleaseData ← create_release payload confirm_create
  Api.require (release.draft && release.tag_name = payload.tag_name)
    "Unexpected draft release response"
  upload_all release.id stage
  let uploaded : List Asset ← Api.api (.assets release.id)
  Api.require (uploaded.length = stage.length &&
      (uploaded.map Asset.name).all (stage.map Prod.fst).contains &&
      (stage.map Prod.fst).all (uploaded.map Asset.name).contains)
    "Uploaded asset inventory mismatch; draft left unpublished"
  verify_all platform stage uploaded
  let ref : String ← Api.api (.tagRef payload.tag_name)
  Api.require (ref = payload.target_commitish)
    "Tag moved before publication; draft left unpublished"
  let result : ReleaseData ← Api.api (.publishRelease release.id payload.prerelease)
  Api.require (!result.draft && result.tag_name = payload.tag_name &&
    result.prerelease = payload.prerelease)
    "Publication response did not confirm the requested state"
  return result

/-- The part of `create_confirmation` that reads the ledger again. -/
def create_confirmation (consumed : Bytes) : Api Unit := do
  let content : File ← Api.api .contents
  Api.require (content.type = "file" && content.encoding = "base64")
    "Invalid create readback ledger"
  Api.require (content.raw = consumed) "Create readback publication ledger changed"

/-! ## Publishing and promoting -/

/-- What a publication is about: the plan and the run that reserved it, the
staged files, of distinct names, and the text of the release. -/
structure Publication where
  plan : Plan
  run_id : Int
  parent : Option Parent
  stage : List Staged
  body : String
  distinct : (stage.map Prod.fst).Nodup

/-- The release that `publish_versioned` asks for. -/
def Publication.payload (p : Publication) : Payload where
  tag_name := p.plan.tag
  target_commitish := p.plan.source_sha
  body := p.body
  prerelease := p.plan.channel ≠ "stable"

/-- `publish_versioned` -/
def publish_versioned (platform : Platform) (p : Publication) : Api ReleaseData := do
  Dialogue.ofExcept (validate_plan p.plan)
  verify_reservation platform p.plan p.run_id p.parent
  ensure_absent p.plan.tag
  if p.plan.channel = "beta" ∨ p.plan.channel = "rc" then
    ensure_absent ("v" ++ p.plan.base_version)
  verify_reservation platform p.plan p.run_id p.parent
  let consumed ← begin_publication platform p.plan p.run_id p.parent false
  publish_prepared platform p.payload p.stage (some (create_confirmation consumed))

/-- The release that `promote` asks for: the stable release of the candidate's base. -/
def Publication.stable (p : Publication) : Payload where
  tag_name := "v" ++ p.plan.base_version
  target_commitish := p.plan.source_sha
  body := p.body
  prerelease := false

/-- `promote`, for a candidate with a version plan. -/
def promote (platform : Platform) (p : Publication) : Api ReleaseData := do
  verify_promotion_order platform p.plan
  ensure_absent ("v" ++ p.plan.base_version)
  verify_promotion_order platform p.plan
  let _ ← begin_publication platform p.plan p.run_id none true
  publish_prepared platform p.stable p.stage none

/-! ## The runs of a repository -/

inductive Job where
  | reserve (request : Reserve)
  | publish (publication : Publication)
  | promote (publication : Publication)

/-- What a job returns. -/
inductive Outcome where
  | plan (plan : Plan)
  | release (release : ReleaseData)

def Job.program (platform : Platform) (digest : PolicyDigest) : Job → Api Outcome
  | .reserve request => do return .plan (← reserve_plan platform digest request)
  | .publish publication => do return .release (← publish_versioned platform publication)
  | .promote publication => do return .release (← Release.promote platform publication)

/-- The build number that a job may consume. -/
def Job.number : Job → Option Int
  | .reserve _ => none
  | .publish publication => publication.plan.build_number
  | .promote publication => publication.plan.build_number

/-- The jobs in any interleaving of their calls with the steps of others. -/
def runs {ι : Type} [DecidableEq ι] (platform : Platform) (digest : PolicyDigest)
    (jobs : ι → Job) (outside : GitHub ι → GitHub ι → Prop) (start : GitHub ι → Prop) :
    Machine (GitHub ι × (ι → Api Outcome)) (Option ι) :=
  Dialogue.conversation (GitHub.Serve platform) outside start
    fun i => (jobs i).program platform digest

end InverterGateway.Release

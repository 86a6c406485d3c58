/-
# Smoke.Docker — the container smoke, command by command

`runtime` imports the image, runs it once and cleans up, whatever fails before.
Docker answers each command in view of everything that happened before, so a
theorem about every `Host` is one about every sequence of outcomes.
-/
import InverterGateway.Theory.Trace
import InverterGateway.Smoke.Layers
import InverterGateway.Smoke.Python
import Mathlib.Data.Finset.Basic
import Mathlib.Data.Finset.Dedup

namespace InverterGateway.Smoke.Runtime

open InverterGateway.Theory

set_option autoImplicit false

/-! ## Commands -/

/-- The Docker commands of a run. -/
inductive Command where
  | imageLs (tag : Option String)
  | imageLoad (input : String)
  | imageInspect (image : String)
  | create (name label imageId : String)
  | start (containerId : String)
  | containerInspect (container : String)
  | containerLs (name : String)
  | containerRm (containerId : String)
  | imageRm (tag : String)
  deriving DecidableEq

/-- The arguments after `cli`. -/
def Command.argv : Command → List String
  | .imageLs tag => ["image", "ls", "--all", "--quiet", "--no-trunc"] ++
      (match tag with
        | some tag => ["--filter", "reference=" ++ tag]
        | none => [])
  | .imageLoad input => ["image", "load", "--input", input]
  | .imageInspect image => ["image", "inspect", image, "--format", "\x7b\x7bjson .\x7d\x7d"]
  | .create name label imageId =>
      ["create", "--name", name, "--label", "org.victron.release-probe=" ++ label, "--pull=never",
        "--network=none", "--read-only", "--cap-drop=ALL", "--security-opt=no-new-privileges",
        "--pids-limit=64", "--memory=256m", "--cpus=1", imageId, "--version"]
  | .start containerId => ["start", "--attach", containerId]
  | .containerInspect container =>
      ["container", "inspect", container, "--format", "\x7b\x7bjson .\x7d\x7d"]
  | .containerLs name =>
      ["container", "ls", "--all", "--quiet", "--no-trunc", "--filter", "name=^/" ++ name ++ "$"]
  | .containerRm containerId => ["container", "rm", "-f", containerId]
  | .imageRm tag => ["image", "rm", "--no-prune", tag]

/-! ## Evidence -/

/-- The inspected archive, `oci`. -/
structure Oci where
  archive : String
  size : Nat
  sha256 : String
  manifestDigest : String
  configDigest : String
  platform : String
  rootfsDiffIds : List String
  layers : Json
  runtimeConfig : Json
  binary : Binary
  attestationPredicates : List String

/-- `==` of two reports. -/
def Oci.eq (a b : Oci) : Bool :=
  a.archive == b.archive && a.size == b.size && a.sha256 == b.sha256 &&
    a.manifestDigest == b.manifestDigest && a.configDigest == b.configDigest &&
    a.platform == b.platform && a.rootfsDiffIds == b.rootfsDiffIds && a.layers.eq b.layers &&
    a.runtimeConfig.eq b.runtimeConfig && a.binary = b.binary &&
    a.attestationPredicates == b.attestationPredicates

structure Plan where
  version : String
  baseVersion : String
  channel : String
  promotion : String
  sourceSha : String
  tag : String

/-- `projections(plan)["package"]`. -/
def Plan.package (plan : Plan) : String :=
  if plan.channel = "rc" ∧ plan.promotion = "promote-bytes" then plan.baseVersion else plan.version

structure Identity where
  repository : String
  sourceSha : String
  runId : Nat
  runAttempt : Nat

/-- What `container_result` keeps of an exited container. -/
structure ContainerResult where
  id : Json
  image : Json
  name : Json
  status : Json
  running : Json
  exitCode : Json
  oomKilled : Json
  error : Json

structure ContainerRecord where
  status : String
  name : String
  containerId : Option String
  verifiedAbsentAtCheck : Bool
  unknownCreateOutcome : Bool

/-- The record of a preserved image lacks the last two fields. -/
structure ImageRecord where
  status : String
  temporaryTag : String
  imageId : String
  verifiedAbsentAtCheck : Option Bool
  unknownImportOutcome : Option Bool

/-- What a cleanup reports, or the text of its failure. -/
inductive Cleanup (R : Type) where
  | completed (record : R)
  | failed (error : String)

structure Intent where
  status : String
  identity : Identity
  planSha256 : String
  name : String
  temporaryTag : String
  ownerLabel : String × String
  imageConfigDigest : String
  preexistingImage : Bool
  archive : String × Nat × String

structure Outcome where
  status : String
  phase : String
  intentSha256 : String
  containerResult : Option ContainerResult
  containerCleanup : Cleanup ContainerRecord
  imageCleanup : Cleanup ImageRecord
  error : Option String

structure Receipt where
  status : String
  identity : Identity
  version : String
  tag : String
  channel : String
  planSha256 : String
  nativePlatform : String
  imageOrigin : String
  oci : Oci
  stdout : String
  containerResult : Option ContainerResult
  containerCleanup : Cleanup ContainerRecord
  imageCleanup : Cleanup ImageRecord
  intentSha256 : String
  outcomeSha256 : String
  limits : String

/-- A file of evidence. -/
inductive Document where
  | intent (document : Intent)
  | outcome (document : Outcome)
  | receipt (document : Receipt)

inductive Event where
  | command (command : Command) (outcome : Except PyError Bytes)
  | wrote (document : Document)

/-! ## The host -/

/-- The code around a run, and Docker, which may answer anything. -/
structure Host where
  docker : List Event → Command → Except PyError Bytes
  loads : JsonLoads
  /-- `plan_digest`. -/
  planDigest : Plan → Except PyError String
  /-- The temporary directory of the rewrapped archive. -/
  scratch : Except PyError String
  /-- `docker_archive`, of the version, the source and the tag. -/
  dockerArchive : Json → String → String → Except PyError Oci
  /-- `file_identity` of the archive. -/
  fileIdentity : Except PyError (Nat × String)
  /-- The hash of a written file. -/
  sha : Document → String

abbrev Program (σ α : Type) : Type := Trace Event σ PyError α

section Steps

variable (host : Host) {σ : Type}

/-- `bounded_command`. -/
def boundedCommand (command : Command) : Program σ Bytes :=
  Trace.observe (fun log => host.docker log command) (Event.command command)

/-- `write_new`. -/
def writeNew (document : Document) : Program σ String := do
  Trace.emit (.wrote document)
  return host.sha document

/-- The check of `image_ids` on one word. -/
def isImageId (word : String) : Bool :=
  (Text.stripPrefix word "sha256:").any (isHex 64)

/-- The ids of an inventory. -/
def parseIds (raw : Bytes) : Except PyError (Finset String) := do
  let text ← decodeAscii raw
  need ((words text).all isImageId) "Invalid image inventory"
  return (words text).toFinset

/-- `image_ids`. -/
def imageIds (tag : Option String) : Program σ (Finset String) := do
  let raw ← boundedCommand host (.imageLs tag)
  parseIds raw

/-- An inspection read as a JSON object. -/
def inspect (command : Command) : Program σ Json := do
  let raw ← boundedCommand host command
  objectJson host.loads raw

/-! ## Containers -/

/-- `container_identity`. -/
def containerIdentity (item : Json) (name : String) (containerId : Option String)
    (imageId planHash : String) : Except PyError String := do
  match ← item.get "Id" with
  | .str observed =>
      need (isHex 64 observed) "Invalid observed container ID"
      need (containerId = none || containerId = some observed)
        "Container ID differs from create result"
      need ((← item.get "Name").eq (.str ("/" ++ name))) "Container name mismatch"
      need ((← item.get "Image").eq (.str imageId))
        "Container Image differs from reviewed config digest"
      let labels ← (← item.getOr "Config" (.dict [])).getOr "Labels" (.dict [])
      need ((← labels.get "org.victron.release-probe").eq (.str planHash))
        "Container owner label mismatch"
      return observed
  | _ => .error ⟨"ValueError", "Invalid observed container ID"⟩

def isFalse : Json → Bool
  | .bool false => true
  | _ => false

/-- `type(v) is int and v == 0`. -/
def isIntZero : Json → Bool
  | .int i => i = 0
  | _ => false

/-- `container_result`. -/
def containerResult (item : Json) (name : String) (containerId : Option String)
    (imageId planHash : String) : Except PyError ContainerResult := do
  let _ ← containerIdentity item name containerId imageId planHash
  let state ← item.getOr "State" (.dict [])
  need ((← state.get "Status").eq (.str "exited") && isFalse (← state.get "Running"))
    "Container has not exited"
  need (isIntZero (← state.get "ExitCode")) "Container exit code is not integer zero"
  need (isFalse (← state.get "OOMKilled")) "Container was OOM killed or outcome unknown"
  need ((← state.get "Error").eq (.str "")) "Container runtime error or unknown outcome"
  return {
    id := ← item.item "Id"
    image := ← item.item "Image"
    name := ← item.item "Name"
    status := ← state.item "Status"
    running := ← state.item "Running"
    exitCode := ← state.item "ExitCode"
    oomKilled := ← state.item "OOMKilled"
    error := ← state.item "Error" }

/-- `cleanup_container`. -/
def cleanupContainer (name : String) (knownId : Option String) (imageId planHash : String) :
    Program σ ContainerRecord := do
  let raw ← boundedCommand host (.containerLs name)
  let found := words (← decodeAscii raw)
  need (found.length ≤ 1) "Ambiguous probe cleanup lookup"
  if found = [] then
    return ⟨"absent_at_check", name, knownId, true, knownId.isNone⟩
  else do
    let item ← inspect host (.containerInspect name)
    let observed ← containerIdentity item name knownId imageId planHash
    need (found = [observed]) "Cleanup lookup/inspection ID mismatch"
    let _ ← boundedCommand host (.containerRm observed)
    let left ← boundedCommand host (.containerLs name)
    need (strip left).isEmpty "Probe container remains after removal"
    return ⟨"removed", name, some observed, true, false⟩

/-! ## Images -/

/-- `cleanup_image`. -/
def cleanupImage (tag imageId : String) (preexisting imported : Bool) : Program σ ImageRecord := do
  if preexisting then
    need (imageId ∈ (← imageIds host none)) "Pre-existing image disappeared"
    need ((← imageIds host (some tag)) = ∅) "Unexpected temporary tag on pre-existing image"
    return ⟨"preexisting_preserved", tag, imageId, none, none⟩
  else do
    let found ← imageIds host (some tag)
    if found = ∅ then
      return ⟨"absent_at_check", tag, imageId, some true, some !imported⟩
    else do
      need (found = {imageId}) "Temporary tag points to a different image"
      let item ← inspect host (.imageInspect tag)
      let id ← item.get "Id"
      need (id.eq (.str imageId)) "Temporary image ownership mismatch"
      need (← (← item.getOr "RepoTags" (.list [])).contains tag) "Temporary image ownership mismatch"
      let _ ← boundedCommand host (.imageRm tag)
      need ((← imageIds host (some tag)) = ∅) "Temporary image tag remains"
      return ⟨"removed_owned_tag", tag, imageId, some true, some !imported⟩

/-- The keys that `validate_runtime_image` compares. -/
def configKeys : List String :=
  ["Entrypoint", "User", "Env", "Labels", "Cmd", "WorkingDir", "Volumes", "Healthcheck"]

/-- `validate_runtime_image`. -/
def validateRuntimeImage (image : Json) (oci : Oci) : Except PyError Unit := do
  need ((← image.get "Id").eq (.str oci.configDigest) && (← image.get "Os").eq (.str "linux") &&
    (← image.get "Architecture").eq (.str "amd64")) "Imported image identity/platform mismatch"
  let kind ← (← image.getOr "RootFS" (.dict [])).get "Type"
  need (kind.eq (.str "layers")) "Imported root filesystem mismatch"
  let layers ← (← image.item "RootFS").get "Layers"
  need (layers.eq (.list (oci.rootfsDiffIds.map Json.str))) "Imported root filesystem mismatch"
  let config ← image.getOr "Config" (.dict [])
  configKeys.forM fun key => do
    need ((← config.get key).eq (← oci.runtimeConfig.get key))
      ("Imported runtime config mismatch: " ++ key)

end Steps

end InverterGateway.Smoke.Runtime

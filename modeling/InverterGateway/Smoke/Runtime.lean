/-
# Smoke.Runtime — one smoke run, from the intent to the receipt

The body of the `try` block assigns to `Locals`, and its failure leaves what was
assigned.  Both cleanups run after it in any case, each with a failure of its own.
-/
import InverterGateway.Smoke.Docker

namespace InverterGateway.Smoke.Runtime

open InverterGateway.Theory

set_option autoImplicit false

/-- The variables that the body of the `try` block assigns. -/
structure Locals where
  containerId : Option String
  imported : Bool
  checkedState : Option ContainerResult
  result : Option Bytes
  phase : String

def Locals.start : Locals := ⟨none, false, none, none, "import"⟩

/-- The values fixed before the `try` block. -/
structure Setting where
  oci : Oci
  plan : Plan
  identity : Identity
  planHash : String
  tag : String
  name : String
  preexisting : Bool

def Setting.imageId (setting : Setting) : String := setting.oci.configDigest

section Body

variable (host : Host) (setting : Setting)

/-- The archive as the daemon shall load it. -/
def rewrap : Except PyError String := do
  let scratch ← host.scratch
  let labels ← setting.oci.runtimeConfig.item "Labels"
  let version ← labels.item "org.opencontainers.image.version"
  let report ← host.dockerArchive version setting.plan.sourceSha setting.tag
  need (report.eq setting.oci) "OCI changed at import"
  return scratch ++ "/image.tar"

def importImage : Program Locals Unit := do
  if setting.preexisting then return ()
  else do
    let wrapped ← rewrap host setting
    let _ ← boundedCommand host (.imageLoad wrapped)
    modify fun l => { l with imported := true }
    need ((← imageIds host (some setting.tag)) = {setting.imageId}) "Imported temporary tag mismatch"

/-- The id that `create` printed. -/
def createdId (raw : Bytes) : Except PyError String := do
  let value ← decodeAscii (strip raw)
  need (isHex 64 value) "Invalid created container ID"
  return value

def createContainer : Program Locals String := do
  let image ← inspect host (.imageInspect setting.imageId)
  validateRuntimeImage image setting.oci
  modify fun l => { l with phase := "create" }
  let raw ← boundedCommand host (.create setting.name setting.planHash setting.imageId)
  let value ← createdId raw
  modify fun l => { l with containerId := some value, phase := "start" }
  return value

/-- What `--version` must print. -/
def versionOutput : Bytes := encode ("inverter-gateway " ++ setting.plan.package ++ "\n")

def runContainer (containerId : String) : Program Locals Unit := do
  let result ← boundedCommand host (.start containerId)
  modify fun l => { l with result := some result, phase := "container-result" }
  let item ← inspect host (.containerInspect containerId)
  let checked ← containerResult item setting.name (some containerId) setting.imageId setting.planHash
  modify fun l => { l with checkedState := some checked }
  need (result = versionOutput setting) "Unexpected --version output"
  let image ← inspect host (.imageInspect setting.imageId)
  validateRuntimeImage image setting.oci
  need ((← host.fileIdentity) = (setting.oci.size, setting.oci.sha256))
    "Original OCI changed during smoke"
  modify fun l => { l with phase := "verified" }

/-- The body of the `try` block. -/
def body : Program Locals Unit := do
  importImage host setting
  let containerId ← createContainer host setting
  runContainer host setting containerId

end Body

/-- `str(error)[:1000]`. -/
def truncate (text : String) : String := String.ofList (text.toList.take 1000)

/-- The report of a cleanup, and the first failure so far. -/
def settle {R : Type} (answer : Except PyError R) (failure : Option PyError) :
    Cleanup R × Option PyError :=
  match answer with
  | .ok record => (.completed record, failure)
  | .error error => (.failed (truncate error.text), failure <|> some error)

/-- The failure of an answer. -/
def failureOf {α : Type} : Except PyError α → Option PyError
  | .ok _ => none
  | .error error => some error

def Cleanup.record {R : Type} : Cleanup R → Option R
  | .completed record => some record
  | .failed _ => none

/-- `bytes.decode`; a run decodes only what it has compared with `versionOutput`. -/
def decode (raw : Bytes) : Except PyError String :=
  match String.fromUTF8? ⟨raw.toArray⟩ with
  | some text => .ok text
  | none => .error ⟨"UnicodeDecodeError", "'utf-8' codec can't decode bytes"⟩

section Run

variable (host : Host)

/-- After the outcome is written. -/
def conclude (setting : Setting) (intentHash outcomeHash : String) (locals : Locals)
    (containerCleanup : Cleanup ContainerRecord) (imageCleanup : Cleanup ImageRecord)
    (failure : Option PyError) : Program Unit Receipt := do
  (match failure with
    | some error => .error error
    | none => .ok () : Except PyError Unit)
  need (containerCleanup.record.any fun record =>
    record.verifiedAbsentAtCheck && !record.unknownCreateOutcome) "Container cleanup not confirmed"
  need (setting.preexisting || imageCleanup.record.any fun record =>
    record.unknownImportOutcome = some false) "Image import cleanup not confirmed"
  let stdout ← decode (locals.result.getD [])
  let receipt : Receipt := {
    status := "PASSED"
    identity := setting.identity
    version := setting.plan.package
    tag := setting.plan.tag
    channel := setting.plan.channel
    planSha256 := setting.planHash
    nativePlatform := "linux/amd64"
    imageOrigin :=
      if setting.preexisting then "preexisting_exact_image" else "imported_exact_archive"
    oci := setting.oci
    stdout := stdout
    containerResult := locals.checkedState
    containerCleanup := containerCleanup
    imageCleanup := imageCleanup
    intentSha256 := intentHash
    outcomeSha256 := outcomeHash
    limits := "Exact native loader/entrypoint/version smoke. No MQTT, TLS, equipment or deployment acceptance." }
  let _ ← writeNew host (.receipt receipt)
  return receipt

/-- From the intent on. -/
def smokeRun (setting : Setting) : Program Unit Receipt := do
  let intentHash ← writeNew host (.intent {
    status := "INTENT_BEFORE_IMPORT_OR_CREATE"
    identity := setting.identity
    planSha256 := setting.planHash
    name := setting.name
    temporaryTag := setting.tag
    ownerLabel := ("org.victron.release-probe", setting.planHash)
    imageConfigDigest := setting.imageId
    preexistingImage := setting.preexisting
    archive := (setting.oci.archive, setting.oci.size, setting.oci.sha256) })
  let (answer, locals) ← Trace.attempt Locals.start (body host setting)
  let (removal, _) ← Trace.attempt () <|
    cleanupContainer host setting.name locals.containerId setting.imageId setting.planHash
  let (containerCleanup, failure) := settle removal (failureOf answer)
  let (untag, _) ← Trace.attempt () <|
    cleanupImage host setting.tag setting.imageId setting.preexisting locals.imported
  let (imageCleanup, failure) := settle untag failure
  let outcomeHash ← writeNew host (.outcome {
    status := if failure.isSome then "FAILED_OR_UNKNOWN" else "RUNTIME_AND_CLEANUP_PASSED"
    phase := locals.phase
    intentSha256 := intentHash
    containerResult := locals.checkedState
    containerCleanup := containerCleanup
    imageCleanup := imageCleanup
    error := failure.map fun error => error.kind ++ ": " ++ truncate error.text })
  conclude host setting intentHash outcomeHash locals containerCleanup imageCleanup failure

/-- `runtime`, with the suffix that `uuid4` chose. -/
def runtime (suffix : String) (oci : Oci) (plan : Plan) (identity : Identity) :
    Program Unit Receipt := do
  let planHash ← host.planDigest plan
  let tag := "inverter-gateway-release-smoke:" ++ suffix
  let name := "inverter-gateway-release-smoke-" ++ suffix
  let preexisting := oci.configDigest ∈ (← imageIds host none)
  need ((← imageIds host (some tag)) = ∅) "Temporary image tag already exists"
  smokeRun host ⟨oci, plan, identity, planHash, tag, name, preexisting⟩

end Run

end InverterGateway.Smoke.Runtime

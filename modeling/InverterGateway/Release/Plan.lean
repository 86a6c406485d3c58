/-
# Release.Plan — version plans: identities, projections and their checks

`version_plan.py` freezes a release before it is built.  A plan names the base
version, the channel and the sequence, the version and the tag they spell, the
source commit, the native build number and the policy it was made under.
`create_plan` makes one from decisions already taken, `validate_plan` accepts
one again later, and `projections` spells it for a package index or a platform
that wants numbers only.

JSON values come with their types: what the source checks with `isinstance` and
`type(…) is` is the type of the field here, and the fields of a plan are exactly
the record's.  Of a policy only the fields that a plan reads are here; the rest
enters the digest.
-/
import InverterGateway.Theory.Fields

namespace InverterGateway.Release

set_option autoImplicit false

open InverterGateway.Theory

/-- Why a release tool gave up: a `ReleaseError`, a `VersionError`, a
`GitHubError`, or an exception the tools do not raise themselves. -/
inductive Fault where
  | release (message : String)
  | version (message : String)
  | github (message : String)
  | python (message : String)
  deriving DecidableEq, Repr

/-- `require` of version_plan.py. -/
def requirePlan (condition : Bool) (message : String) : Except Fault Unit :=
  if condition then .ok () else .error (.version message)

@[simp] theorem requirePlan_ok {condition : Bool} {message : String} {u : Unit} :
    requirePlan condition message = .ok u ↔ condition = true := by
  unfold requirePlan
  cases condition <;> simp

/-! ## Patterns -/

/-- `[1-9]\d*` -/
def isPositive (s : String) : Bool :=
  s.toList ≠ [] && s.toList.all Text.isDigit && s.toList.head? ≠ some '0'

/-- `0|[1-9]\d*` -/
def isNumeral (s : String) : Bool := s = "0" || isPositive s

/-- `BASE`: three numerals between dots. -/
def isBase (s : String) : Bool :=
  match Text.split s '.' with
  | [major, minor, patch] => isNumeral major && isNumeral minor && isNumeral patch
  | _ => false

/-- `[0-9a-f]{n}` -/
def isHex (n : Nat) (s : String) : Bool :=
  s.toList.length = n && s.toList.all fun c => Text.isDigit c || ('a' ≤ c && c ≤ 'f')

/-- `SHA` -/
def isSha (s : String) : Bool := isHex 40 s

/-- `NIGHTLY`: fourteen digits, the run and the attempt between dots. -/
def isNightly (s : String) : Bool :=
  match Text.split s '.' with
  | [stamp, run, attempt] =>
      stamp.toList.length = 14 && stamp.toList.all Text.isDigit && isPositive run &&
        isPositive attempt
  | _ => false

/-- Days of a month of the proleptic Gregorian calendar. -/
def daysIn (year month : Nat) : Nat :=
  if month = 2 then
    if year % 4 = 0 ∧ (year % 100 ≠ 0 ∨ year % 400 = 0) then 29 else 28
  else if [4, 6, 9, 11].contains month then 30 else 31

/-- What a `datetime` accepts of its fields. -/
def isCalendar (year month day hour minute second : Nat) : Bool :=
  1 ≤ year && year ≤ 9999 && 1 ≤ month && month ≤ 12 && 1 ≤ day && day ≤ daysIn year month &&
    hour < 24 && minute < 60 && second < 60

/-- `datetime.strptime(stamp, "%Y%m%d%H%M%S")` of fourteen digits: four of them
are the year and each other field has two. -/
def isTimestamp (stamp : List Char) : Bool :=
  let field := fun start length => Text.digitsValue ((stamp.drop start).take length)
  isCalendar (field 0 4) (field 4 2) (field 6 2) (field 8 2) (field 10 2) (field 12 2)

example : isBase "1.20.0" ∧ isBase "1.02.0" = false ∧ isNightly "20260801053000.77.1" ∧
    isTimestamp "20240229235959".toList ∧ isTimestamp "20230229000000".toList = false := by decide

/-! ## Plans -/

/-- The `sequence` of a plan. -/
inductive Sequence where
  | none
  | number (n : Int)
  | text (s : String)
  deriving DecidableEq, Repr

/-- `str(sequence)` -/
def Sequence.str : Sequence → String
  | .none => "None"
  | .number n => toString n
  | .text s => s

structure Plan where
  schema_version : Int
  base_version : String
  version : String
  channel : String
  sequence : Sequence
  tag : String
  source_sha : String
  build_number : Option Int
  policy_sha256 : String
  promotion : String
  deriving DecidableEq, Repr

/-- The part of a declared version file that decides what is written into it. -/
structure Declaration where
  value : String := "package"
  ecosystem : String := "semver"
  prefixText : String := ""
  deriving DecidableEq, Repr

/-- `versioning` of the release policy.  `others` is every field that only the
digest of the policy reads. -/
structure Policy where
  promotion : String
  build_number_floor : Option Int
  files : List Declaration
  others : List (String × String)
  deriving DecidableEq, Repr

/-- `config.get("build_number_floor", 0)` -/
def Policy.floor (policy : Policy) : Int := policy.build_number_floor.getD 0

/-- `policy_digest`: a hash of the whole policy, sixty-four lowercase
hexadecimal digits. -/
structure PolicyDigest where
  of : Policy → String
  hex : ∀ policy, isHex 64 (of policy) = true

/-- `_declaration`, as far as a plan depends on it. -/
def declaration (item : Declaration) : Except Fault Unit := do
  requirePlan (["base", "full", "package", "build", "apple-build"].contains item.value)
    "Unsupported version projection"
  requirePlan (["semver", "pep440"].contains item.ecosystem)
    "Unsupported package version ecosystem"
  requirePlan (item.prefixText.toList.all fun c => !(['\r', '\n', '\x00'].contains c))
    "Invalid version prefix"

/-- `validate_policy`, as far as a plan depends on it. -/
def validate_policy (policy : Policy) : Except Fault Unit := do
  requirePlan (["promote-bytes", "final-build"].contains policy.promotion)
    "Unsupported promotion profile"
  requirePlan (policy.build_number_floor.all fun floor => 0 ≤ floor && floor < 2100000000)
    "Native build number floor must be an integer in 0..2099999999"
  requirePlan (policy.files ≠ []) "Policy requires explicit version files"
  policy.files.forM declaration

/-- `_identity` -/
def identity (base channel : String) (sequence : Sequence) : Except Fault String := do
  requirePlan (isBase base) "Base version must be strict X.Y.Z without prefix or suffix"
  requirePlan (["nightly", "beta", "rc", "stable"].contains channel) "Unsupported release channel"
  if channel = "stable" then
    requirePlan (sequence = .none) "Stable must not have a sequence"
    return base
  if channel = "nightly" then
    match sequence with
    | .text s =>
        requirePlan (isNightly s) "Nightly requires frozen UTCtimestamp.run.attempt suffix"
        requirePlan (isTimestamp ((s.toList.splitOn '.').headD [])) "Invalid nightly UTC timestamp"
    | _ => .error (.version "Nightly requires frozen UTCtimestamp.run.attempt suffix")
  else
    match sequence with
    | .number n => requirePlan (0 < n) "Beta/RC sequence must be a positive integer"
    | _ => .error (.version "Beta/RC sequence must be a positive integer")
  return base ++ "-" ++ channel ++ "." ++ sequence.str

/-! ## Projections -/

structure Projections where
  base : String
  full : String
  package : String
  build : Option Int
  appleBuild : Option String
  deriving DecidableEq, Repr

/-- `int(run) * 1_000_000 + int(attempt)` of a nightly sequence. -/
def nightlyNumber (sequence : Sequence) : Except Fault (Nat × Nat) :=
  match sequence with
  | .text s =>
      match Text.split s '.' with
      | [_, run, attempt] =>
          .ok (Text.digitsValue run.toList * 1000000 + Text.digitsValue attempt.toList,
            Text.digitsValue attempt.toList)
      | _ => .error (.python "not enough values to unpack")
  | _ => .error (.python "sequence is not a string")

/-- The package version of a plan. -/
def packageVersion (plan : Plan) (ecosystem : String) : Except Fault String :=
  if plan.channel = "rc" ∧ plan.promotion = "promote-bytes" then .ok plan.base_version
  else if ecosystem = "pep440" then
    if plan.channel = "beta" then .ok (plan.base_version ++ "b" ++ plan.sequence.str)
    else if plan.channel = "rc" then .ok (plan.base_version ++ "rc" ++ plan.sequence.str)
    else if plan.channel = "nightly" then do
      let number ← nightlyNumber plan.sequence
      requirePlan (number.2 < 1000000 && number.1 ≤ 2 ^ 64 - 2)
        "Nightly run or attempt is too large for PEP 440 projection"
      return plan.base_version ++ ".dev" ++ toString number.1
    else .ok plan.version
  else .ok plan.version

/-- The three components of an Apple build version, for the build number `n + 1`. -/
def appleParts (n : Nat) : Nat × Nat × Nat := (n / 10000 + 1, n / 100 % 100, n % 100)

def appleText (parts : Nat × Nat × Nat) : String :=
  toString parts.1 ++ "." ++ toString parts.2.1 ++ "." ++ toString parts.2.2

def appleBuild (build : Option Int) : Option String :=
  match build with
  | some number =>
      if 0 < number ∧ number ≤ 99990000 then some (appleText (appleParts (number.toNat - 1)))
      else none
  | none => none

def projections (plan : Plan) (ecosystem : String) : Except Fault Projections := do
  requirePlan (["semver", "pep440"].contains ecosystem) "Unsupported package ecosystem"
  let package ← packageVersion plan ecosystem
  return {
    base := plan.base_version
    full := plan.version
    package := package
    build := plan.build_number
    appleBuild := appleBuild plan.build_number }

/-- A projected value: a text or a number. -/
inductive Projected where
  | text (s : String)
  | number (n : Int)
  deriving DecidableEq, Repr

/-- `str(result)` -/
def Projected.str : Projected → String
  | .text s => s
  | .number n => toString n

/-- The projection of a kind; a kind that is not a key is a `KeyError`. -/
def Projections.get (result : Projections) (kind : String) : Except Fault (Option Projected) :=
  if kind = "base" then .ok (some (.text result.base))
  else if kind = "full" then .ok (some (.text result.full))
  else if kind = "package" then .ok (some (.text result.package))
  else if kind = "build" then .ok (result.build.map .number)
  else if kind = "apple-build" then .ok (result.appleBuild.map .text)
  else .error (.python "KeyError")

def projected_value (plan : Plan) (item : Declaration) : Except Fault Projected := do
  let result ← projections plan item.ecosystem
  let found ← result.get item.value
  match found with
  | none => .error (.version
      ("Projection " ++ item.value ++ " requires a valid allocated native build number"))
  | some value =>
      return if item.prefixText = "" then value else .text (item.prefixText ++ value.str)

/-! ## Making and accepting a plan -/

/-- `build is None or (type(build) is int and 0 < build <= 2_100_000_000)` -/
def buildInRange (build : Option Int) : Bool :=
  build.all fun number => 0 < number && number ≤ 2100000000

def create_plan (digest : PolicyDigest) (base channel : String) (sequence : Sequence)
    (source_sha : String) (policy : Policy) (build_number : Option Int) : Except Fault Plan := do
  validate_policy policy
  let version ← identity base channel sequence
  requirePlan (isSha source_sha) "Source SHA must be a full lowercase commit SHA"
  requirePlan (buildInRange build_number)
    "Build number must be a positive integer no greater than 2100000000"
  requirePlan (build_number.all fun number => policy.floor < number)
    "Build number must exceed the declared migration floor"
  let plan : Plan := {
    schema_version := 1
    base_version := base
    version := version
    channel := channel
    sequence := sequence
    tag := "v" ++ version
    source_sha := source_sha
    build_number := build_number
    policy_sha256 := digest.of policy
    promotion := policy.promotion }
  policy.files.forM fun item => do
    let _ ← projected_value plan item
  return plan

/-- `validate_plan` without a policy and a source to bind to. -/
def validate_plan (plan : Plan) : Except Fault Unit := do
  requirePlan (plan.schema_version = 1) "Unsupported release-plan schema"
  let version ← identity plan.base_version plan.channel plan.sequence
  requirePlan (plan.version = version && plan.tag = "v" ++ version)
    "Release version/tag/sequence disagree"
  requirePlan (isSha plan.source_sha) "Invalid plan source SHA"
  requirePlan (isHex 64 plan.policy_sha256) "Invalid policy digest"
  requirePlan (["promote-bytes", "final-build"].contains plan.promotion)
    "Invalid plan promotion profile"
  requirePlan (buildInRange plan.build_number) "Invalid native build number"

/-- `validate_plan(plan, policy, source_sha)` -/
def validate_bound_plan (digest : PolicyDigest) (plan : Plan) (policy : Policy)
    (source_sha : String) : Except Fault Unit := do
  validate_plan plan
  validate_policy policy
  requirePlan (plan.policy_sha256 = digest.of policy) "Release plan policy digest mismatch"
  requirePlan (plan.promotion = policy.promotion) "Release plan promotion policy mismatch"
  requirePlan (plan.build_number.all fun number => policy.floor < number)
    "Plan build number does not exceed the declared migration floor"
  policy.files.forM fun item => do
    let _ ← projected_value plan item
  requirePlan (plan.source_sha = source_sha) "Release plan source SHA mismatch"

end InverterGateway.Release

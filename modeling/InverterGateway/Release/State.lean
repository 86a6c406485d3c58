/-
# Release.State — reserving a plan and consuming its build number

The functions of `release_state.py`, with `next_sequence` and `ensure_absent` of
`release_control.py`, call by call.  A workflow run reserves one plan in the
ledger and gets it back whenever it asks again; before the first public change
it consumes the plan's build number by raising the publication floor to it.
-/
import InverterGateway.Release.GitHub

namespace InverterGateway.Release

set_option autoImplicit false

open InverterGateway.Theory

/-! ## Parts of `release_control.py` -/

/-- `str(positive(value, name))` of an integer. -/
def positiveKey (value : Int) (name : String) : Except Fault String :=
  if 0 < value then .ok (toString value) else .error (.release ("Invalid " ++ name))

/-- `ensure_absent` -/
def ensure_absent (tag : String) : Api Unit := do
  let ref ← Api.optional (.tagRef tag)
  Api.require ref.isNone ("Tag already exists: " ++ tag)
  let release ← Api.optional (.releaseByTag tag)
  Api.require release.isNone ("Release already exists: " ++ tag)
  -- The releases-by-tag endpoint hides drafts.
  let releases ← Api.api .releases
  Api.require (releases.all fun r => r.tag_name ≠ tag) ("Draft release already exists: " ++ tag)

/-- The sequence number in a tag that continues `lead`, as `next_sequence` reads it. -/
def sequenceOf (lead tag : String) : Option Int :=
  (Text.stripPrefix tag lead).bind fun rest =>
    if isPositive rest then some (Text.digitsValue rest.toList) else none

/-- `next_sequence` -/
def next_sequence (base_version channel : String) : Api Int := do
  Api.require (channel = "beta" || channel = "rc") "Sequence only applies to beta and rc"
  Api.require (isBase base_version) "Version must be strict X.Y.Z without leading zeros"
  let lead := "v" ++ base_version ++ "-" ++ channel ++ "."
  let tags : List String ← Api.api .tags
  let releases ← Api.api .releases
  let numbers := (tags ++ releases.map ReleaseData.tag_name).filterMap (sequenceOf lead)
  return (numbers.max?).getD 0 + 1

/-- A time of day of the proleptic Gregorian calendar, in UTC. -/
structure DateTime where
  year : Nat
  month : Nat
  day : Nat
  hour : Nat
  minute : Nat
  second : Nat
  calendar : isCalendar year month day hour minute second = true

/-- A number in at least `width` digits. -/
def pad (width n : Nat) : List Char :=
  List.replicate (width - (Nat.toDigits 10 n).length) '0' ++ Nat.toDigits 10 n

/-- `now.strftime("%Y%m%d%H%M%S")` -/
def DateTime.stamp (now : DateTime) : String :=
  String.ofList (pad 4 now.year ++ pad 2 now.month ++ pad 2 now.day ++ pad 2 now.hour ++
    pad 2 now.minute ++ pad 2 now.second)

/-! ## The ledger file -/

/-- The build number of a plan that must have one: comparing `None` with a
number is a `TypeError`. -/
def Plan.number (plan : Plan) : Except Fault Int :=
  match plan.build_number with
  | some number => .ok number
  | none => .error (.python "'<=' not supported between instances of 'NoneType' and 'int'")

def requireLedger (condition : Bool) (message : String) : Except Fault Unit :=
  if condition then .ok () else .error (.release message)

/-- The check of one reservation in `read_state`. -/
def checkReservation (counter : Int) (entry : String × Reservation) : Except Fault Unit := do
  requireLedger (isPositive entry.1) "Invalid ledger run ID"
  validate_plan entry.2.plan
  let number ← entry.2.plan.number
  requireLedger (number ≤ counter) "Ledger counter moved backwards"

/-- The checks of the ledger in `read_state`. -/
def checkLedger (state : Ledger) : Except Fault Unit := do
  requireLedger (state.schema = 1) "Unsupported version ledger schema"
  requireLedger (0 ≤ state.counter) "Invalid ledger counter"
  requireLedger (0 ≤ state.publication_floor && state.publication_floor ≤ state.counter)
    "Invalid ledger publication floor"
  state.plans.forM (checkReservation state.counter)

/-- `read_state` -/
def read_state (platform : Platform) : Api (Ledger × Option String) := do
  let content ← Api.optional .contents
  match content with
  | none =>
      let ref ← Api.optional .branchRef
      Api.require ref.isNone
        "Version ledger is missing from its existing branch; restore it from history"
      return (.empty, none)
  | some (file : File) =>
      Api.require (file.type = "file" && file.encoding = "base64")
        "Ledger must be a regular JSON file"
      Api.require (file.raw.length ≤ 4000000)
        "Ledger requires compaction before another allocation"
      let state ← Dialogue.ofExcept (platform.parse file.raw)
      Dialogue.ofExcept (checkLedger state)
      Api.require (isSha file.sha) "Invalid ledger blob SHA"
      return (state, some file.sha)

/-- `write_state` -/
def write_state (platform : Platform) (state : Ledger) (previous : Option String) : Api Unit :=
  Api.api (.putContents (platform.encode state) previous)

/-! ## Reserving -/

/-- What a run asks `reserve_plan` for. -/
structure Reserve where
  policy : Policy
  base : String
  channel : String
  source_sha : String
  run_id : Int
  attempt : Int
  now : DateTime
  parent : Option Parent

/-- The sequence numbers that reservations of the ledger hold for a base and channel. -/
def reservedSequences (state : Ledger) (base channel : String) : List Int :=
  state.plans.filterMap fun entry =>
    if entry.2.plan.base_version = base ∧ entry.2.plan.channel = channel then
      match entry.2.plan.sequence with
      | .number n => some n
      | _ => none
    else none

/-- The sequence of a new plan. -/
def newSequence (state : Ledger) (request : Reserve) : Api Sequence :=
  if request.channel = "beta" ∨ request.channel = "rc" then do
    let next ← next_sequence request.base request.channel
    let reserved := reservedSequences state request.base request.channel
    return .number (max next ((reserved.max?).getD 0 + 1))
  else if request.channel = "nightly" then
    return .text (request.now.stamp ++ "." ++ toString request.run_id ++ "." ++
      toString request.attempt)
  else return .none

/-- The ledger after a reservation. -/
def Ledger.reserve (state : Ledger) (number : Int) (run_key : String) (plan : Plan)
    (parent : Option Parent) : Ledger :=
  { state with counter := number, plans := state.plans ++ [(run_key, ⟨plan, some parent, []⟩)] }

/-- `reserve_plan` -/
def reserve_plan (platform : Platform) (digest : PolicyDigest) (request : Reserve) :
    Api Plan := do
  let run_key ← Dialogue.ofExcept (positiveKey request.run_id "run ID")
  let (state, previous) ← read_state platform
  match state.plans.lookup run_key with
  | some record =>
      Dialogue.ofExcept
        (validate_bound_plan digest record.plan request.policy request.source_sha)
      Api.require
        (record.plan.base_version = request.base && record.plan.channel = request.channel)
        "Run already reserved a different release identity"
      Api.require (record.parent.join = request.parent) "Run already reserved a different RC"
      return record.plan
  | none =>
      let sequence ← newSequence state request
      Api.require (0 ≤ request.policy.floor) "Invalid native build counter floor"
      let number := max state.counter request.policy.floor + 1
      let plan ← Dialogue.ofExcept (create_plan digest request.base request.channel sequence
        request.source_sha request.policy (some number))
      ensure_absent plan.tag
      let ref ← Api.optional .branchRef
      if ref.isNone then Api.api (.createBranch request.source_sha)
      write_state platform (state.reserve number run_key plan request.parent) previous
      return plan

/-! ## Consuming a build number -/

/-- The tags of the releases that are not drafts. -/
def publishedTags (releases : List ReleaseData) : List String :=
  (releases.filter fun r => !r.draft).map ReleaseData.tag_name

/-- `_verify_reservation` -/
def verify_reservation_in (state : Ledger) (plan : Plan) (run_id : Int)
    (parent : Option Parent) : Api Unit := do
  Dialogue.ofExcept (validate_plan plan)
  let run_key ← Dialogue.ofExcept (positiveKey run_id "run ID")
  Api.require (state.plans.lookup run_key = some ⟨plan, some parent, []⟩)
    "Version reservation differs from build plan"
  let number ← Dialogue.ofExcept plan.number
  Api.require (state.publication_floor < number)
    "Build number has already reached or fallen below the publication floor"
  let releases ← Api.api .releases
  Api.require (state.plans.all fun entry =>
      !((publishedTags releases).contains entry.2.plan.tag &&
        entry.2.plan.build_number.any fun n => number ≤ n))
    "A package with this or a newer build number was already published"

/-- `verify_reservation` -/
def verify_reservation (platform : Platform) (plan : Plan) (run_id : Int)
    (parent : Option Parent) : Api Unit := do
  let (state, _) ← read_state platform
  verify_reservation_in state plan run_id parent

/-- `_verify_promotion_order` -/
def verify_promotion_order_in (state : Ledger) (plan : Plan) : Api Unit := do
  Dialogue.ofExcept (validate_plan plan)
  Api.require (plan.channel = "rc" && plan.promotion = "promote-bytes")
    "Byte promotion requires a promote-bytes RC plan"
  Api.require ((state.plans.filter fun entry => entry.2.plan = plan).length = 1)
    "Accepted RC has no unique durable version reservation"
  let number ← Dialogue.ofExcept plan.number
  Api.require (state.publication_floor ≤ number)
    "Accepted RC build number is below the publication floor"
  let releases ← Api.api .releases
  Api.require ((publishedTags releases).contains plan.tag) "Accepted RC is no longer published"
  Api.require (state.plans.all fun entry =>
      !(entry.2.plan.tag ≠ plan.tag && (publishedTags releases).contains entry.2.plan.tag &&
        entry.2.plan.build_number.any fun n => number < n))
    "A newer native build was published after the accepted RC"

/-- `verify_promotion_order` -/
def verify_promotion_order (platform : Platform) (plan : Plan) : Api Unit := do
  let (state, _) ← read_state platform
  verify_promotion_order_in state plan

/-- `begin_publication`: the bytes of the ledger that consumed the number. -/
def begin_publication (platform : Platform) (plan : Plan) (run_id : Int)
    (parent : Option Parent) (promotion : Bool) : Api Bytes := do
  let _ ← Dialogue.ofExcept (positiveKey run_id "run ID")
  let (state, previous) ← read_state platform
  if promotion then verify_promotion_order_in state plan
  else verify_reservation_in state plan run_id parent
  let number ← Dialogue.ofExcept plan.number
  let consumed := { state with publication_floor := number }
  write_state platform consumed previous
  return platform.encode consumed

end InverterGateway.Release

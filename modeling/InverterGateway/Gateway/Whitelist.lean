/-
# Gateway.Whitelist — which commands may be written, and with what

`execute` turns a command name and a JSON body into at most one request on the
command channel.  Two native commands are constants; six controller commands
carry a validated payload to a fixed topic; the pump mode command names its pump
by a decimal instance.  `Whitelisted` lists exactly these requests, and
`execute_whitelisted` says that nothing else is ever queued.
-/
import InverterGateway.Gateway.Commands

namespace InverterGateway.Gateway

open InverterGateway.Theory

set_option autoImplicit false

/-! ## State and errors -/

/-- The topic prefixes of the configuration. -/
structure Config where
  topicPrefix : String
  writeTopicPrefix : String
  inverterTopicPrefix : String

/-- The command channel seen from its senders. -/
structure CommandChannel where
  queue : List CommandRequest
  closed : Bool

/-- The application state: `commandTx` is set once the bridge is wired. -/
structure AppState (F : Type) where
  shared : Shared F
  commandTx : Option CommandChannel
  cfg : Config

inductive CommandError where
  | unknownCommand (name : String)
  | notWired
  | publishFailed (message : String)
  | invalidBody (message : String)
  | unavailable
  deriving DecidableEq

namespace CommandError

def message : CommandError → String
  | .unknownCommand name => "unknown command: " ++ name
  | .notWired => "command not wired to MQTT"
  | .publishFailed e => "mqtt publish failed: " ++ e
  | .invalidBody e => e
  | .unavailable => "command target telemetry unavailable"

end CommandError

/-! ## Names -/

/-- The native commands: topic below the write prefix and payload. -/
def builtinWhitelist : List (String × (String × String)) :=
  [("silence_alarm", ("vebus/0/Alarm", "\x7b\"SilenceAlarm\":\"1\"\x7d")),
    ("acknowledge_all_notifications",
      ("platform/0/Notifications/AcknowledgeAll", "\x7b\"value\":1\x7d"))]

/-- The commands of the inverter controller. -/
def controllerNames : List String :=
  ["toggle", "dry_run", "ess_mode", "set_ess_mode", "setpoint_override", "electricity_tariff"]

/-- `is_known`. -/
def isKnown (name : String) : Bool :=
  (builtinWhitelist.lookup name).isSome ||
    ["toggle", "dry_run", "ess_mode", "set_ess_mode", "water_mode", "setpoint_override",
      "electricity_tariff"].contains name

def essModes : List String :=
  ["off", "on", "optimized_with_battery_life", "optimized_without_battery_life",
    "keep_batteries_charged", "external_control"]

def controlFlags : List String :=
  ["only_charging", "no_feed", "house_support", "charge_battery", "do_not_supply_charger",
    "set_limit_to_ev_charger", "minimize_charging"]

/-! ## Payloads -/

section Payloads

variable {F : Type}

def isAsciiAlphanumeric (c : Char) : Bool :=
  Text.isDigit c || (decide ('a' ≤ c) && decide (c ≤ 'z')) || (decide ('A' ≤ c) && decide (c ≤ 'Z'))

/-- A request id: 1 to 128 bytes of letters, digits and `._:-`. -/
def validRequestId (id : String) : Bool :=
  !id.isEmpty && decide (id.utf8ByteSize ≤ 128) &&
    id.toList.all fun c => isAsciiAlphanumeric c || ['.', '_', ':', '-'].contains c

/-- A revision: 64 lowercase hexadecimal digits. -/
def validRevision (revision : String) : Bool :=
  revision.utf8ByteSize == 64 &&
    revision.toList.all fun c => Text.isDigit c || (decide ('a' ≤ c) && decide (c ≤ 'f'))

def hasRequestId (object : Entries F) : Bool :=
  ((object.get "request_id").bind Value.asStr).any validRequestId

/-- `validate_ess_selection`. -/
def validateEssSelection (body : Value F) : Except String Unit :=
  if (body.asObject.any fun object => object.length == 2) &&
      (((body.get "mode").bind Value.asStr).any fun mode => essModes.contains mode) &&
      ((body.get "request_id").bind Value.asStr).any validRequestId then
    .ok ()
  else .error "Invalid ESS mode selection"

def invalidPayload : CommandError := .invalidBody "invalid inverter-control command payload"

/-- The switch position a toggle names. -/
def toggleState : Option (Value F) → Option Bool
  | some (.bool value) => some value
  | some (.number n) =>
      if Value.asI64 (.number n : Value F) = some 0 then some false
      else if Value.asI64 (.number n : Value F) = some 1 then some true
      else none
  | some (.string s) =>
      match Text.toAsciiLowercase (Text.trim s) with
      | "on" | "true" | "1" => some true
      | "off" | "false" | "0" => some false
      | _ => none
  | _ => none

/-- The flag a toggle names, with or without its prefix. -/
def toggleKey (entity : String) : String :=
  let entity := Text.trim entity
  (Text.stripPrefix entity "input_boolean.").getD entity

/-- The `toggle` arm: the one payload that is rebuilt rather than passed on. -/
def togglePayload (object : Entries F) : Except CommandError (Value F) :=
  if object.length ≠ 2 then .error invalidPayload
  else
    match (object.get "entity").bind Value.asStr with
    | none => .error invalidPayload
    | some entity =>
        if !controlFlags.contains (toggleKey entity) then .error invalidPayload
        else
          match toggleState (object.get "state") with
          | none => .error invalidPayload
          | some enabled =>
              .ok (.object [("entity", .string (toggleKey entity)),
                ("state", .string (if enabled then "on" else "off"))])

/-- A setpoint: null or a 32-bit integer. -/
def validSetpoint (value : Value F) : Bool :=
  value.isNull || value.asI64.any fun i => decide (-2 ^ 31 ≤ i) && decide (i < 2 ^ 31)

/-- `controller_payload`. -/
def controllerPayload [Binary64 F] (name : String) (body : Value F) :
    Except CommandError (Value F) :=
  match body.asObject with
  | none => .error invalidPayload
  | some object =>
      match name with
      | "toggle" => togglePayload object
      | "dry_run" =>
          if object.length == 1 && (object.get "value").any Value.isBoolean then .ok body
          else .error invalidPayload
      | "ess_mode" => if object.isEmpty then .ok body else .error invalidPayload
      | "set_ess_mode" =>
          match validateEssSelection body with
          | .ok () => .ok body
          | .error e => .error (.invalidBody e)
      | "electricity_tariff" =>
          if object.length == 3 && hasRequestId object &&
              ((object.get "revision").bind Value.asStr).any validRevision &&
              ((object.get "plan").any fun plan => plan.isNull || plan.isObject) &&
              decide (body.render.utf8ByteSize ≤ 100000) then
            .ok body
          else .error invalidPayload
      | "setpoint_override" =>
          if object.length == 2 && (object.get "value").any validSetpoint && hasRequestId object then
            .ok body
          else .error invalidPayload
      | _ => .error invalidPayload

end Payloads

/-! ## Execution -/

section Execute

variable {F : Type} [Binary64 F]

def invalidWater : CommandError := .invalidBody "expected integer instance and mode (0, 1 or 2)"

/-- The topic of a pump's mode. -/
def waterTopic (cfg : Config) (inst : UInt32) : String :=
  cfg.writeTopicPrefix ++ "pump/" ++ toString inst.toNat ++ "/Mode"

/-- The payload of a pump mode. -/
def waterPayload (mode : UInt64) : String :=
  (Value.object [("value", .number (.posInt mode))] : Value F).render

/-- `water_request`. -/
def waterRequest (state : AppState F) (now : Instant) (body : Value F) :
    Except CommandError CommandRequest :=
  match body.asObject with
  | none => .error invalidWater
  | some object =>
      if object.length ≠ 2 then .error invalidWater
      else
        match (object.get "instance").bind Value.asU64, (object.get "mode").bind Value.asU64 with
        | some inst, some mode =>
            if 2 ^ 32 ≤ inst then .error invalidWater
            else if 2 < mode then .error invalidWater
            else
              match state.shared.guardedCommand now (waterTopic state.cfg (.ofNat inst))
                  (waterPayload (F := F) (.ofNat mode)) (.water (.ofNat inst)) with
              | some request => .ok request
              | none => .error .unavailable
        | _, _ => .error invalidWater

/-- The target a controller command depends on. -/
def controllerTarget : String → CommandTarget
  | "set_ess_mode" => .essSelection
  | "electricity_tariff" => .electricityTariff
  | "setpoint_override" => .setpointOverride
  | _ => .controller

/-- The topic of a controller command. -/
def controllerTopic (cfg : Config) (name : String) : String :=
  cfg.inverterTopicPrefix ++ "/cmd/" ++ name

/-- The first half of `execute`: the request a command stands for. -/
def commandRequest (state : AppState F) (now : Instant) (name : String) (body : Value F) :
    Except CommandError CommandRequest :=
  if name = "water_mode" then waterRequest state now body
  else if name ∈ controllerNames then
    match controllerPayload name body with
    | .error e => .error e
    | .ok payload =>
        match state.shared.guardedCommand now (controllerTopic state.cfg name) payload.render
            (controllerTarget name) with
        | some request => .ok request
        | none => .error .unavailable
  else
    match builtinWhitelist.lookup name with
    | none => .error (.unknownCommand name)
    | some (topicSuffix, payload) =>
        .ok ⟨state.cfg.writeTopicPrefix ++ topicSuffix, payload, none⟩

/-- `execute`: queue the request on the command channel. -/
def execute (state : AppState F) (now : Instant) (name : String) (body : Value F) :
    Except CommandError Unit × AppState F :=
  match commandRequest state now name body with
  | .error e => (.error e, state)
  | .ok request =>
      match state.commandTx with
      | none => (.error .notWired, state)
      | some tx =>
          if tx.closed then (.error (.publishFailed "channel closed"), state)
          else (.ok (), { state with commandTx := some { tx with queue := tx.queue ++ [request] } })

end Execute

/-! ## Schemas -/

section Schemas

variable {F : Type}

/-- A request id as documented: 1 to 128 bytes of letters, digits and `._:-`. -/
structure RequestId (id : String) : Prop where
  nonempty : id ≠ ""
  short : id.utf8ByteSize ≤ 128
  characters : ∀ c ∈ id.toList, isAsciiAlphanumeric c = true ∨ c ∈ ['.', '_', ':', '-']

/-- A revision as documented: 64 lowercase hexadecimal digits. -/
structure Revision (revision : String) : Prop where
  length : revision.utf8ByteSize = 64
  characters : ∀ c ∈ revision.toList, Text.isDigit c = true ∨ ('a' ≤ c ∧ c ≤ 'f')

/-- The payloads each controller command may publish. -/
inductive Schema [Binary64 F] : String → Value F → Prop
  | toggle (flag : String) (known : flag ∈ controlFlags) (enabled : Bool) :
      Schema "toggle" (.object [("entity", .string flag),
        ("state", .string (if enabled then "on" else "off"))])
  | dryRun (value : Bool) : Schema "dry_run" (.object [("value", .bool value)])
  | essMode : Schema "ess_mode" (.object [])
  | setEssMode (m : Entries F) (size : m.length = 2) (mode : String) (allowed : mode ∈ essModes)
      (hasMode : m.get "mode" = some (.string mode)) (id : String) (valid : RequestId id)
      (hasId : m.get "request_id" = some (.string id)) : Schema "set_ess_mode" (.object m)
  | setpointOverride (m : Entries F) (size : m.length = 2) (value : Value F)
      (range : value = .null ∨ ∃ i, value.asI64 = some i ∧ -2 ^ 31 ≤ i ∧ i < 2 ^ 31)
      (hasValue : m.get "value" = some value) (id : String) (valid : RequestId id)
      (hasId : m.get "request_id" = some (.string id)) : Schema "setpoint_override" (.object m)
  | electricityTariff (m : Entries F) (size : m.length = 3) (id : String) (valid : RequestId id)
      (hasId : m.get "request_id" = some (.string id)) (revision : String)
      (digits : Revision revision) (hasRevision : m.get "revision" = some (.string revision))
      (plan : Value F) (shape : plan = .null ∨ ∃ entries, plan = .object entries)
      (hasPlan : m.get "plan" = some plan)
      (bounded : (Value.object m : Value F).render.utf8ByteSize ≤ 100000) :
      Schema "electricity_tariff" (.object m)

theorem requestId_of_valid {id : String} (valid : validRequestId id = true) : RequestId id := by
  simp only [validRequestId, Bool.and_eq_true, Bool.not_eq_true', decide_eq_true_eq,
    List.all_eq_true, Bool.or_eq_true, List.contains_iff_mem] at valid
  obtain ⟨⟨nonempty, short⟩, characters⟩ := valid
  refine ⟨fun empty => ?_, short, characters⟩
  rw [empty] at nonempty
  exact absurd nonempty (by decide)

theorem revision_of_valid {revision : String} (valid : validRevision revision = true) :
    Revision revision := by
  simp only [validRevision, Bool.and_eq_true, beq_iff_eq, List.all_eq_true, Bool.or_eq_true,
    decide_eq_true_eq] at valid
  exact ⟨valid.1, valid.2⟩

/-- A string entry that passes a check. -/
theorem any_asStr {entry : Option (Value F)} {p : String → Bool}
    (valid : (entry.bind Value.asStr).any p = true) :
    ∃ s, entry = some (.string s) ∧ p s = true := by
  cases entry with
  | none => cases valid
  | some v =>
      cases v with
      | string s => exact ⟨s, rfl, valid⟩
      | _ => cases valid

theorem hasRequestId_iff {m : Entries F} (valid : hasRequestId m = true) :
    ∃ id, m.get "request_id" = some (.string id) ∧ RequestId id := by
  obtain ⟨id, found, ok⟩ := any_asStr valid
  exact ⟨id, found, requestId_of_valid ok⟩

variable [Binary64 F]

theorem togglePayload_schema {m : Entries F} {p : Value F} (accepted : togglePayload m = .ok p) :
    Schema "toggle" p := by
  unfold togglePayload at accepted
  split at accepted
  · cases accepted
  split at accepted
  · cases accepted
  split at accepted
  · cases accepted
  rename_i known
  split at accepted
  · cases accepted
  · cases accepted
    simp only [Bool.not_eq_true', Bool.not_eq_false, List.contains_iff_mem] at known
    exact .toggle _ known _

/-- **Every accepted payload has the documented shape.** -/
theorem controllerPayload_schema {name : String} {body p : Value F}
    (accepted : controllerPayload name body = .ok p) : Schema name p := by
  unfold controllerPayload at accepted
  split at accepted
  · cases accepted
  rename_i m object
  obtain rfl := Value.asObject_eq_some.1 object
  split at accepted
  · exact togglePayload_schema accepted
  · split at accepted
    · rename_i ok
      cases accepted
      simp only [Bool.and_eq_true, beq_iff_eq, Option.any_eq_true] at ok
      obtain ⟨size, v, found, boolean⟩ := ok
      obtain ⟨b, rfl⟩ := Value.isBoolean_iff.1 boolean
      obtain ⟨⟨key, v⟩, rfl⟩ := List.length_eq_one_iff.1 size
      simp only [Entries.get] at found
      split at found
      · rename_i same
        obtain rfl := Option.some.inj found
        rw [same]
        exact .dryRun b
      · cases found
    · cases accepted
  · split at accepted
    · rename_i empty
      cases accepted
      obtain rfl := List.isEmpty_iff.1 empty
      exact .essMode
    · cases accepted
  · split at accepted
    · rename_i ok
      cases accepted
      unfold validateEssSelection at ok
      split at ok
      · rename_i valid
        simp only [Bool.and_eq_true, Value.get_object] at valid
        obtain ⟨⟨size, mode⟩, id⟩ := valid
        obtain ⟨mode, hasMode, allowed⟩ := any_asStr mode
        obtain ⟨id, hasId, idValid⟩ := any_asStr id
        exact .setEssMode m (by simpa [Value.asObject] using size) mode
          (List.contains_iff_mem.1 allowed) hasMode id (requestId_of_valid idValid) hasId
      · cases ok
    · cases accepted
  · split at accepted
    · rename_i ok
      cases accepted
      simp only [Bool.and_eq_true, beq_iff_eq, decide_eq_true_eq] at ok
      obtain ⟨⟨⟨⟨size, id⟩, revision⟩, plan⟩, bounded⟩ := ok
      obtain ⟨id, hasId, idValid⟩ := hasRequestId_iff id
      obtain ⟨revision, hasRevision, digits⟩ := any_asStr revision
      obtain ⟨plan, hasPlan, shape⟩ := Option.any_eq_true _ _ |>.1 plan
      rw [Bool.or_eq_true, Value.isNull_iff, Value.isObject_iff] at shape
      exact .electricityTariff m size id idValid hasId revision (revision_of_valid digits)
        hasRevision plan shape hasPlan bounded
    · cases accepted
  · split at accepted
    · rename_i ok
      cases accepted
      simp only [Bool.and_eq_true, beq_iff_eq] at ok
      obtain ⟨⟨size, value⟩, id⟩ := ok
      obtain ⟨id, hasId, idValid⟩ := hasRequestId_iff id
      obtain ⟨value, hasValue, range⟩ := Option.any_eq_true _ _ |>.1 value
      refine .setpointOverride m size value ?_ hasValue id idValid hasId
      rw [validSetpoint, Bool.or_eq_true, Value.isNull_iff] at range
      rcases range with null | integer
      · exact Or.inl null
      · obtain ⟨i, known, within⟩ := Option.any_eq_true _ _ |>.1 integer
        simp only [Bool.and_eq_true, decide_eq_true_eq] at within
        exact Or.inr ⟨i, known, within⟩
    · cases accepted
  · cases accepted

end Schemas

/-! ## Whitelisted requests -/

section Requests

variable {F : Type} [Binary64 F]

/-- The requests a command of the given name may queue. -/
inductive Whitelisted (F : Type) [Binary64 F] (cfg : Config) : String → CommandRequest → Prop
  | silenceAlarm : Whitelisted F cfg "silence_alarm"
      ⟨cfg.writeTopicPrefix ++ "vebus/0/Alarm", "\x7b\"SilenceAlarm\":\"1\"\x7d", none⟩
  | acknowledgeAll : Whitelisted F cfg "acknowledge_all_notifications"
      ⟨cfg.writeTopicPrefix ++ "platform/0/Notifications/AcknowledgeAll",
        "\x7b\"value\":1\x7d", none⟩
  | controller (name : String) (known : name ∈ controllerNames) (payload : Value F)
      (shape : Schema name payload) (generation : Nat) (queued : Instant) : Whitelisted F cfg name
      ⟨cfg.inverterTopicPrefix ++ "/cmd/" ++ name, payload.render,
        some ⟨generation, queued, controllerTarget name⟩⟩
  | water (inst : UInt32) (mode : UInt64) (range : mode.toNat ≤ 2) (generation : Nat)
      (queued : Instant) : Whitelisted F cfg "water_mode"
      ⟨cfg.writeTopicPrefix ++ "pump/" ++ toString inst.toNat ++ "/Mode",
        (Value.object [("value", .number (.posInt mode))] : Value F).render,
        some ⟨generation, queued, .water inst⟩⟩

theorem waterRequest_whitelisted {state : AppState F} {now : Instant} {body : Value F}
    {request : CommandRequest} (built : waterRequest state now body = .ok request) :
    Whitelisted F state.cfg "water_mode" request := by
  unfold waterRequest at built
  split at built
  · cases built
  split at built
  · cases built
  split at built
  · split at built
    · cases built
    split at built
    · cases built
    rename_i inst mode _ _ _ range
    split at built
    · rename_i created
      cases built
      obtain ⟨-, rfl⟩ := Shared.guardedCommand_eq_some.1 created
      refine .water _ _ ?_ _ _
      rw [UInt64.toNat_ofNat']
      have small := Nat.mod_le mode (2 ^ 64)
      omega
    · cases built
  · cases built

theorem builtin_lookup {name : String} {entry : String × String}
    (found : builtinWhitelist.lookup name = some entry) :
    (name = "silence_alarm" ∧ entry = ("vebus/0/Alarm", "\x7b\"SilenceAlarm\":\"1\"\x7d")) ∨
      (name = "acknowledge_all_notifications" ∧
        entry = ("platform/0/Notifications/AcknowledgeAll", "\x7b\"value\":1\x7d")) := by
  obtain ⟨before, after, same, -⟩ := List.lookup_eq_some_iff.1 found
  have listed : (name, entry) ∈ builtinWhitelist := by rw [same]; simp
  simpa [builtinWhitelist] using listed

/-- **Only whitelisted requests are built.** -/
theorem commandRequest_whitelisted {state : AppState F} {now : Instant} {name : String}
    {body : Value F} {request : CommandRequest}
    (built : commandRequest state now name body = .ok request) :
    Whitelisted F state.cfg name request := by
  unfold commandRequest at built
  split at built
  · rename_i water
    subst water
    exact waterRequest_whitelisted built
  split at built
  · rename_i known
    split at built
    · cases built
    rename_i payload accepted
    split at built
    · rename_i created
      cases built
      obtain ⟨-, rfl⟩ := Shared.guardedCommand_eq_some.1 created
      exact .controller name known payload (controllerPayload_schema accepted) _ _
    · cases built
  · split at built
    · cases built
    · rename_i found
      cases built
      rcases builtin_lookup found with ⟨rfl, same⟩ | ⟨rfl, same⟩
      · cases same
        exact .silenceAlarm
      · cases same
        exact .acknowledgeAll

/-! ## Unknown commands -/

theorem waterRequest_error {state : AppState F} {now : Instant} {body : Value F} {name : String} :
    waterRequest state now body ≠ .error (.unknownCommand name) := by
  unfold waterRequest invalidWater
  intro unknown
  split at unknown
  · cases unknown
  split at unknown
  · cases unknown
  split at unknown
  · split at unknown
    · cases unknown
    split at unknown
    · cases unknown
    split at unknown <;> cases unknown
  · cases unknown

theorem controllerPayload_error {name : String} {body : Value F} {other : String} :
    controllerPayload name body ≠ .error (.unknownCommand other) := by
  have toggled : ∀ m : Entries F, togglePayload m ≠ .error (.unknownCommand other) := by
    intro m unknown
    unfold togglePayload invalidPayload at unknown
    split at unknown
    · cases unknown
    split at unknown
    · cases unknown
    split at unknown
    · cases unknown
    split at unknown <;> cases unknown
  unfold controllerPayload invalidPayload
  intro unknown
  split at unknown
  · cases unknown
  split at unknown
  · exact toggled _ unknown
  · split at unknown <;> cases unknown
  · split at unknown <;> cases unknown
  · split at unknown <;> cases unknown
  · split at unknown <;> cases unknown
  · split at unknown <;> cases unknown
  · cases unknown

theorem isKnown_iff {name : String} :
    isKnown name = true ↔
      name = "water_mode" ∨ name ∈ controllerNames ∨ (builtinWhitelist.lookup name).isSome = true := by
  simp only [isKnown, Bool.or_eq_true, List.contains_iff_mem, controllerNames, List.mem_cons,
    List.not_mem_nil, or_false]
  tauto

/-- An unknown name is the only way to the unknown-command answer. -/
theorem commandRequest_unknown_iff (state : AppState F) (now : Instant) (name : String)
    (body : Value F) :
    commandRequest state now name body = .error (.unknownCommand name) ↔ isKnown name = false := by
  rw [← Bool.not_eq_true, isKnown_iff]
  unfold commandRequest
  split
  · rename_i water
    simp [water, waterRequest_error]
  split
  · rename_i known
    simp only [known, true_or, or_true, not_true_eq_false, iff_false]
    split
    · rename_i e refused
      intro unknown
      obtain rfl : e = .unknownCommand name := by simpa using unknown
      exact controllerPayload_error refused
    · split <;> simp
  · rename_i notWater notController
    split
    · rename_i missing
      simp [notWater, notController, missing]
    · rename_i found
      simp [found]

/-- The three ways a command can end. -/
theorem execute_cases (state : AppState F) (now : Instant) (name : String) (body : Value F) :
    (∃ e, commandRequest state now name body = .error e ∧
      execute state now name body = (.error e, state)) ∨
    (∃ request e, commandRequest state now name body = .ok request ∧
      (e = .notWired ∨ e = .publishFailed "channel closed") ∧
      execute state now name body = (.error e, state)) ∨
    (∃ request tx, commandRequest state now name body = .ok request ∧ state.commandTx = some tx ∧
      execute state now name body =
        (.ok (), { state with commandTx := some { tx with queue := tx.queue ++ [request] } })) := by
  unfold execute
  cases built : commandRequest state now name body with
  | error e => exact Or.inl ⟨e, rfl, rfl⟩
  | ok request =>
      right
      cases wired : state.commandTx with
      | none => exact Or.inl ⟨request, _, rfl, Or.inl rfl, rfl⟩
      | some tx =>
          cases shut : tx.closed with
          | true => exact Or.inl ⟨request, _, rfl, Or.inr rfl, by simp [shut]⟩
          | false => exact Or.inr ⟨request, tx, rfl, rfl, by simp [shut]⟩

omit [Binary64 F] in
/-- A queue never equals itself with one more request. -/
theorem queue_grows {state : AppState F} {tx : CommandChannel} {request : CommandRequest}
    (wired : state.commandTx = some tx) :
    state.commandTx ≠ some { tx with queue := tx.queue ++ [request] } := by
  rw [wired]
  intro same
  have length := congrArg List.length (congrArg CommandChannel.queue (Option.some.inj same))
  simp at length

/-- **Whitelist-only writes.**  A command succeeds exactly when it put one request
on the channel, and otherwise changes nothing; every request is whitelisted
under the command's name; and a name is unknown exactly when every body is
answered so. -/
theorem execute_whitelisted (state : AppState F) (now : Instant) (name : String) (body : Value F) :
    ((execute state now name body).1 = .ok () ↔
      ∃ tx request, state.commandTx = some tx ∧ (execute state now name body).2 =
        { state with commandTx := some { tx with queue := tx.queue ++ [request] } }) ∧
    ((execute state now name body).1 ≠ .ok () → (execute state now name body).2 = state) ∧
    (∀ tx request, state.commandTx = some tx →
      (execute state now name body).2.commandTx = some { tx with queue := tx.queue ++ [request] } →
      Whitelisted F state.cfg name request) ∧
    (isKnown name = false ↔
      ∀ other, (execute state now name other).1 = .error (.unknownCommand name)) := by
  refine ⟨?_, ?_, ?_, ?_⟩
  · rcases execute_cases state now name body with
      ⟨e, -, same⟩ | ⟨request, e, -, -, same⟩ | ⟨request, tx, -, wired, same⟩
    · rw [same]
      refine ⟨(fun ok => by cases ok), ?_⟩
      rintro ⟨tx, request, wired, grown⟩
      exact absurd (congrArg AppState.commandTx grown) (queue_grows wired)
    · rw [same]
      refine ⟨(fun ok => by cases ok), ?_⟩
      rintro ⟨tx, request, wired, grown⟩
      exact absurd (congrArg AppState.commandTx grown) (queue_grows wired)
    · rw [same]
      exact ⟨fun _ => ⟨tx, request, wired, rfl⟩, fun _ => rfl⟩
  · intro failed
    rcases execute_cases state now name body with
      ⟨e, -, same⟩ | ⟨request, e, -, -, same⟩ | ⟨request, tx, -, -, same⟩
    · rw [same]
    · rw [same]
    · rw [same] at failed
      exact absurd rfl failed
  · intro tx request wired added
    rcases execute_cases state now name body with
      ⟨e, -, same⟩ | ⟨other, e, -, -, same⟩ | ⟨other, tx', built, wired', same⟩
    · rw [same] at added
      exact absurd added (queue_grows wired)
    · rw [same] at added
      exact absurd added (queue_grows wired)
    · rw [same] at added
      rw [wired] at wired'
      obtain rfl := Option.some.inj wired'
      have queues := congrArg CommandChannel.queue (Option.some.inj added)
      obtain rfl : other = request := by simpa using queues
      exact commandRequest_whitelisted built
  · have answered : ∀ other : Value F,
        (execute state now name other).1 = .error (.unknownCommand name) ↔ isKnown name = false := by
      intro other
      rw [← commandRequest_unknown_iff state now name other]
      rcases execute_cases state now name other with
        ⟨e, built, same⟩ | ⟨request, e, built, kind, same⟩ | ⟨request, tx, built, -, same⟩
      · rw [same, built]
        simp
      · rw [same, built]
        rcases kind with rfl | rfl <;> simp
      · rw [same, built]
        simp
    exact ⟨fun unknown other => (answered other).2 unknown, fun all => (answered .null).1 (all .null)⟩

/-- A connected gateway with one readable pump queues its mode command. -/
theorem execute_whitelisted_pump :
    Whitelisted Int ⟨"N/p/", "W/p/", "inverter"⟩ "water_mode"
      ⟨"W/p/pump/7/Mode", "\x7b\"value\":2\x7d", some ⟨0, 5, .water 7⟩⟩ :=
  (execute_whitelisted (F := Int)
    ⟨(Shared.new : Shared Int).runOps [(0, .setConnected true),
        (0, .update ⟨"pump", "7/Mode", .number (.posInt 1), by decide⟩)],
      some ⟨[], false⟩, ⟨"N/p/", "W/p/", "inverter"⟩⟩ 5 "water_mode"
    (.object [("instance", .number (.posInt 7)), ("mode", .number (.posInt 2))])).2.2.1
    ⟨[], false⟩ _ rfl (by rfl)

end Requests

end InverterGateway.Gateway

/-
# Gateway.Discard — which pending requests a disconnection drops

After a connection is lost, the gateway drops the pending publishes of guarded
commands, which it recognises by their topics.  The topics are built from freely
configured prefixes and recognised partly by a fixed shape.
`replay_filter_exact` says on which configurations the two agree: the write
prefix is `W/` and one level, and no native command or keepalive lies below the
controller's `cmd/`.
-/
import InverterGateway.Gateway.FromEnv

namespace InverterGateway.Gateway

open InverterGateway.Theory InverterGateway.Rumqttc

set_option autoImplicit false

/-! ## Topics below a root -/

section Below

variable {p m w s : List Char}

/-- A pattern that ends with a mark lies within a prefix, when what follows the
prefix starts outside the mark and does not contain it. -/
theorem prefix_of_marked (ends : m <:+ p) (whole : p <+: w ++ s)
    (first : ∀ c, s.head? = some c → c ∉ m) (absent : ¬ m <:+: s) : p <+: w := by
  rcases List.prefix_or_prefix_of_prefix whole (List.prefix_append w s) with inside | ⟨u, rfl⟩
  · exact inside
  · rw [List.prefix_append_right_inj] at whole
    cases u with
    | nil => simp
    | cons c u =>
        have head : s.head? = some c := by
          obtain ⟨rest, rfl⟩ := whole
          rfl
        rcases List.suffix_or_suffix_of_suffix ends (List.suffix_append w (c :: u)) with
          inner | outer
        · exact absurd (inner.isInfix.trans whole.isInfix) absent
        · exact absurd (outer.subset List.mem_cons_self) (first c head)

/-- Two slashes in all: a root with a `cmd` level below it is the first level, and the
second is `cmd`. -/
theorem root_cmd {root a level rest : List Char}
    (below : root ++ '/' :: ("cmd".toList ++ ['/']) <+: a ++ '/' :: (level ++ '/' :: rest))
    (a_flat : '/' ∉ a) (level_flat : '/' ∉ level) (rest_flat : '/' ∉ rest) :
    root = a ∧ level = "cmd".toList := by
  have cmd_flat : '/' ∉ "cmd".toList := by decide
  have slashes := below.sublist.count_le '/'
  have cmd : "cmd".toList.count '/' = 0 := by decide
  simp only [List.count_append, List.count_cons, List.count_nil, cmd, List.count_eq_zero.2 a_flat,
    List.count_eq_zero.2 level_flat, List.count_eq_zero.2 rest_flat, beq_self_eq_true,
    if_true] at slashes
  have root_flat : '/' ∉ root := List.count_eq_zero.1 (by omega)
  obtain ⟨same, below⟩ := (Text.prefix_sep_iff root_flat a_flat).1 below
  exact ⟨same, ((Text.prefix_sep_iff cmd_flat level_flat).1 below).1.symm⟩

end Below

/-- The topics of controller commands lie below `cmd/` of their root. -/
def belowCmd (cfg : Config) (topic : String) : Bool :=
  Text.startsWith topic (cfg.inverterTopicPrefix ++ "/cmd/")

theorem belowCmd_iff {cfg : Config} {topic : String} : belowCmd cfg topic = true ↔
    cfg.inverterTopicPrefix.toList ++ '/' :: ("cmd".toList ++ ['/']) <+: topic.toList := by
  have mark : "/cmd/".toList = '/' :: ("cmd".toList ++ ['/']) := by decide
  rw [belowCmd, Text.startsWith_iff, String.toList_append, mark]

/-- A topic below a prefix is below `cmd/` only if the prefix is. -/
theorem belowCmd_append {cfg : Config} {stem rest : String}
    (first : ∀ c, rest.toList.head? = some c → c ∉ "/cmd/".toList)
    (absent : ¬ "cmd".toList <:+: rest.toList) (below : belowCmd cfg (stem ++ rest) = true) :
    belowCmd cfg stem = true := by
  have mark : "/cmd/".toList = '/' :: ("cmd".toList ++ ['/']) := by decide
  rw [belowCmd_iff] at below ⊢
  rw [String.toList_append] at below
  refine prefix_of_marked (List.suffix_append _ _) below ?_ fun inside => absent ?_
  · rw [← mark]
    exact first
  · exact List.IsInfix.trans ⟨['/'], ['/'], rfl⟩ inside

theorem belowCmd_mono {cfg : Config} {stem rest : String} (below : belowCmd cfg stem = true) :
    belowCmd cfg (stem ++ rest) = true := by
  rw [belowCmd_iff] at below ⊢
  rw [String.toList_append]
  exact below.trans (List.prefix_append _ _)

/-! ## The topic of a pump's mode -/

theorem isWaterWriteTopic_eq_true {topic : String} :
    Env.isWaterWriteTopic topic = true ↔ ∃ level inst : String, '/' ∉ level.toList ∧
      '/' ∉ inst.toList ∧ (Text.parseU32 inst).isSome = true ∧
        topic = "W/" ++ level ++ "/pump/" ++ inst ++ "/Mode" := by
  have shape (level inst : String) : ("W/" ++ level ++ "/pump/" ++ inst ++ "/Mode").toList =
      "W".toList ++ '/' :: (level.toList ++ '/' :: ("pump".toList ++ '/' ::
        (inst.toList ++ '/' :: "Mode".toList))) := by
    simp [String.toList_append]
  constructor
  · intro water
    unfold Env.isWaterWriteTopic at water
    split at water
    · rename_i level inst levels
      have whole := Text.joinAt_split topic '/'
      rw [levels] at whole
      refine ⟨level, inst, Text.not_mem_of_mem_split (by rw [levels]; simp),
        Text.not_mem_of_mem_split (by rw [levels]; simp), water, ?_⟩
      apply Text.toList_injective
      rw [shape, ← whole, Text.joinAt]
      simp [List.intercalate_cons_cons]
    · cases water
  · rintro ⟨level, inst, level_flat, inst_flat, number, rfl⟩
    have levels : Text.split ("W/" ++ level ++ "/pump/" ++ inst ++ "/Mode") '/' =
        ["W", level, "pump", inst, "Mode"] := by
      have last : List.splitOn '/' "Mode".toList = ["Mode".toList] := by decide
      rw [Text.split, shape, List.splitOn_append_cons_self_of_not_mem (by decide),
        List.splitOn_append_cons_self_of_not_mem level_flat,
        List.splitOn_append_cons_self_of_not_mem (by decide),
        List.splitOn_append_cons_self_of_not_mem inst_flat, last]
      simp
    simp only [Env.isWaterWriteTopic, levels]
    exact number

/-- A pump's mode topic starts and ends as its shape says. -/
theorem water_ends {topic : String} (water : Env.isWaterWriteTopic topic = true) :
    topic.toList.head? = some 'W' ∧ topic.toList.getLast? = some 'e' := by
  obtain ⟨level, inst, -, -, -, rfl⟩ := isWaterWriteTopic_eq_true.1 water
  have mode : "/Mode".toList.getLast? = some 'e' := by decide
  constructor
  · simp [String.toList_append]
  · rw [String.toList_append, List.getLast?_append, mode]
    rfl

/-- A write prefix of the recognised shape: `W/` and one level. -/
def LevelPrefix (cfg : Config) (level : String) : Prop :=
  '/' ∉ level.toList ∧ cfg.writeTopicPrefix = "W/" ++ level ++ "/"

theorem water_recognised (cfg : Config) (inst : UInt32) :
    Env.isWaterWriteTopic (waterTopic cfg inst) = true ↔ ∃ level, LevelPrefix cfg level := by
  rw [isWaterWriteTopic_eq_true]
  constructor
  · rintro ⟨level, other, level_flat, other_flat, -, same⟩
    refine ⟨level, level_flat, ?_⟩
    have lists := congrArg String.toList same
    have left : (waterTopic cfg inst).toList = (cfg.writeTopicPrefix ++ "pump").toList ++ '/' ::
        ((toString inst.toNat).toList ++ "/Mode".toList) := by
      simp [waterTopic, String.toList_append]
    have right : ("W/" ++ level ++ "/pump/" ++ other ++ "/Mode").toList =
        ("W/" ++ level ++ "/pump").toList ++ '/' :: (other.toList ++ "/Mode".toList) := by
      simp [String.toList_append]
    rw [left, right, ← List.cons_append, ← List.append_assoc, ← List.cons_append,
      ← List.append_assoc, List.append_cancel_right_eq] at lists
    obtain ⟨stem, -⟩ := (Text.append_sep_last_inj
      ((Text.digits_toString inst.toNat).ne (by decide)) other_flat).1 lists
    have pump : "/pump" = "/" ++ "pump" := by decide
    rw [String.toList_inj, pump, ← String.append_assoc] at stem
    exact Text.append_right_cancel stem
  · rintro ⟨level, level_flat, shape⟩
    refine ⟨level, toString inst.toNat, level_flat,
      (Text.digits_toString inst.toNat).ne (by decide), ?_, ?_⟩
    · rw [Text.parseU32, Text.parseUnsigned_toString inst.toNat_lt]
      rfl
    · have pump : "/pump/" = "/" ++ "pump/" := by decide
      simp only [waterTopic, shape, pump, String.append_assoc]

/-- A topic below the write prefix that is not a pump's mode. -/
structure NativeLeaf (leaf : String) : Prop where
  start : ∀ c, leaf.toList.head? = some c → c ∉ "/cmd/".toList
  plain : ¬ "cmd".toList <:+: leaf.toList
  last : ∃ c, leaf.toList.getLast? = some c ∧ c ≠ 'e'

theorem silenceAlarm_leaf : NativeLeaf "vebus/0/Alarm" := by
  refine ⟨fun c head => ?_, ?_, 'm', by decide, by decide⟩
  · have first : "vebus/0/Alarm".toList.head? = some 'v' := by decide
    rw [first] at head
    cases head
    decide
  · exact Text.not_contains_iff.1 (by decide)

theorem acknowledgeAll_leaf : NativeLeaf "platform/0/Notifications/AcknowledgeAll" := by
  refine ⟨fun c head => ?_, ?_, 'l', by decide, by decide⟩
  · have first : "platform/0/Notifications/AcknowledgeAll".toList.head? = some 'p' := by decide
    rw [first] at head
    cases head
    decide
  · exact Text.not_contains_iff.1 (by decide)

theorem water_leaf (inst : UInt32) :
    (∀ c, ("pump/" ++ toString inst.toNat ++ "/Mode").toList.head? = some c → c ∉ "/cmd/".toList) ∧
      ¬ "cmd".toList <:+: ("pump/" ++ toString inst.toNat ++ "/Mode").toList := by
  constructor
  · intro c head
    have first : ("pump/" ++ toString inst.toNat ++ "/Mode").toList.head? = some 'p' := by
      simp [String.toList_append]
    rw [first] at head
    cases head
    decide
  · intro inside
    have letter : 'c' ∈ ("pump/" ++ toString inst.toNat ++ "/Mode").toList :=
      inside.subset (by decide)
    rw [String.toList_append, String.toList_append, List.mem_append, List.mem_append] at letter
    rcases letter with (front | number) | back
    · exact absurd front (by decide)
    · exact (Text.digits_toString inst.toNat).ne (by decide) number
    · exact absurd back (by decide)

/-! ## The gateway's own requests -/

section Requests

variable {F : Type}

/-- The requests the gateway hands to the client, and whether each is the publish
of a guarded command.  A pending publish or subscription may have its identifier. -/
inductive Enqueued [Binary64 F] (env : Env F) : Bool → Request → Prop
  | command (state : AppState F) (now : Instant) (name : String) (body : Value F)
      (request : CommandRequest) (id : Nat) (p : Publish) (pkid : Nat)
      (configured : state.cfg = env.cfg)
      (built : commandRequest state now name body = .ok request)
      (published : env.commandPublish id request = some (.publish p)) :
      Enqueued env request.guard.isSome (.publish { p with pkid })
  | keepalive (p : Publish) (pkid : Nat) (made : .publish p ∈ env.keepalive) :
      Enqueued env false (.publish { p with pkid })
  | subscription (s : Subscribe) (pkid : Nat) (made : .subscribe s ∈ env.subscribePortal) :
      Enqueued env false (.subscribe { s with pkid })

/-- A disconnection drops exactly the guarded publishes, whatever is pending. -/
def ReplayExact [Binary64 F] (env : Env F) : Prop :=
  ∀ (s : System F) (pulled : Bool) (queue : List (Bool × Request)),
    (∀ entry ∈ queue, Enqueued env entry.1 entry.2) →
      (s.clean pulled).eventloop.pending = queue.map Prod.snd →
        (s.discardControllerReplay env pulled).eventloop.pending =
          (queue.filter fun entry => !entry.1).map Prod.snd

/-- The write prefix is `W/` and one level; no native command lies below the
controller's `cmd/`, and neither does the keepalive. -/
def Recognised (cfg : Config) : Prop :=
  ∃ level, LevelPrefix cfg level ∧ ¬ (cfg.inverterTopicPrefix = "W" ∧ level = "cmd") ∧
    ¬ (cfg.inverterTopicPrefix = "R" ∧ cfg.topicPrefix = "N/cmd/")

/-- A topic prefix without wildcards. -/
def LiteralPrefix (stem : String) : Prop := ∀ c ∈ ['+', '#', '\x00'], c ∉ stem.toList

theorem validTopic_literal {stem : String} (literal : LiteralPrefix stem) :
    validTopic stem = true := by
  have plus : '+' ∉ stem.toList := literal '+' (by decide)
  have hash : '#' ∉ stem.toList := literal '#' (by decide)
  simp [validTopic, Text.containsChar, plus, hash]

/-- The topic of a command's publish is the command's. -/
theorem commandPublish_topic {env : Env F} {id : Nat} {request : CommandRequest} {p : Publish}
    (published : env.commandPublish id request = some (.publish p)) : p.topic = request.topic := by
  unfold Env.commandPublish publishRequest at published
  split at published
  · cases published
    rfl
  · cases published

theorem discards_publish (env : Env F) (p : Publish) (pkid : Nat) :
    env.discards (.publish { p with pkid }) =
      (belowCmd env.cfg p.topic || Env.isWaterWriteTopic p.topic) := rfl

theorem native_discards (env : Env F) {leaf : String} (native : NativeLeaf leaf) :
    (belowCmd env.cfg (env.cfg.writeTopicPrefix ++ leaf) ||
      Env.isWaterWriteTopic (env.cfg.writeTopicPrefix ++ leaf)) =
        belowCmd env.cfg env.cfg.writeTopicPrefix := by
  have noWater : Env.isWaterWriteTopic (env.cfg.writeTopicPrefix ++ leaf) = false := by
    rw [← Bool.not_eq_true]
    intro water
    obtain ⟨c, last, other⟩ := native.last
    have ends := (water_ends water).2
    rw [String.toList_append, List.getLast?_append, last] at ends
    cases ends
    exact other rfl
  rw [noWater, Bool.or_false, Bool.eq_iff_iff]
  exact ⟨belowCmd_append native.start native.plain, belowCmd_mono⟩

theorem controller_discards (env : Env F) (name : String) :
    belowCmd env.cfg (controllerTopic env.cfg name) = true := by
  have mark : "/cmd/".toList = '/' :: ("cmd".toList ++ ['/']) := by decide
  rw [belowCmd_iff, controllerTopic, String.toList_append, String.toList_append, mark,
    List.append_assoc]
  exact (List.prefix_append_right_inj _).2 (List.prefix_append _ _)

/-- The recognised prefixes lie outside the controller's `cmd/`. -/
theorem write_outside {cfg : Config} {level : String} (shape : LevelPrefix cfg level)
    (apart : ¬ (cfg.inverterTopicPrefix = "W" ∧ level = "cmd")) :
    belowCmd cfg cfg.writeTopicPrefix = false := by
  rw [← Bool.not_eq_true, belowCmd_iff, shape.2]
  intro below
  have whole : ("W/" ++ level ++ "/").toList = "W".toList ++ '/' :: (level.toList ++ '/' :: []) := by
    simp [String.toList_append]
  rw [whole] at below
  obtain ⟨root, second⟩ := root_cmd below (by decide) shape.1 (by decide)
  exact apart ⟨Text.toList_injective root, Text.toList_injective second⟩

/-! ## The exact condition -/

/-- A pump that reports its mode. -/
def pumpUpdate : ParsedUpdate F := ⟨"pump", "7/Mode", .number (.posInt 1), by decide⟩

/-- A state in which the pump's command is available. -/
def pumpState (cfg : Config) : AppState F where
  shared := ((Shared.new : Shared F).setConnected true).update 0 pumpUpdate
  commandTx := none
  cfg := cfg

theorem pump_available (cfg : Config) :
    (pumpState (F := F) cfg).shared.telemetry.connected = true ∧
    (pumpState (F := F) cfg).shared.telemetry.generation = 0 ∧
    (pumpState (F := F) cfg).shared.telemetry.commandTargetAvailable 5 (.water 7) = true := by
  have leaf : (pumpUpdate : ParsedUpdate F).removesDevice = false := by
    simp [ParsedUpdate.removesDevice, pumpUpdate, Value.isNull]
  have kept : pathKeep "pump" "7/Mode" = true := by decide
  have bucket : bucketMut "pump" = some .pump := by decide
  have stores := Telemetry.update_stores (((Shared.new : Shared F).setConnected true).telemetry)
    (((Shared.new : Shared F).setConnected true).sse.receivers) 0 pumpUpdate rfl leaf kept
  have shape : (pumpState (F := F) cfg).shared.telemetry = _ := stores
  have pump (key : String) : ((pumpState (F := F) cfg).shared.telemetry.snapshot.buckets .pump).get key =
      if key = "7/Mode" then some (.number (.posInt 1)) else none := by
    rw [shape]
    show ((applyUpdate _ pumpUpdate).buckets .pump).get key = _
    simp only [applyUpdate, pumpUpdate, bucket, Snapshot.setBucket_buckets, if_true,
      Table.get_insert]
    rfl
  have mode : pumpKey 7 "Mode" = "7/Mode" := by decide
  have other : pumpKey 7 "Connected" ≠ "7/Mode" := by decide
  refine ⟨by rw [shape]; rfl, by rw [shape]; rfl, ?_⟩
  simp only [Telemetry.commandTargetAvailable, pump, mode, if_true, if_neg other]
  rfl

/-- The portal of a recognised configuration is one level. -/
theorem portal_level {env : Env F} {level : String} (shape : LevelPrefix env.cfg level)
    (derived : env.cfg.writeTopicPrefix = writeTopicPrefixOf env.cfg.topicPrefix) {id : String}
    (portal : env.portalId = some id) :
    '/' ∉ id.toList ∧ env.cfg.topicPrefix = "N/" ++ id ++ "/" := by
  obtain ⟨found, -⟩ := Option.filter_eq_some_iff.1 portal
  obtain ⟨stem, strip, same⟩ := Option.map_eq_some_iff.1 found
  have topic := Text.stripPrefix_eq_some.1 strip
  have old : "N/".toList = ['N', '/'] := by decide
  have new : "W/".toList = ['W', '/'] := by decide
  have slash : "/".toList = ['/'] := by decide
  -- the replacement leaves every slash in its place
  have written : Text.replaceFrom ['N', '/'] ['W', '/'] 0 stem.toList = level.toList ++ ['/'] := by
    have whole := congrArg String.toList (derived.symm.trans shape.2)
    rw [topic, writeTopicPrefixOf, Text.replace, String.toList_ofList, String.toList_append, old,
      String.toList_append, String.toList_append, new, slash] at whole
    simpa [Text.replaceFrom, List.isPrefixOf] using whole
  have north : 'N' ≠ '/' := by decide
  have west : 'W' ≠ '/' := by decide
  have places := Text.replaceFrom_sep north west stem.toList
  rw [written, List.map_append] at places
  obtain ⟨front, back, split, front_places, back_places⟩ := List.map_eq_append_iff.1 places.symm
  have last : back = ['/'] := by
    cases back with
    | nil => cases back_places
    | cons x rest =>
        simp only [List.map_cons, List.map_nil, List.cons.injEq, List.map_eq_nil_iff,
          beq_self_eq_true, beq_iff_eq] at back_places
        rw [back_places.1, back_places.2]
  have flat : '/' ∉ (String.ofList front).toList := by
    rw [String.toList_ofList]
    intro inside
    have there : true ∈ front.map (· == '/') := List.mem_map.2 ⟨'/', inside, rfl⟩
    rw [front_places] at there
    obtain ⟨c, member, same⟩ := List.mem_map.1 there
    have slash : c = '/' := by simpa using same
    exact shape.1 (slash ▸ member)
  have stem_eq : stem = String.ofList front ++ "/" := by
    apply Text.toList_injective
    rw [String.toList_append, String.toList_ofList, slash, split, last]
  have id_eq : id = String.ofList front := by
    rw [← same, stem_eq]
    exact Text.trimEndMatches_level flat
  refine ⟨id_eq ▸ flat, ?_⟩
  rw [topic, stem_eq, id_eq, String.append_assoc]

/-- The keepalive of a recognised configuration is kept. -/
theorem keepalive_kept {env : Env F} {level : String} (shape : LevelPrefix env.cfg level)
    (derived : env.cfg.writeTopicPrefix = writeTopicPrefixOf env.cfg.topicPrefix)
    (apart : ¬ (env.cfg.inverterTopicPrefix = "R" ∧ env.cfg.topicPrefix = "N/cmd/")) {id : String}
    (portal : env.portalId = some id) :
    belowCmd env.cfg ("R/" ++ id ++ "/keepalive") = false := by
  obtain ⟨flat, topic⟩ := portal_level shape derived portal
  rw [← Bool.not_eq_true, belowCmd_iff]
  intro below
  have whole : ("R/" ++ id ++ "/keepalive").toList =
      "R".toList ++ '/' :: (id.toList ++ '/' :: "keepalive".toList) := by
    simp [String.toList_append]
  rw [whole] at below
  obtain ⟨root, second⟩ := root_cmd below (by decide) flat (by decide)
  refine apart ⟨Text.toList_injective root, ?_⟩
  rw [topic, Text.toList_injective second]
  decide

/-- A command with a literal topic is published. -/
theorem commandPublish_literal (env : Env F) (id : Nat) (request : CommandRequest)
    (valid : validTopic request.topic = true) :
    ∃ p, env.commandPublish id request = some (.publish p) ∧ p.topic = request.topic := by
  rw [Env.commandPublish, publishRequest, if_pos valid]
  exact ⟨_, rfl, rfl⟩

variable [Binary64 F]

/-- On a recognised configuration, the topics tell the guarded publishes. -/
theorem discards_eq {env : Env F} {level : String} (shape : LevelPrefix env.cfg level)
    (derived : env.cfg.writeTopicPrefix = writeTopicPrefixOf env.cfg.topicPrefix)
    (native : ¬ (env.cfg.inverterTopicPrefix = "W" ∧ level = "cmd"))
    (apart : ¬ (env.cfg.inverterTopicPrefix = "R" ∧ env.cfg.topicPrefix = "N/cmd/"))
    {guarded : Bool} {request : Request} (own : Enqueued env guarded request) :
    env.discards request = guarded := by
  cases own with
  | command state now name body request id p pkid configured built published =>
      rw [discards_publish, commandPublish_topic published]
      have allowed := commandRequest_whitelisted built
      rw [configured] at allowed
      have outside := write_outside shape native
      cases allowed with
      | silenceAlarm => exact (native_discards env silenceAlarm_leaf).trans outside
      | acknowledgeAll => exact (native_discards env acknowledgeAll_leaf).trans outside
      | controller name known payload schema generation queued =>
          have below := controller_discards env name
          exact Bool.or_eq_true_iff.2 (Or.inl below)
      | water inst mode range generation queued =>
          have pump := (water_recognised env.cfg inst).2 ⟨level, shape⟩
          exact Bool.or_eq_true_iff.2 (Or.inr pump)
  | keepalive p pkid made =>
      unfold Env.keepalive at made
      cases portal : env.portalId with
      | none => rw [portal] at made; cases made
      | some id =>
          rw [portal] at made
          have topic : p.topic = "R/" ++ id ++ "/keepalive" := by
            have sent := Option.mem_toList.1 made
            unfold publishRequest at sent
            split at sent
            · cases sent
              rfl
            · cases sent
          have dry : Env.isWaterWriteTopic ("R/" ++ id ++ "/keepalive") = false := by
            rw [← Bool.not_eq_true]
            intro water
            have head := (water_ends water).1
            rw [String.toList_append, String.toList_append] at head
            exact absurd head (by simp)
          rw [discards_publish, topic, keepalive_kept shape derived apart portal, dry]
          rfl
  | subscription s pkid made => rfl

/-- Dropping by topic is dropping the guarded publishes when each topic tells. -/
theorem replayExact_iff {env : Env F} :
    ReplayExact env ↔ ∀ guarded request, Enqueued env guarded request →
      env.discards request = guarded := by
  constructor
  · intro drops guarded request own
    have dropped := drops { eventloop := { EventLoop.new with pending := [request] } } false
      [(guarded, request)] (by simpa using own) rfl
    have kept : ([request].filter fun request => !env.discards request) =
        ([(guarded, request)].filter fun entry => !entry.1).map Prod.snd := dropped
    cases guarded with
    | false =>
        by_contra removed
        rw [Bool.not_eq_false] at removed
        simp [removed] at kept
    | true =>
        by_contra survives
        rw [Bool.not_eq_true] at survives
        simp [survives] at kept
  · intro tells s pulled queue own pending
    show ((s.clean pulled).eventloop.pending.filter fun request => !env.discards request) = _
    rw [pending, List.filter_map]
    congr 1
    refine List.filter_congr fun entry member => ?_
    rw [Function.comp_apply, tells entry.1 entry.2 (own entry member)]

theorem pumpState_request (cfg : Config) :
    commandRequest (pumpState (F := F) cfg) 5 "water_mode"
      (.object [("instance", .number (.posInt 7)), ("mode", .number (.posInt 2))]) =
        .ok ⟨waterTopic cfg 7, waterPayload (F := F) 2, some ⟨0, 5, .water 7⟩⟩ := by
  obtain ⟨up, generation, available⟩ := pump_available (F := F) cfg
  have guarded : (pumpState (F := F) cfg).shared.guardedCommand 5 (waterTopic cfg 7)
      (waterPayload (F := F) 2) (.water 7) =
        some ⟨waterTopic cfg 7, waterPayload (F := F) 2, some ⟨0, 5, .water 7⟩⟩ := by
    rw [Shared.guardedCommand, up, available, generation]
    rfl
  have inst : (Entries.get [("instance", .number (.posInt 7)), ("mode", .number (.posInt 2))]
      "instance" : Option (Value F)).bind Value.asU64 = some 7 := by
    simp [Entries.get, Value.asU64]
  have mode : (Entries.get [("instance", .number (.posInt 7)), ("mode", .number (.posInt 2))]
      "mode" : Option (Value F)).bind Value.asU64 = some 2 := by
    simp [Entries.get, Value.asU64]
  rw [commandRequest, if_pos rfl, waterRequest]
  simp only [Value.asObject, inst, mode]
  have seven : UInt32.ofNat 7 = 7 := rfl
  have two : UInt64.ofNat 2 = 2 := rfl
  have config : (pumpState (F := F) cfg).cfg = cfg := rfl
  rw [config, seven, two, guarded]
  rfl

/-- **When the replay filter agrees with the command builders**: exactly when the
write prefix has the shape the filter looks for and nothing else lies below the
controller's `cmd/`. -/
theorem replay_filter_exact {A : Type} [DecidableEq A] (parseAddress : String → Option A)
    (decode : ByteArray → Option (Value F)) (environment : Environment) (settings : Settings A)
    (accepted : fromEnv parseAddress environment = .ok settings)
    (literal : LiteralPrefix settings.writeTopicPrefix) :
    ReplayExact (⟨settings.toConfig, decode⟩ : Env F) ↔ Recognised settings.toConfig := by
  have derived := (fromEnv_eq_ok parseAddress accepted).writeTopicPrefix
  have valid := validTopic_literal literal
  rw [replayExact_iff]
  constructor
  · intro tells
    have outside : belowCmd settings.toConfig settings.writeTopicPrefix = false := by
      obtain ⟨p, published, topic⟩ := commandPublish_literal (⟨settings.toConfig, decode⟩ : Env F) 0
        ⟨settings.writeTopicPrefix ++ "vebus/0/Alarm", "\x7b\"SilenceAlarm\":\"1\"\x7d", none⟩
        (validTopic_append.2 ⟨valid, by decide⟩)
      have kept := tells false _ (.command ⟨Shared.new, none, settings.toConfig⟩ 0 "silence_alarm"
        .null _ 0 p 0 rfl rfl published)
      rw [discards_publish, topic] at kept
      rw [← kept]
      exact (native_discards (⟨settings.toConfig, decode⟩ : Env F) silenceAlarm_leaf).symm
    have pump : Env.isWaterWriteTopic (waterTopic settings.toConfig 7) = true := by
      obtain ⟨p, published, topic⟩ := commandPublish_literal (⟨settings.toConfig, decode⟩ : Env F) 0
        ⟨waterTopic settings.toConfig 7, waterPayload (F := F) 2, some ⟨0, 5, .water 7⟩⟩ (by
          rw [waterTopic, String.append_assoc, String.append_assoc]
          exact validTopic_append.2 ⟨valid, by decide⟩)
      have dropped := tells true _ (.command (pumpState settings.toConfig) 5 "water_mode" _ _ 0 p 0
        rfl (pumpState_request settings.toConfig) published)
      rw [discards_publish, topic] at dropped
      rcases Bool.or_eq_true_iff.1 dropped with below | water
      · have whole : waterTopic settings.toConfig 7 = settings.writeTopicPrefix ++
            ("pump/" ++ toString (7 : UInt32).toNat ++ "/Mode") := by
          rw [waterTopic, String.append_assoc, String.append_assoc, String.append_assoc]
        obtain ⟨first, absent⟩ := water_leaf 7
        rw [whole] at below
        rw [belowCmd_append first absent below] at outside
        cases outside
      · exact water
    obtain ⟨level, shape⟩ := (water_recognised settings.toConfig 7).1 pump
    refine ⟨level, shape, ?_, ?_⟩
    · rintro ⟨root, rfl⟩
      have below : belowCmd settings.toConfig settings.writeTopicPrefix = true := by
        rw [belowCmd, shape.2, root]
        decide
      rw [below] at outside
      cases outside
    · rintro ⟨root, topic⟩
      have portal : Env.portalId (⟨settings.toConfig, decode⟩ : Env F) = some "cmd" :=
        portalId_read ⟨by decide, Text.not_mem_of_all (by decide)⟩ (topic.trans (by decide))
      have made : Request.publish (.new "R/cmd/keepalive" .atMostOnce .empty .keepalive) ∈
          Env.keepalive (⟨settings.toConfig, decode⟩ : Env F) := by
        have valid : validTopic "R/cmd/keepalive" = true := by decide
        have sent : publishRequest "R/cmd/keepalive" .atMostOnce .empty .keepalive =
            some (.publish (.new "R/cmd/keepalive" .atMostOnce .empty .keepalive)) := if_pos valid
        have topic : "R/" ++ "cmd" ++ "/keepalive" = "R/cmd/keepalive" := by decide
        simp only [Env.keepalive, portal, topic, sent, Option.toList_some, List.mem_singleton]
      have kept := tells false _ (.keepalive _ 0 made)
      rw [discards_publish] at kept
      have below : belowCmd settings.toConfig "R/cmd/keepalive" = true := by
        rw [belowCmd, root]
        decide
      have kept := (Bool.or_eq_false_iff.1 kept).1
      rw [show belowCmd settings.toConfig "R/cmd/keepalive" = false from kept] at below
      cases below
  · rintro ⟨level, shape, native, apart⟩ guarded request own
    exact discards_eq shape derived native apart own

theorem replay_filter_exact_portal :
    ∃ settings, fromEnv loopback (portalEnv "c0619ab9929a") = .ok settings ∧
      (ReplayExact (⟨settings.toConfig, fun _ => none⟩ : Env Int) ↔
        Recognised settings.toConfig) := by
  obtain ⟨settings, accepted⟩ := accepted_of_isOk
    (show (fromEnv loopback (portalEnv "c0619ab9929a")).isOk = true by decide +kernel)
  have facts := fromEnv_eq_ok loopback accepted
  have write : settings.writeTopicPrefix = "W/c0619ab9929a/" := by
    rw [facts.writeTopicPrefix, facts.topicPrefix]
    decide
  have literal : LiteralPrefix settings.writeTopicPrefix := by
    rw [write]
    exact Text.not_mem_of_all (by decide)
  exact ⟨settings, accepted,
    replay_filter_exact loopback (fun _ => none) _ settings accepted literal⟩

/-- The topics of a portal relayed below another root. -/
def relayEnv : Environment
  | "VICTRON_PORTAL_ID" => .notPresent
  | "VICTRON_TOPIC_PREFIX" => .value "site/N/c0619ab9929a/"
  | name => portalEnv "c0619ab9929a" name

/-- Below another root, a pump's switch survives the disconnection. -/
theorem replay_filter_misses :
    ∃ settings, fromEnv loopback relayEnv = .ok settings ∧
      LiteralPrefix settings.topicPrefix ∧ LiteralPrefix settings.writeTopicPrefix ∧
      LiteralPrefix settings.inverterTopicPrefix ∧
      ∃ request, Enqueued (⟨settings.toConfig, fun _ => none⟩ : Env Int) true request ∧
        (System.discardControllerReplay (⟨settings.toConfig, fun _ => none⟩ : Env Int)
          { eventloop := { EventLoop.new with pending := [request] } } false).eventloop.pending =
            [request] := by
  obtain ⟨settings, accepted⟩ := accepted_of_isOk
    (show (fromEnv loopback relayEnv).isOk = true by decide +kernel)
  have facts := fromEnv_eq_ok loopback accepted
  have read : settings.topicPrefix = "site/N/c0619ab9929a/" := by
    rw [facts.topicPrefix]
    decide
  have write : settings.writeTopicPrefix = "site/W/c0619ab9929a/" := by
    rw [facts.writeTopicPrefix, read]
    decide
  have root : settings.inverterTopicPrefix = "inverter" := by
    rw [facts.inverterTopicPrefix]
    decide
  have topic : waterTopic settings.toConfig 7 = "site/W/c0619ab9929a/pump/7/Mode" := by
    rw [waterTopic, write]
    decide
  obtain ⟨p, published, same⟩ := commandPublish_literal (⟨settings.toConfig, fun _ => none⟩ : Env Int)
    0 ⟨waterTopic settings.toConfig 7, waterPayload (F := Int) 2, some ⟨0, 5, .water 7⟩⟩
    (by rw [topic]; decide)
  have own : Enqueued (⟨settings.toConfig, fun _ => none⟩ : Env Int) true
      (.publish { p with pkid := 0 }) :=
    .command (pumpState settings.toConfig) 5 "water_mode" _ _ 0 p 0 rfl
      (pumpState_request settings.toConfig) published
  have kept : Env.discards (⟨settings.toConfig, fun _ => none⟩ : Env Int)
      (.publish { p with pkid := 0 }) = false := by
    rw [discards_publish, same]
    show (belowCmd settings.toConfig (waterTopic settings.toConfig 7) ||
      Env.isWaterWriteTopic (waterTopic settings.toConfig 7)) = false
    rw [topic, belowCmd, root]
    decide
  refine ⟨settings, accepted, ?_, ?_, ?_, _, own, ?_⟩
  · rw [read]
    exact Text.not_mem_of_all (by decide)
  · rw [write]
    exact Text.not_mem_of_all (by decide)
  · rw [root]
    exact Text.not_mem_of_all (by decide)
  · show ([Request.publish { p with pkid := 0 }].filter fun request =>
      !Env.discards (⟨settings.toConfig, fun _ => none⟩ : Env Int) request) = _
    simp [kept]

end Requests

end InverterGateway.Gateway

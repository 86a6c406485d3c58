/-
# Gateway.FromEnv — the configuration read from the environment

`fromEnv` reads every setting in the order the gateway does and stops at the
first one that is missing or invalid.  `portal_prefixes_agree` says for which
portals the read prefix, the write prefix and the keepalive address the same
portal: the write prefix is a textual replacement that also rewrites the end of
a portal id.
-/
import InverterGateway.Gateway.Bridge
import InverterGateway.Gateway.EnergySources

namespace InverterGateway.Gateway

open InverterGateway.Theory

set_option autoImplicit false

/-! ## The environment -/

/-- What `env::var` finds under a name. -/
inductive EnvVar where
  | notPresent
  | notUnicode
  | value (text : String)
  deriving DecidableEq

abbrev Environment := String → EnvVar

/-- `env::var(name).ok()`. -/
def Environment.text (env : Environment) (name : String) : Option String :=
  match env name with
  | .value text => some text
  | _ => none

/-- A variable that must be set: `env::var(name).map_err(..)`. -/
def requiredEnv (env : Environment) (name : String) : Except ConfigError String :=
  match env.text name with
  | some text => .ok text
  | none => .error ("missing env " ++ name)

/-- `config::optional_env`: an absent setting is not an invalid one. -/
def optionalEnv (env : Environment) (name : String) : Except ConfigError (Option String) :=
  match env name with
  | .value text => .ok (some text)
  | .notPresent => .ok none
  | .notUnicode => .error (name ++ " must contain valid UTF-8")

/-! ## Transports -/

/-- `config::parse_mqtt_transport`. -/
def parseMqttTransport (tls caFile port : Option String) :
    Except ConfigError (Bool × Option String × Nat) := do
  let tls ← match tls with
    | none | some "0" | some "false" => .ok false
    | some "1" | some "true" => .ok true
    | some _ => .error "MQTT_TLS must be 0, 1, false, or true"
  let caFile ← match caFile with
    | none => .ok none
    | some path =>
        if !tls then .error "MQTT_CA_FILE requires MQTT_TLS=1"
        else if (Text.trim path).isEmpty then .error "MQTT_CA_FILE must not be empty"
        else .ok (some path)
  match (Text.parseUnsigned (2 ^ 16) (port.getD (if tls then "8883" else "1883"))).filter (· != 0) with
  | some port => .ok (tls, caFile, port)
  | none => .error "invalid MQTT_PORT: expected 1 through 65535"

/-- The native HTTPS listener, at an address of type `A`. -/
structure HttpsConfig (A : Type) where
  bind : A
  certFile : String
  keyFile : String

/-- `HttpsConfig::parse`. -/
def HttpsConfig.parse {A : Type} [DecidableEq A] (parseAddress : String → Option A) (httpBind : A)
    (bind cert key : Option String) : Except ConfigError (Option (HttpsConfig A)) :=
  match bind, cert, key with
  | none, none, none => .ok none
  | some bind, some certFile, some keyFile =>
      if certFile.isEmpty || keyFile.isEmpty then
        .error "HTTPS requires HTTPS_BIND, GATEWAY_TLS_CERT_FILE and GATEWAY_TLS_KEY_FILE together"
      else
        match parseAddress bind with
        | none => .error "invalid HTTPS_BIND"
        | some bind =>
            if bind = httpBind then .error "HTTPS_BIND must differ from HTTP_BIND"
            else .ok (some { bind, certFile, keyFile })
  | _, _, _ =>
      .error "HTTPS requires HTTPS_BIND, GATEWAY_TLS_CERT_FILE and GATEWAY_TLS_KEY_FILE together"

/-! ## The configuration -/

/-- The gateway's configuration: the topic prefixes and everything else. -/
structure Settings (A : Type) extends Config where
  mqttHost : String
  mqttPort : Nat
  mqttTls : Bool
  mqttCaFile : Option String
  mqttUsername : String
  mqttPassword : String
  mqttClientId : String
  httpBind : A
  https : Option (HttpsConfig A)
  apiToken : Option String
  readToken : Option String
  energy : EnergyConfig
  allowInsecure : Bool
  corsOrigins : List String

/-- The read prefix: the portal id takes precedence over a whole prefix. -/
def topicPrefixOf (env : Environment) : String :=
  match env.text "VICTRON_PORTAL_ID" with
  | some portalId => "N/" ++ portalId ++ "/"
  | none => (env.text "VICTRON_TOPIC_PREFIX").getD "N/<portal_id>/"

/-- The write prefix: `topic_prefix.replace("N/", "W/")`. -/
def writeTopicPrefixOf (topicPrefix : String) : String := Text.replace topicPrefix "N/" "W/"

def inverterTopicPrefixOf (env : Environment) : String :=
  Text.trimEndMatches ((env.text "INVERTER_TOPIC_PREFIX").getD "inverter") '/'

/-- A nonempty literal topic root. -/
def literalRoot (root : String) : Bool :=
  !(root.isEmpty || ['+', '#', '\x00'].any (Text.containsChar root) || Text.startsWith root "/")

/-- The energy settings, with their defaults. -/
def rawEnergyOf (env : Environment) : RawEnergy where
  sources
    | .battery => (env.text "GATEWAY_ENERGY_BATTERY_SOURCE").getD "system/0/Dc/Battery/Soc"
    | .power => (env.text "GATEWAY_ENERGY_SOLAR_POWER_SOURCES").getD ""
    | .today => (env.text "GATEWAY_ENERGY_SOLAR_TODAY_SOURCES").getD ""
    | .alarm => (env.text "GATEWAY_ENERGY_ALARM_SOURCES").getD ""
    | .loadPower => (env.text "GATEWAY_ENERGY_LOAD_POWER_SOURCES").getD ""
    | .gridPower => (env.text "GATEWAY_ENERGY_GRID_POWER_SOURCES").getD ""
    | .batteryPower => (env.text "GATEWAY_ENERGY_BATTERY_POWER_SOURCE").getD ""
  maxAge := (env.text "GATEWAY_ENERGY_MAX_AGE_SECS").getD "120"

/-- A token: an empty one counts as none. -/
def tokenOf (env : Environment) (name : String) : Option String :=
  (env.text name).filter fun token => !token.isEmpty

def corsOriginsOf (env : Environment) : List String :=
  match env.text "GATEWAY_CORS_ORIGINS" with
  | some origins => ((Text.split origins ',').map Text.trim).filter fun origin => !origin.isEmpty
  | none => []

section FromEnv

variable {A : Type} [DecidableEq A] (parseAddress : String → Option A)

/-- The address of the HTTP listener. -/
def httpBindOf (env : Environment) : Except ConfigError A :=
  match parseAddress ((env.text "HTTP_BIND").getD "127.0.0.1:8080") with
  | some address => .ok address
  | none => .error "invalid HTTP_BIND"

/-- `Config::from_env`, where `parseAddress` parses a socket address. -/
def fromEnv (env : Environment) : Except ConfigError (Settings A) := do
  let mqttHost ← requiredEnv env "MQTT_HOST"
  let tls ← optionalEnv env "MQTT_TLS"
  let caFile ← optionalEnv env "MQTT_CA_FILE"
  let port ← optionalEnv env "MQTT_PORT"
  let (mqttTls, mqttCaFile, mqttPort) ← parseMqttTransport tls caFile port
  let mqttUsername ← requiredEnv env "MQTT_USERNAME"
  let mqttPassword ← requiredEnv env "MQTT_PASSWORD"
  let httpBind ← httpBindOf parseAddress env
  let bind ← optionalEnv env "HTTPS_BIND"
  let cert ← optionalEnv env "GATEWAY_TLS_CERT_FILE"
  let key ← optionalEnv env "GATEWAY_TLS_KEY_FILE"
  let https ← HttpsConfig.parse parseAddress httpBind bind cert key
  let apiToken := tokenOf env "GATEWAY_API_TOKEN"
  let readToken := tokenOf env "GATEWAY_READ_TOKEN"
  check (readToken.isSome && decide (readToken = apiToken))
    "GATEWAY_READ_TOKEN must differ from GATEWAY_API_TOKEN"
  let energy ← configure (rawEnergyOf env)
  let allowInsecure := env.text "GATEWAY_ALLOW_INSECURE" == some "1"
  -- a gateway without a token starts only when this is asked for
  check (apiToken.isNone && !allowInsecure)
    "GATEWAY_API_TOKEN is not set. Set it, or set GATEWAY_ALLOW_INSECURE=1 for local LAN testing only."
  check (!literalRoot (inverterTopicPrefixOf env))
    "INVERTER_TOPIC_PREFIX must be a nonempty literal MQTT topic root"
  .ok {
    topicPrefix := topicPrefixOf env
    writeTopicPrefix := writeTopicPrefixOf (topicPrefixOf env)
    inverterTopicPrefix := inverterTopicPrefixOf env
    mqttHost, mqttPort, mqttTls, mqttCaFile, mqttUsername, mqttPassword
    mqttClientId := (env.text "MQTT_CLIENT_ID").getD "inverter-gateway"
    httpBind, https, apiToken, readToken, energy, allowInsecure
    corsOrigins := corsOriginsOf env }

/-- What an accepted environment says about its configuration. -/
structure ReadFrom (env : Environment) (settings : Settings A) : Prop where
  topicPrefix : settings.topicPrefix = topicPrefixOf env
  writeTopicPrefix : settings.writeTopicPrefix = writeTopicPrefixOf settings.topicPrefix
  inverterTopicPrefix : settings.inverterTopicPrefix = inverterTopicPrefixOf env
  literal : literalRoot settings.inverterTopicPrefix = true
  apiToken : settings.apiToken = tokenOf env "GATEWAY_API_TOKEN"
  readToken : settings.readToken = tokenOf env "GATEWAY_READ_TOKEN"
  distinct : ∀ token, settings.readToken = some token → settings.apiToken ≠ some token
  guarded : settings.allowInsecure = false → settings.apiToken ≠ none
  energy : configure (rawEnergyOf env) = .ok settings.energy

theorem fromEnv_eq_ok {env : Environment} {settings : Settings A}
    (accepted : fromEnv parseAddress env = .ok settings) : ReadFrom env settings := by
  simp only [fromEnv, bind_eq_ok, check_eq_ok] at accepted
  obtain ⟨_, -, _, -, _, -, _, -, ⟨tls, caFile, port⟩, -, _, -, _, -, _, -, _, -, _, -, _, -, _, -,
    _, distinct, energy, configured, _, guarded, _, literal, same⟩ := accepted
  rw [Except.ok.injEq] at same
  subst same
  refine ⟨rfl, rfl, rfl, ?_, rfl, rfl, ?_, ?_, configured⟩
  · rw [Bool.not_eq_false'] at literal
    exact literal
  · intro token read full
    have read : tokenOf env "GATEWAY_READ_TOKEN" = some token := read
    have full : tokenOf env "GATEWAY_API_TOKEN" = some token := full
    rw [read, full] at distinct
    simp at distinct
  · intro secure missing
    have missing : tokenOf env "GATEWAY_API_TOKEN" = none := missing
    have secure : (env.text "GATEWAY_ALLOW_INSECURE" == some "1") = false := secure
    rw [missing, secure] at guarded
    cases guarded

end FromEnv

/-! ## One portal -/

/-- A portal id: one literal topic level that is not the placeholder. -/
structure PortalId (portal : String) : Prop where
  nonempty : portal ≠ ""
  level : ∀ c ∈ ['/', '+', '#', '\x00', '<'], c ∉ portal.toList

/-- The environment names a portal by its id or by the whole prefix. -/
def NamesPortal (env : Environment) (portal : String) : Prop :=
  env.text "VICTRON_PORTAL_ID" = some portal ∨
    env.text "VICTRON_PORTAL_ID" = none ∧
      env.text "VICTRON_TOPIC_PREFIX" = some ("N/" ++ portal ++ "/")

/-- Everything the gateway exchanges with the broker is about one portal. -/
structure SamePortal {F : Type} [Binary64 F] (env : Env F) (portal : String) : Prop where
  read : env.cfg.topicPrefix = "N/" ++ portal ++ "/"
  write : env.cfg.writeTopicPrefix = "W/" ++ portal ++ "/"
  keepalive : env.portalId = some portal
  subscriptions : ∀ filter ∈ env.filters, filter = env.stateTopic ∨ filter = env.overrideTopic ∨
    ∃ leaf, filter = "N/" ++ portal ++ "/" ++ leaf
  commands : ∀ (state : AppState F) (now : Instant) (name : String) (body : Value F)
    (request : CommandRequest), state.cfg = env.cfg →
      commandRequest state now name body = .ok request →
        (name ∈ controllerNames ∧ request.topic = controllerTopic env.cfg name) ∨
          ∃ leaf, request.topic = "W/" ++ portal ++ "/" ++ leaf

theorem topicPrefixOf_names {env : Environment} {portal : String} (named : NamesPortal env portal) :
    topicPrefixOf env = "N/" ++ portal ++ "/" := by
  rcases named with direct | ⟨absent, whole⟩
  · simp only [topicPrefixOf, direct]
  · simp only [topicPrefixOf, absent, whole, Option.getD_some]

/-- The replacement rewrites the prefix, and a portal that ends in `N`. -/
theorem toList_writeTopicPrefixOf {portal : String} (flat : '/' ∉ portal.toList) :
    (writeTopicPrefixOf ("N/" ++ portal ++ "/")).toList =
      'W' :: '/' :: if portal.toList.getLast? = some 'N' then portal.toList.dropLast ++ ['W', '/']
        else portal.toList ++ ['/'] := by
  have old : "N/".toList = ['N', '/'] := by decide
  have new : "W/".toList = ['W', '/'] := by decide
  have slash : "/".toList = ['/'] := by decide
  rw [writeTopicPrefixOf, Text.replace, String.toList_ofList, String.toList_append,
    String.toList_append, old, new, slash, ← Text.replaceFrom_level portal.toList flat]
  rfl

theorem writeTopicPrefixOf_iff {portal : String} (flat : '/' ∉ portal.toList) :
    writeTopicPrefixOf ("N/" ++ portal ++ "/") = "W/" ++ portal ++ "/" ↔
      portal.toList.getLast? ≠ some 'N' := by
  have new : "W/".toList = ['W', '/'] := by decide
  have slash : "/".toList = ['/'] := by decide
  rw [← String.toList_inj, toList_writeTopicPrefixOf flat, String.toList_append,
    String.toList_append, new, slash]
  by_cases last : portal.toList.getLast? = some 'N'
  · rw [if_pos last]
    simp only [last, ne_eq, not_true_eq_false, iff_false]
    intro same
    obtain ⟨stem, shape⟩ := List.getLast?_eq_some_iff.1 last
    rw [shape, List.dropLast_concat] at same
    simp at same
  · rw [if_neg last]
    simp [last]

theorem portalId_read {F : Type} {env : Env F} {portal : String} (id : PortalId portal)
    (read : env.cfg.topicPrefix = "N/" ++ portal ++ "/") : env.portalId = some portal := by
  have flat : '/' ∉ portal.toList := id.level '/' (by decide)
  have literal : '<' ∉ portal.toList := id.level '<' (by decide)
  have trimmed : Text.trimEndMatches (portal ++ "/") '/' = portal := Text.trimEndMatches_level flat
  have strip : Text.stripPrefix env.cfg.topicPrefix "N/" = some (portal ++ "/") := by
    rw [Text.stripPrefix_eq_some, read, String.append_assoc]
  have kept : (!portal.isEmpty && !Text.containsChar portal '<') = true := by
    have absent : Text.containsChar portal '<' = false := by
      rw [← Bool.not_eq_true, Text.containsChar_iff]
      exact literal
    rw [absent]
    simp [id.nonempty]
  rw [Env.portalId, strip, Option.map_some, trimmed, Option.filter_some, if_pos kept]

/-- **Which portals the prefixes agree on**: all but those whose id ends in `N`,
whose write prefix names another portal. -/
theorem portal_prefixes_agree {F A : Type} [Binary64 F] [DecidableEq A]
    (parseAddress : String → Option A) (decode : ByteArray → Option (Value F)) (env : Environment)
    (settings : Settings A) (accepted : fromEnv parseAddress env = .ok settings) (portal : String)
    (id : PortalId portal) (named : NamesPortal env portal) :
    SamePortal (⟨settings.toConfig, decode⟩ : Env F) portal ↔
      portal.toList.getLast? ≠ some 'N' := by
  have facts := fromEnv_eq_ok parseAddress accepted
  have read : settings.topicPrefix = "N/" ++ portal ++ "/" := by
    rw [facts.topicPrefix, topicPrefixOf_names named]
  have flat : '/' ∉ portal.toList := id.level '/' (by decide)
  have write := facts.writeTopicPrefix
  rw [read] at write
  constructor
  · intro same
    rw [← writeTopicPrefixOf_iff flat, ← write]
    exact same.write
  · intro last
    rw [(writeTopicPrefixOf_iff flat).2 last] at write
    refine ⟨read, write, portalId_read id read, fun filter listed => ?_, ?_⟩
    · rcases List.mem_append.1 listed with portal | own
      · obtain ⟨leaf, -, rfl⟩ := List.mem_map.1 portal
        exact Or.inr (Or.inr ⟨leaf, by rw [← read]⟩)
      · simp only [List.mem_cons, List.not_mem_nil, or_false] at own
        rcases own with state | override
        · exact Or.inl state
        · exact Or.inr (Or.inl override)
    · intro state now name body request same built
      have allowed := commandRequest_whitelisted built
      rw [same] at allowed
      cases allowed with
      | controller name known payload schema =>
          exact Or.inl ⟨known, rfl⟩
      | silenceAlarm =>
          exact Or.inr ⟨"vebus/0/Alarm", congrArg (· ++ "vebus/0/Alarm") write⟩
      | acknowledgeAll =>
          exact Or.inr ⟨"platform/0/Notifications/AcknowledgeAll",
            congrArg (· ++ "platform/0/Notifications/AcknowledgeAll") write⟩
      | water inst mode range generation queued =>
          refine Or.inr ⟨"pump/" ++ toString inst.toNat ++ "/Mode", ?_⟩
          show settings.writeTopicPrefix ++ "pump/" ++ toString inst.toNat ++ "/Mode" = _
          rw [write]
          simp only [String.append_assoc]

/-- The required settings and a portal id. -/
def portalEnv (portal : String) : Environment
  | "MQTT_HOST" => .value "broker"
  | "MQTT_USERNAME" => .value "gateway"
  | "MQTT_PASSWORD" => .value "secret"
  | "GATEWAY_API_TOKEN" => .value "token"
  | "VICTRON_PORTAL_ID" => .value portal
  | _ => .notPresent

/-- The default listener address. -/
def loopback (text : String) : Option (List Nat × Nat) :=
  if text = "127.0.0.1:8080" then some ([127, 0, 0, 1], 8080) else none

theorem portal_prefixes_agree_numeric :
    ∃ settings, fromEnv loopback (portalEnv "c0619ab9929a") = .ok settings ∧
      (SamePortal (⟨settings.toConfig, fun _ => none⟩ : Env Int) "c0619ab9929a" ↔
        "c0619ab9929a".toList.getLast? ≠ some 'N') := by
  obtain ⟨settings, accepted⟩ := accepted_of_isOk
    (show (fromEnv loopback (portalEnv "c0619ab9929a")).isOk = true by decide +kernel)
  exact ⟨settings, accepted, portal_prefixes_agree loopback (fun _ => none) _ settings accepted
    "c0619ab9929a" ⟨by decide, Text.not_mem_of_all (by decide)⟩ (Or.inl rfl)⟩

/-- A portal whose id ends in `N`: its commands go to another one. -/
theorem portal_prefixes_differ :
    PortalId "siteN" ∧ NamesPortal (portalEnv "siteN") "siteN" ∧
      ∃ settings, fromEnv loopback (portalEnv "siteN") = .ok settings ∧
        settings.topicPrefix = "N/siteN/" ∧ settings.writeTopicPrefix = "W/siteW/" ∧
          ¬ SamePortal (⟨settings.toConfig, fun _ => none⟩ : Env Int) "siteN" := by
  obtain ⟨settings, accepted⟩ := accepted_of_isOk
    (show (fromEnv loopback (portalEnv "siteN")).isOk = true by decide +kernel)
  have facts := fromEnv_eq_ok loopback accepted
  have read : settings.topicPrefix = "N/siteN/" := by
    rw [facts.topicPrefix]
    decide
  have write : settings.writeTopicPrefix = "W/siteW/" := by
    rw [facts.writeTopicPrefix, read]
    decide
  refine ⟨⟨by decide, Text.not_mem_of_all (by decide)⟩, Or.inl rfl, settings, accepted, read, write, fun same => ?_⟩
  have other : settings.writeTopicPrefix = "W/siteN/" := same.write
  rw [write] at other
  exact absurd other (by decide)

end InverterGateway.Gateway

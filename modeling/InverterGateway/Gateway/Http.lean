/-
# Gateway.Http — the routes and who may use them

Every handler of a `/v1` route checks the bearer token itself, after the
framework has run the extractors its signature lists.  An extractor that fails
answers the request before the handler starts, unless the handler takes its
result.  The framework is a parameter (`Axum`): what its extractors accept, the
rejections it answers with, and the headers its layers add.

`unauthorised_refused_iff` says exactly when a request without a valid token is
refused as such: when the extractors of its route accept it.  Where they do
not, the rejection discloses what the request looks like to the handler.
-/
import InverterGateway.Gateway.Events
import InverterGateway.Gateway.Russian
import InverterGateway.Gateway.FromEnv

namespace InverterGateway.Gateway

open InverterGateway.Theory

set_option autoImplicit false

/-! ## Requests and responses -/

/-- A header map: names in lower case, values as bytes. -/
abbrev Headers := List (String × List UInt8)

/-- `HeaderMap::get`: the first value under a name. -/
def Headers.get (headers : Headers) (name : String) : Option (List UInt8) :=
  headers.lookup (Text.toAsciiLowercase name)

/-- `HeaderValue::to_str`: visible ASCII and tabs only. -/
def headerStr (value : List UInt8) : Option String :=
  if value.all fun b => b == 9 || (decide (32 ≤ b) && decide (b < 127)) then
    some (String.ofList (value.map fun b => Char.ofNat b.toNat))
  else none

inductive Method where
  | get
  | head
  | post
  deriving DecidableEq

/-- The `/v1` routes; a command name as it stands in the path, percent-encoded. -/
inductive Route where
  | snapshot
  | events
  | energy
  | command (segment : String)

structure HttpRequest where
  method : Method
  route : Route
  query : Option String
  headers : Headers
  body : ByteArray

/-- A command route takes GET, HEAD and POST, the others GET and HEAD. -/
def HttpRequest.Registered (request : HttpRequest) : Prop :=
  request.method = .post → ∃ segment, request.route = .command segment

/-- What a response carries; a stream of events by its generation and receiver. -/
inductive Body (F : Type) where
  | empty
  | text (message : String)
  | snapshot (snapshot : Snapshot F)
  | energy (response : EnergyResponse F)
  | events (generation receiver : Nat)
  | commandInfo (name : String)
  | commandResult (ok : Bool)

structure Response (F : Type) where
  status : Nat
  headers : List (String × String)
  body : Body F

namespace Response

variable {F : Type}

/-- `(status, text).into_response()`. -/
def text (status : Nat) (message : String) : Response F :=
  ⟨status, [("content-type", "text/plain; charset=utf-8")], .text message⟩

/-- `Json(value).into_response()`. -/
def json (body : Body F) : Response F := ⟨200, [("content-type", "application/json")], body⟩

/-- What is left of an answer to HEAD. -/
def withoutBody (r : Response F) : Response F := { r with body := .empty }

def addHeaders (r : Response F) (headers : List (String × String)) : Response F :=
  { r with headers := r.headers ++ headers }

end Response

inductive AppError where
  | unauthorized
  | unavailable
  | notFound (message : String)
  | badRequest (message : String)
  | internal (message : String)

/-- `AppError::into_response`. -/
def AppError.response {F : Type} : AppError → Response F
  | .unauthorized => .text 401 "Invalid or missing bearer token"
  | .unavailable => .text 503 "MQTT telemetry unavailable"
  | .notFound message => .text 404 message
  | .badRequest message => .text 400 message
  | .internal message => .text 500 message

/-! ## The framework -/

/-- Why an extractor of the framework rejects a request. -/
inductive RejectionKind where
  | badRequest
  | payloadTooLarge
  | unsupportedMediaType
  | unprocessableEntity
  | internalServerError

def RejectionKind.status : RejectionKind → Nat
  | .badRequest => 400
  | .payloadTooLarge => 413
  | .unsupportedMediaType => 415
  | .unprocessableEntity => 422
  | .internalServerError => 500

theorem RejectionKind.status_ne (kind : RejectionKind) : kind.status ≠ 401 := by
  cases kind <;> decide

structure Rejection where
  kind : RejectionKind
  message : String

def Rejection.response {F : Type} (rejection : Rejection) : Response F :=
  .text rejection.kind.status rejection.message

/-- What the framework does around the handlers: the `Path<String>`,
`Query<EnergyQuery>` and `Json<Value>` extractors, and the headers the CORS layer
adds for the configured origins. -/
structure Axum (F : Type) where
  path : String → Except Rejection String
  query : Option String → Except Rejection EnergyLocale
  json : Headers → ByteArray → Except Rejection (Value F)
  cors : List String → Headers → List (String × String)

/-! ## Authorisation -/

section Auth

variable {A : Type}

/-- The bearer value of the `Authorization` header, with or without its scheme. -/
def bearer (headers : Headers) : Option String :=
  ((headers.get "Authorization").bind headerStr).map fun header =>
    (Text.stripPrefix header "Bearer ").getD header

/-- The comparison both checks end with. -/
def requireToken (token : Option String) (headers : Headers) : Except AppError Unit :=
  match token with
  | none => .error .unauthorized
  | some token =>
      match bearer headers with
      | none => .error .unauthorized
      | some bearer => if bearer = token then .ok () else .error .unauthorized

/-- `require_auth`. -/
def requireAuth (cfg : Settings A) (headers : Headers) : Except AppError Unit :=
  if cfg.allowInsecure then .ok () else requireToken cfg.apiToken headers

/-- `require_read_auth`. -/
def requireReadAuth (cfg : Settings A) (headers : Headers) : Except AppError Unit :=
  match requireAuth cfg headers with
  | .ok () => .ok ()
  | .error _ => requireToken cfg.readToken headers

/-- The request presents this token. -/
def Bears (headers : Headers) (token : Option String) : Prop :=
  ∃ text, token = some text ∧ bearer headers = some text

theorem requireToken_of_not {token : Option String} {headers : Headers}
    (absent : ¬ Bears headers token) : requireToken token headers = .error .unauthorized := by
  unfold requireToken
  split
  · rfl
  · split
    · rfl
    · rename_i text _ shown found
      refine if_neg fun same => absent ⟨text, rfl, ?_⟩
      rw [found, same]

theorem requireAuth_of_not {cfg : Settings A} {headers : Headers}
    (secure : cfg.allowInsecure = false) (absent : ¬ Bears headers cfg.apiToken) :
    requireAuth cfg headers = .error .unauthorized := by
  rw [requireAuth, secure]
  exact requireToken_of_not absent

theorem requireReadAuth_of_not {cfg : Settings A} {headers : Headers}
    (secure : cfg.allowInsecure = false) (absent : ¬ Bears headers cfg.apiToken)
    (unread : ¬ Bears headers cfg.readToken) :
    requireReadAuth cfg headers = .error .unauthorized := by
  rw [requireReadAuth, requireAuth_of_not secure absent]
  exact requireToken_of_not unread

end Auth

/-! ## Handlers -/

/-- The clocks a handler reads. -/
structure Clock where
  now : Instant
  generatedAt : Nat

/-- What the handlers share. -/
structure Service (F A : Type) where
  shared : Shared F
  commandTx : Option CommandChannel
  cfg : Settings A

namespace Service

variable {F A : Type}

/-- The part of the state that `execute` reads and writes. -/
def app (service : Service F A) : AppState F :=
  ⟨service.shared, service.commandTx, service.cfg.toConfig⟩

def snapshot (service : Service F A) (clock : Clock) (headers : Headers) :
    Except AppError (Response F) := do
  requireReadAuth service.cfg headers
  match service.shared.snapshot clock.now with
  | some snapshot => .ok (.json (.snapshot snapshot))
  | none => .error .unavailable

def localeName : EnergyLocale → String
  | .en => "en"
  | .ru => "ru"

/-- The handler takes the result of the query extractor; no response stands for a
rendering that fails. -/
def energy [Binary64 F] (service : Service F A) (clock : Clock) (headers : Headers)
    (query : Except Rejection EnergyLocale) : Except AppError (Option (Response F)) := do
  requireReadAuth service.cfg headers
  match query with
  | .error _ => .error (.badRequest "Use locale=en or locale=ru exactly once.")
  | .ok locale =>
      .ok (((EnergyResponse.build service.cfg.energy service.shared.telemetry.connected
        service.shared.telemetry.energyReadings clock.now clock.generatedAt).localized locale).map
          fun response =>
            (Response.json (.energy response)).addHeaders
              [("cache-control", "no-store"), ("content-language", localeName locale)])

def events (service : Service F A) (clock : Clock) (headers : Headers) :
    Response F × Service F A :=
  match requireReadAuth service.cfg headers with
  | .error e => (e.response, service)
  | .ok () =>
      match service.shared.subscribe with
      | none => (AppError.unavailable.response, service)
      | some (generation, receiver) =>
          (⟨200, [("content-type", "text/event-stream"), ("cache-control", "no-cache")],
              .events generation receiver⟩,
            { service with shared := service.shared.apply (clock.now, .subscribe) })

def commandGet (service : Service F A) (name : String) (headers : Headers) :
    Except AppError (Response F) := do
  requireAuth service.cfg headers
  if !isKnown name then .error (.notFound ("unknown command: " ++ name))
  else .ok (.json (.commandInfo name))

/-- The error a failed command is reported as. -/
def commandFailure : CommandError → AppError
  | .notWired => .internal "command not wired to MQTT"
  | .unknownCommand name => .notFound ("unknown command: " ++ name)
  | .publishFailed e => .internal ("mqtt publish failed: " ++ e)
  | .invalidBody e => .badRequest e
  | .unavailable => .unavailable

def commandPost [Binary64 F] (service : Service F A) (clock : Clock) (name : String)
    (headers : Headers) (body : Value F) : Except AppError (Response F) × Service F A :=
  match requireAuth service.cfg headers with
  | .error e => (.error e, service)
  | .ok () =>
      let (result, state) := execute service.app clock.now name body
      let service := { service with commandTx := state.commandTx }
      match result with
      | .ok () => (.ok (.json (.commandResult true)), service)
      | .error e => (.error (commandFailure e), service)

end Service

/-! ## The router -/

/-- A handler's result as a response. -/
def answer {F : Type} : Except AppError (Response F) → Response F
  | .ok response => response
  | .error e => e.response

namespace Axum

variable {F A : Type} [Binary64 F] (axum : Axum F)

/-- The GET handler of a route; `none` when it fails without a response. -/
def getRoute (service : Service F A) (clock : Clock) (request : HttpRequest) :
    Option (Response F) × Service F A :=
  match request.route with
  | .snapshot => (some (answer (service.snapshot clock request.headers)), service)
  | .events => (service.events clock request.headers).map some id
  | .energy =>
      match service.energy clock request.headers (axum.query request.query) with
      | .error e => (some e.response, service)
      | .ok response => (response, service)
  | .command segment =>
      match axum.path segment with
      | .error rejection => (some rejection.response, service)
      | .ok name => (some (answer (service.commandGet name request.headers)), service)

/-- The POST handler of a route: the body is extracted after the name. -/
def postRoute (service : Service F A) (clock : Clock) (request : HttpRequest) :
    Option (Response F) × Service F A :=
  match request.route with
  | .command segment =>
      match axum.path segment with
      | .error rejection => (some rejection.response, service)
      | .ok name =>
          match axum.json request.headers request.body with
          | .error rejection => (some rejection.response, service)
          | .ok body =>
              (service.commandPost clock name request.headers body).map
                (fun result => some (answer result)) id
  | _ => (some ⟨405, [("allow", "GET,HEAD")], .empty⟩, service)

/-- What the router adds to a handler's response. -/
def finish (cfg : Settings A) (method : Method) (headers : Headers) (r : Response F) : Response F :=
  ((if method = .head then r.withoutBody else r)).addHeaders (axum.cors cfg.corsOrigins headers)

/-- `router`: one request served. -/
def serve (service : Service F A) (clock : Clock) (request : HttpRequest) :
    Option (Response F) × Service F A :=
  (if request.method = .post then axum.postRoute service clock request
    else axum.getRoute service clock request).map
      (Option.map (axum.finish service.cfg request.method request.headers)) id

/-! ## Requests without a valid token -/

/-- The answer to a request without a valid token: it depends on the method and
the headers only. -/
def unauthorised (cfg : Settings A) (method : Method) (headers : Headers) : Response F :=
  axum.finish cfg method headers AppError.unauthorized.response

/-- The rejection of the extractors that run before the handler of a request: the
name first, then the body. -/
def rejects (request : HttpRequest) : Option Rejection :=
  match request.route with
  | .command segment =>
      match axum.path segment with
      | .error rejection => some rejection
      | .ok _ =>
          if request.method = .post then
            match axum.json request.headers request.body with
            | .error rejection => some rejection
            | .ok _ => none
          else none
  | _ => none

/-- The request is refused for its token and changes nothing. -/
def Refuses (service : Service F A) (clock : Clock) (request : HttpRequest) : Prop :=
  axum.serve service clock request =
    (some (axum.unauthorised service.cfg request.method request.headers), service)

end Axum

/-- A request without a token that is valid on its route.  The read token is none
on the command routes. -/
def Unauthorised {A : Type} (cfg : Settings A) (request : HttpRequest) : Prop :=
  match request.route with
  | .command _ => ¬ Bears request.headers cfg.apiToken ∨ Bears request.headers cfg.readToken
  | _ => ¬ Bears request.headers cfg.apiToken ∧ ¬ Bears request.headers cfg.readToken

section Strangers

variable {F A : Type} {service : Service F A} {request : HttpRequest}

/-- A command route wants the full token, whatever else the request presents. -/
theorem requireAuth_command [DecidableEq A] {parseAddress : String → Option A} {env : Environment}
    (accepted : fromEnv parseAddress env = .ok service.cfg)
    (secure : service.cfg.allowInsecure = false) {segment : String}
    (target : request.route = .command segment) (stranger : Unauthorised service.cfg request) :
    requireAuth service.cfg request.headers = .error .unauthorized := by
  refine requireAuth_of_not secure ?_
  simp only [Unauthorised, target] at stranger
  rintro ⟨full, configured, shown⟩
  rcases stranger with absent | ⟨read, reader, presented⟩
  · exact absent ⟨full, configured, shown⟩
  · rw [shown] at presented
    cases presented
    exact (fromEnv_eq_ok parseAddress accepted).distinct full reader configured

theorem requireReadAuth_stranger (secure : service.cfg.allowInsecure = false)
    (telemetry : ∀ segment, request.route ≠ .command segment)
    (stranger : Unauthorised service.cfg request) :
    requireReadAuth service.cfg request.headers = .error .unauthorized := by
  unfold Unauthorised at stranger
  split at stranger
  · rename_i segment target
    exact absurd target (telemetry segment)
  · exact requireReadAuth_of_not secure stranger.1 stranger.2

variable [Binary64 F] [DecidableEq A] (axum : Axum F)

/-- What a request without a valid token is answered, before the router finishes. -/
theorem route_unauthorised {parseAddress : String → Option A} {env : Environment}
    (accepted : fromEnv parseAddress env = .ok service.cfg)
    (secure : service.cfg.allowInsecure = false) (clock : Clock) (registered : request.Registered)
    (stranger : Unauthorised service.cfg request) :
    (if request.method = .post then axum.postRoute service clock request
      else axum.getRoute service clock request) =
        (some (((axum.rejects request).map Rejection.response).getD
          AppError.unauthorized.response), service) := by
  have reading (telemetry : ∀ segment, request.route ≠ .command segment) :
      request.method ≠ .post ∧
        requireReadAuth service.cfg request.headers = .error .unauthorized := by
    refine ⟨fun post => ?_, requireReadAuth_stranger secure telemetry stranger⟩
    obtain ⟨segment, target⟩ := registered post
    exact telemetry segment target
  cases target : request.route with
  | snapshot =>
      obtain ⟨method, refused⟩ := reading (by simp [target])
      rw [if_neg method]
      simp only [Axum.getRoute, Axum.rejects, target, Service.snapshot, refused]
      rfl
  | events =>
      obtain ⟨method, refused⟩ := reading (by simp [target])
      rw [if_neg method]
      simp only [Axum.getRoute, Axum.rejects, target, Service.events, refused]
      rfl
  | energy =>
      obtain ⟨method, refused⟩ := reading (by simp [target])
      rw [if_neg method]
      simp only [Axum.getRoute, Axum.rejects, target, Service.energy, refused]
      rfl
  | command segment =>
      have refused := requireAuth_command accepted secure target stranger
      simp only [Axum.getRoute, Axum.postRoute, Axum.rejects, target]
      cases name : axum.path segment with
      | error rejection => simp
      | ok name =>
          by_cases post : request.method = .post
          · simp only [if_pos post]
            cases axum.json request.headers request.body with
            | error rejection => rfl
            | ok body =>
                simp only [Service.commandPost, refused]
                rfl
          · simp only [if_neg post, Service.commandGet, refused]
            rfl

/-- **When a request without a valid token is refused as such**: exactly when no
extractor rejects it first.  It changes no state either way. -/
theorem unauthorised_refused_iff (parseAddress : String → Option A) (env : Environment)
    (service : Service F A) (accepted : fromEnv parseAddress env = .ok service.cfg)
    (secure : service.cfg.allowInsecure = false) (clock : Clock) (request : HttpRequest)
    (registered : request.Registered) (stranger : Unauthorised service.cfg request) :
    (axum.serve service clock request).2 = service ∧
      (axum.Refuses service clock request ↔ axum.rejects request = none) := by
  have routed := route_unauthorised axum accepted secure clock registered stranger
  rw [Axum.Refuses, Axum.serve, routed]
  refine ⟨rfl, ?_, fun passed => ?_⟩
  · intro same
    have first := congrArg Prod.fst same
    simp only [Prod.map_fst, Option.map_some, Option.some.injEq] at first
    cases found : axum.rejects request with
    | none => rfl
    | some rejection =>
        rw [found] at first
        have status := congrArg Response.status first
        have kept (r : Response F) :
            (axum.finish service.cfg request.method request.headers r).status = r.status := by
          unfold Axum.finish
          split <;> rfl
        rw [Axum.unauthorised, kept, kept] at status
        exact absurd status rejection.kind.status_ne
  · rw [passed]
    rfl

end Strangers

/-! ## A rejected body -/

/-- The framework on plain names, on no query, and on no body but an empty object. -/
def plainAxum : Axum Int where
  path segment := .ok segment
  query
    | none => .ok .en
    | some _ => .error ⟨.badRequest, "Failed to deserialize query string"⟩
  json headers body :=
    if headers.get "content-type" = some ("application/json".toList.map fun c => .ofNat c.toNat) then
      if body.data = #[123, 125] then .ok (.object [])
      else .error ⟨.badRequest, "Failed to parse the request body as JSON"⟩
    else .error ⟨.unsupportedMediaType, "Expected request with `Content-Type: application/json`"⟩
  cors _ _ := [("vary", "origin, access-control-request-method, access-control-request-headers")]

/-- A gateway that has just started. -/
def started {A : Type} (cfg : Settings A) : Service Int A := ⟨.new, none, cfg⟩

/-- A command sent without a token. -/
def anonymousPost (headers : Headers) (body : ByteArray) : HttpRequest where
  method := .post
  route := .command "toggle"
  query := none
  headers := headers
  body := body

theorem anonymousPost_stranger {A : Type} (cfg : Settings A) {headers : Headers} (body : ByteArray)
    (silent : bearer headers = none) : Unauthorised cfg (anonymousPost headers body) := by
  refine Or.inl fun ⟨token, _, shown⟩ => ?_
  have shown : bearer headers = some token := shown
  rw [silent] at shown
  cases shown

theorem portal_accepted : ∃ settings, fromEnv loopback (portalEnv "c0619ab9929a") = .ok settings ∧
    settings.allowInsecure = false := by
  have secure : ((fromEnv loopback (portalEnv "c0619ab9929a")).toOption.any
      fun settings => !settings.allowInsecure) = true := by decide +kernel
  cases found : fromEnv loopback (portalEnv "c0619ab9929a") with
  | error e =>
      rw [found] at secure
      cases secure
  | ok settings =>
      rw [found] at secure
      exact ⟨settings, rfl, by simpa [Except.toOption] using secure⟩

/-- A request whose body is an empty object. -/
def anonymousToggle : HttpRequest :=
  anonymousPost [("content-type", "application/json".toList.map fun c => .ofNat c.toNat)]
    ⟨#[123, 125]⟩

theorem unauthorised_refused_toggle :
    ∃ settings, fromEnv loopback (portalEnv "c0619ab9929a") = .ok settings ∧
      (plainAxum.serve (started settings) ⟨0, 0⟩ anonymousToggle).2 = started settings ∧
      (plainAxum.Refuses (started settings) ⟨0, 0⟩ anonymousToggle ↔
        plainAxum.rejects anonymousToggle = none) := by
  obtain ⟨settings, accepted, secure⟩ := portal_accepted
  refine ⟨settings, accepted, ?_⟩
  exact unauthorised_refused_iff plainAxum loopback (portalEnv "c0619ab9929a") (started settings)
    accepted secure ⟨0, 0⟩ anonymousToggle (fun _ => ⟨"toggle", rfl⟩)
    (anonymousPost_stranger settings ⟨#[123, 125]⟩ rfl)

/-- Without a token and without a content type, the answer is 415, not 401. -/
theorem unauthorised_answered :
    ∃ settings, fromEnv loopback (portalEnv "c0619ab9929a") = .ok settings ∧
      settings.allowInsecure = false ∧
      Unauthorised settings (anonymousPost [] ⟨#[]⟩) ∧
      (anonymousPost [] ⟨#[]⟩).Registered ∧
      (plainAxum.serve (started settings) ⟨0, 0⟩ (anonymousPost [] ⟨#[]⟩)).1.map Response.status =
        some 415 ∧
      ¬ plainAxum.Refuses (started settings) ⟨0, 0⟩ (anonymousPost [] ⟨#[]⟩) := by
  obtain ⟨settings, accepted, secure⟩ := portal_accepted
  have status : (plainAxum.serve (started settings) ⟨0, 0⟩ (anonymousPost [] ⟨#[]⟩)).1.map
      Response.status = some 415 := rfl
  refine ⟨settings, accepted, secure, anonymousPost_stranger settings ⟨#[]⟩ rfl,
    fun _ => ⟨"toggle", rfl⟩, status, fun refused => ?_⟩
  rw [Axum.Refuses] at refused
  rw [refused] at status
  have code : (401 : Nat) = 415 := Option.some.inj status
  omega

end InverterGateway.Gateway

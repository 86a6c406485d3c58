/-
# Gateway.Router — building the router of an accepted configuration

`fromEnv` takes the CORS origins as they stand; `router` parses each of them as a
header value and unwraps the result, and the CORS layer refuses the wildcard in
a list.  `router_builds_iff` says for which environments neither panics.
-/
import InverterGateway.Gateway.FromEnv

namespace InverterGateway.Gateway

open InverterGateway.Theory

set_option autoImplicit false

/-! ## The router -/

/-- The panics of building a router. -/
inductive Panic where
  /-- `unwrap` of a header value that does not parse. -/
  | invalidHeaderValue
  /-- `AllowOrigin::list` with the wildcard. -/
  | wildcardOrigin
  deriving DecidableEq

/-- The layer over all routes: no CORS headers, or a list of origins. -/
inductive CorsLayer where
  | new
  | allowOrigins (origins : List String)
  deriving DecidableEq

structure Router where
  routes : List String
  cors : CorsLayer
  deriving DecidableEq

/-- `o.parse::<HeaderValue>().unwrap()`, where `legal` tells which texts parse. -/
def parseOrigin (legal : String → Bool) (origin : String) : Except Panic String :=
  if legal origin then .ok origin else .error .invalidHeaderValue

/-- `AllowOrigin::list`. -/
def allowOriginList (origins : List String) : Except Panic CorsLayer :=
  if "*" ∈ origins then .error .wildcardOrigin else .ok (.allowOrigins origins)

/-- The CORS layer of `router`. -/
def corsLayer (legal : String → Bool) (corsOrigins : List String) : Except Panic CorsLayer :=
  if corsOrigins.isEmpty then .ok .new
  else do
    let origins ← corsOrigins.mapM (parseOrigin legal)
    allowOriginList origins

/-- `router`. -/
def router {A : Type} (legal : String → Bool) (cfg : Settings A) : Except Panic Router := do
  let cors ← corsLayer legal cfg.corsOrigins
  .ok ⟨["/health", "/v1/snapshot", "/v1/events", "/v1/energy", "/v1/commands/{name}"], cors⟩

/-! ## When it builds -/

/-- A control byte of a header value: below 32 other than tab, or 127. -/
def ControlByte (c : Char) : Prop := (c.toNat < 32 ∧ c ≠ '\t') ∨ c.toNat = 127

/-- A text with a control byte is no header value. -/
def RefusesControls (legal : String → Bool) : Prop :=
  ∀ text, (∃ c ∈ text.toList, ControlByte c) → legal text = false

theorem parseOrigins_eq_ok (legal : String → Bool) (origins parsed : List String) :
    origins.mapM (parseOrigin legal) = .ok parsed ↔
      parsed = origins ∧ ∀ origin ∈ origins, legal origin = true := by
  induction origins generalizing parsed with
  | nil =>
      rw [List.mapM_nil]
      constructor
      · intro same
        obtain rfl := Except.ok.inj same
        exact ⟨rfl, fun _ found => absurd found List.not_mem_nil⟩
      · rintro ⟨rfl, -⟩
        rfl
  | cons origin rest ih =>
      rw [List.mapM_cons, List.forall_mem_cons]
      by_cases good : legal origin = true
      · have first : parseOrigin legal origin = .ok origin := if_pos good
        simp only [first, bind_eq_ok, Except.ok.injEq, exists_eq_left', ih]
        constructor
        · rintro ⟨others, ⟨rfl, all⟩, same⟩
          exact ⟨(Except.ok.inj same).symm, good, all⟩
        · rintro ⟨rfl, -, all⟩
          exact ⟨rest, ⟨rfl, all⟩, rfl⟩
      · have first : parseOrigin legal origin = .error .invalidHeaderValue := if_neg good
        rw [first]
        exact ⟨fun same => (by cases same), fun all => absurd all.2.1 good⟩

theorem corsLayer_builds_iff (legal : String → Bool) (origins : List String) :
    (∃ layer, corsLayer legal origins = .ok layer) ↔
      ∀ origin ∈ origins, legal origin = true ∧ origin ≠ "*" := by
  unfold corsLayer
  cases origins with
  | nil => exact ⟨fun _ _ found => absurd found List.not_mem_nil, fun _ => ⟨_, rfl⟩⟩
  | cons first rest =>
      rw [List.isEmpty_cons, if_neg Bool.false_ne_true]
      simp only [bind_eq_ok, parseOrigins_eq_ok]
      constructor
      · rintro ⟨layer, parsed, ⟨rfl, all⟩, listed⟩ origin found
        refine ⟨all origin found, ?_⟩
        rintro rfl
        rw [allowOriginList, if_pos found] at listed
        cases listed
      · intro each
        have plain : "*" ∉ first :: rest := fun found => (each "*" found).2 rfl
        exact ⟨_, _, ⟨rfl, fun origin found => (each origin found).1⟩, if_neg plain⟩

section FromEnv

variable {A : Type} [DecidableEq A] (parseAddress : String → Option A)

theorem fromEnv_corsOrigins {env : Environment} {settings : Settings A}
    (accepted : fromEnv parseAddress env = .ok settings) :
    settings.corsOrigins = corsOriginsOf env := by
  simp only [fromEnv, bind_eq_ok] at accepted
  obtain ⟨_, -, _, -, _, -, _, -, ⟨tls, caFile, port⟩, -, _, -, _, -, _, -, _, -, _, -, _, -, _, -,
    _, -, energy, -, _, -, _, -, same⟩ := accepted
  rw [Except.ok.injEq] at same
  subst same
  rfl

/-- **When an accepted configuration builds its router**: every listed origin
parses as a header value, so has no control byte, and none is the wildcard. -/
theorem router_builds_iff (legal : String → Bool) (refuses : RefusesControls legal)
    (env : Environment) (settings : Settings A)
    (accepted : fromEnv parseAddress env = .ok settings) :
    ((∃ built, router legal settings = .ok built) ↔
        ∀ origin ∈ corsOriginsOf env, legal origin = true ∧ origin ≠ "*") ∧
      ∀ origin ∈ corsOriginsOf env, (∃ c ∈ origin.toList, ControlByte c) →
        ∃ panic, router legal settings = .error panic := by
  have builds : (∃ built, router legal settings = .ok built) ↔
      ∀ origin ∈ corsOriginsOf env, legal origin = true ∧ origin ≠ "*" := by
    rw [← fromEnv_corsOrigins parseAddress accepted, ← corsLayer_builds_iff]
    simp only [router, bind_eq_ok, Except.ok.injEq]
    constructor
    · rintro ⟨built, layer, same, -⟩
      exact ⟨layer, same⟩
    · rintro ⟨layer, same⟩
      exact ⟨_, layer, same, rfl⟩
  refine ⟨builds, fun origin found control => ?_⟩
  cases built : router legal settings with
  | error panic => exact ⟨panic, rfl⟩
  | ok result =>
      have good := (builds.1 ⟨result, built⟩ origin found).1
      rw [refuses origin control] at good
      cases good

end FromEnv

/-- The environment of a portal with a list of CORS origins. -/
def corsEnv (origins : String) : Environment
  | "GATEWAY_CORS_ORIGINS" => .value origins
  | name => portalEnv "c0619ab9929a" name

/-- Header values without control bytes. -/
def plainHeader (text : String) : Bool :=
  text.toList.all fun c => (32 ≤ c.toNat || c == '\t') && c.toNat != 127

theorem plainHeader_refuses : RefusesControls plainHeader := by
  rintro text ⟨c, inside, control⟩
  rw [Bool.eq_false_iff]
  intro all
  have one := List.all_eq_true.1 all c inside
  simp only [Bool.and_eq_true, Bool.or_eq_true, decide_eq_true_eq, beq_iff_eq, bne_iff_ne] at one
  rcases control with ⟨low, other⟩ | delete
  · rcases one.1 with high | tab
    · omega
    · exact other tab
  · exact one.2 delete

theorem router_builds_iff_app :
    ∃ settings, fromEnv loopback (corsEnv "https://app.example, http://localhost:3000") = .ok settings ∧
      ∃ built, router plainHeader settings = .ok built := by
  obtain ⟨settings, accepted⟩ := accepted_of_isOk
    (show (fromEnv loopback (corsEnv "https://app.example, http://localhost:3000")).isOk = true by
      decide +kernel)
  have builds := (router_builds_iff loopback plainHeader plainHeader_refuses _ settings accepted).1
  have listed : corsOriginsOf (corsEnv "https://app.example, http://localhost:3000") =
      ["https://app.example", "http://localhost:3000"] := by decide +kernel
  refine ⟨settings, accepted, builds.2 ?_⟩
  rw [listed]
  decide +kernel

/-- Any origin asked for by its wildcard: accepted, and the router panics. -/
theorem router_panics_on_wildcard :
    ∃ settings, fromEnv loopback (corsEnv "*") = .ok settings ∧
      router plainHeader settings = .error .wildcardOrigin := by
  obtain ⟨settings, accepted⟩ := accepted_of_isOk
    (show (fromEnv loopback (corsEnv "*")).isOk = true by decide +kernel)
  have listed : settings.corsOrigins = ["*"] := by
    rw [fromEnv_corsOrigins loopback accepted]
    decide +kernel
  refine ⟨settings, accepted, ?_⟩
  unfold router
  rw [listed]
  rfl

end InverterGateway.Gateway

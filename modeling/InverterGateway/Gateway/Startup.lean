/-
# Gateway.Startup — from the first line of `main` to its exit

`main` reads the configuration, registers its signals, binds its sockets, starts
the MQTT bridge and serves until a signal arrives or a listener fails.  Each of
these may fail; the host answers them in view of everything that happened before,
so a theorem about every `Host` is one about every sequence of outcomes.

Two promises of the source are stated over whole runs.  A broken HTTPS
configuration never falls back to HTTP: the HTTP address is bound only behind
the accepted certificate and the bound HTTPS socket, and nothing is served before
everything is in place (`startup_guarded`).  A bridge that was started is
stopped, once and as the last thing, however serving ends
(`bridge_lifetime`); a router that panics is the one way around it.
-/
import InverterGateway.Theory.Guarded
import InverterGateway.Theory.Fallible
import InverterGateway.Gateway.Router
import InverterGateway.Gateway.TlsPolicy

namespace InverterGateway.Gateway.Startup

open InverterGateway.Theory

set_option autoImplicit false

/-! ## What happens -/

inductive ErrorKind where
  | invalidData
  | unexpectedEof
  /-- any other kind the host reports -/
  | other (code : Nat)
  deriving DecidableEq

structure IoError where
  kind : ErrorKind
  message : String
  deriving DecidableEq

/-- How `main` ends other than by returning. -/
inductive Stop where
  | config (error : ConfigError)
  | io (error : IoError)
  | panic (panic : Panic)

/-- The signals of a Unix host. -/
inductive Signal where
  | interrupt
  | terminate
  deriving DecidableEq

/-- The name of a signal in messages. -/
def Signal.name : Signal → String
  | .interrupt => "ctrl-c"
  | .terminate => "terminate"

/-- The transport of the MQTT client: TLS with these trust anchors, or none. -/
inductive Transport where
  | tcp
  | tls (roots : List Der)

/-- How serving ended: the servers stopped by themselves, or a signal stream
yielded, and the servers stopped after it. -/
inductive Served where
  | servers (result : Except Stop Unit)
  | signalled (signal : Signal) (received : Bool) (drained : Except Stop Unit)

inductive Event (A : Type) where
  | printed (line : String)
  | registered (signal : Signal) (result : Except Stop Unit)
  | fileRead (path : String) (result : Except Stop ByteArray)
  | nativeCerts (result : Except Stop (List Der))
  | tlsLoaded (certificates privateKey : ByteArray) (result : Except Stop Unit)
  | bound (address : A) (result : Except Stop Unit)
  | nonblocking (address : A) (result : Except Stop Unit)
  | coalescing
  | bridgeStarted (transport : Transport)
  | localAddr (address : A) (result : Except Stop Unit)
  | adopted (address : A) (result : Except Stop Unit)
  | serving (https : Bool)
  | served (result : Except Stop Served)
  | bridgeStopped

/-- The host, and the libraries that read certificates and headers. -/
structure Host (A : Type) where
  parseAddress : String → Option A
  /-- `CARGO_PKG_VERSION` -/
  version : String
  x509 : X509
  /-- The certificates that the PEM reader yields. -/
  pem : ByteArray → List (Except String Der)
  /-- `RootCertStore::add`. -/
  addRoot : Der → Except String Unit
  /-- How the TLS library prints a general error. -/
  generalError : String → String
  /-- Which texts parse as header values. -/
  legal : String → Bool
  register : List (Event A) → Signal → Except IoError Unit
  readFile : List (Event A) → String → Except IoError ByteArray
  nativeCerts : List (Event A) → List Der
  fromPem : List (Event A) → ByteArray → ByteArray → Except IoError Unit
  bind : List (Event A) → A → Except IoError Unit
  setNonblocking : List (Event A) → A → Except IoError Unit
  localAddr : List (Event A) → A → Except IoError Unit
  fromTcp : List (Event A) → A → Except IoError Unit
  serve : List (Event A) → Served

/-- A part of `main`. -/
abbrev Program (A α : Type) := Trace (Event A) Unit Stop α

section Main

variable {A : Type} (host : Host A)

/-- An operation of the host, with its failure as an I/O error. -/
def operation {α : Type} (answer : List (Event A) → Except IoError α)
    (event : Except Stop α → Event A) : Program A α :=
  Trace.observe (fun log => (answer log).mapError .io) event

/-- An operation whose failure is reworded. -/
def reworded {α : Type} (answer : List (Event A) → Except IoError α) (word : IoError → Stop)
    (event : Except Stop α → Event A) : Program A α :=
  Trace.observe (fun log => (answer log).mapError word) event

/-! ## Signals -/

def register (signal : Signal) : Program A Unit :=
  reworded (fun log => host.register log signal)
    (fun error => .io ⟨error.kind,
      "failed to register " ++ signal.name ++ " handler: " ++ error.message⟩)
    (.registered signal)

/-- `shutdown_signal`, up to the future it returns. -/
def prepareShutdown : Program A Unit := do
  register host .interrupt
  register host .terminate

/-- What the future of `prepare_shutdown` yields for a signal stream. -/
def shutdownResult (signal : Signal) (received : Bool) : Except Stop Unit :=
  if received then .ok ()
  else .error (.io ⟨.unexpectedEof, signal.name ++ " signal stream closed"⟩)

/-! ## Listeners -/

def bindSocket (address : A) : Program A Unit := do
  operation (fun log => host.bind log address) (.bound address)
  operation (fun log => host.setNonblocking log address) (.nonblocking address)

/-- The certificate policy, over the bytes of a file. -/
def strongChain (certificates : ByteArray) : Except Stop Unit :=
  (strongPemChain host.x509 ((host.pem certificates).map Except.toOption)).mapError
    fun error => .io ⟨.invalidData, host.generalError error⟩

def bindHttps (https : HttpsConfig A) : Program A Unit := do
  let certificates ← operation (fun log => host.readFile log https.certFile)
    (.fileRead https.certFile)
  strongChain host certificates
  let privateKey ← operation (fun log => host.readFile log https.keyFile) (.fileRead https.keyFile)
  operation (fun log => host.fromPem log certificates privateKey)
    (.tlsLoaded certificates privateKey)
  bindSocket host https.bind

def bindSecure : Option (HttpsConfig A) → Program A Unit
  | some https => bindHttps host https
  | none => pure ()

/-- `Listeners::bind`. -/
def bindListeners (httpBind : A) (https : Option (HttpsConfig A)) : Program A Unit := do
  bindSecure host https
  bindSocket host httpBind

/-! ## The MQTT transport -/

/-- The loop of `mqtt_ca_roots`: the trust anchors of a PEM file, all of them or none. -/
def addRoots (roots : List Der) : List (Except String Der) → Except Stop (List Der)
  | [] => .ok roots
  | item :: rest => do
      let certificate ← item.mapError fun error => .config ("invalid MQTT_CA_FILE PEM: " ++ error)
      (strongCertificate host.x509 certificate).mapError fun error =>
        .config ("invalid MQTT_CA_FILE key strength: " ++ host.generalError error)
      (host.addRoot certificate).mapError fun error =>
        .config ("invalid MQTT_CA_FILE certificate: " ++ error)
      addRoots (roots ++ [certificate]) rest

def someRoots (roots : List Der) (message : String) : Except Stop (List Der) :=
  if roots.isEmpty then .error (.config message) else .ok roots

/-- `mqtt_ca_roots`. -/
def mqttCaRoots (pem : ByteArray) : Except Stop (List Der) := do
  let roots ← addRoots host [] (host.pem pem)
  someRoots roots "MQTT_CA_FILE contains no CA certificates"

/-- The strong ones among the system's certificates, as far as the store takes them. -/
def strongRoots (certificates : List Der) : List Der :=
  certificates.filter fun certificate =>
    (strongCertificate host.x509 certificate).isOk && (host.addRoot certificate).isOk

def fileTransport (path : String) : Program A Transport := do
  let pem ← reworded (fun log => host.readFile log path)
    (fun error => .config ("cannot read MQTT_CA_FILE: " ++ error.message)) (.fileRead path)
  let roots ← mqttCaRoots host pem
  pure (.tls roots)

def systemTransport : Program A Transport := do
  let certificates ← operation (fun log => .ok (host.nativeCerts log)) .nativeCerts
  let roots ← someRoots (strongRoots host certificates)
    "no system CA certificates available for MQTT TLS; set MQTT_CA_FILE"
  pure (.tls roots)

/-- `mqtt_transport`. -/
def mqttTransport (tls : Bool) (caFile : Option String) : Program A Transport :=
  match tls, caFile with
  | false, some _ =>
      liftM (.error (.config "MQTT_CA_FILE requires MQTT_TLS=1") : Except Stop Transport)
  | false, none => pure .tcp
  | true, some path => fileTransport host path
  | true, none => systemTransport host

/-- `MqttBridge::start`. -/
def startBridge (settings : Settings A) : Program A Unit := do
  let transport ← mqttTransport host settings.mqttTls settings.mqttCaFile
  Trace.emit (.bridgeStarted transport)

/-! ## Serving -/

/-- `Listeners::serve`: the answer is the result of the shutdown future, as far as
it was polled. -/
def serve (settings : Settings A) : Program A (Except Stop Unit) := do
  operation (fun log => host.localAddr log settings.httpBind) (.localAddr settings.httpBind)
  operation (fun log => host.fromTcp log settings.httpBind) (.adopted settings.httpBind)
  Trace.emit (.serving settings.https.isSome)
  let served ← Trace.observe (fun log => .ok (host.serve log)) .served
  match served with
    | .servers result => do
        result
        pure (.ok ())
    | .signalled signal received drained => do
        drained
        pure (shutdownResult signal received)

/-- After the bridge is started. -/
def serveAndStop (settings : Settings A) : Program A Unit := do
  let (result, _) ← Trace.attempt () (serve host settings)
  Trace.emit .bridgeStopped
  let shutdown ← (result : Except Stop (Except Stop Unit))
  shutdown

/-- `main` with an accepted configuration. -/
def run (settings : Settings A) : Program A Unit := do
  prepareShutdown host
  bindListeners host settings.httpBind settings.https
  Trace.emit .coalescing
  startBridge host settings
  let _ ← ((router host.legal settings).mapError .panic : Except Stop Router)
  serveAndStop host settings

/-- `main`, with the first argument of the command line. -/
def main [DecidableEq A] (argument : Option String) (env : Environment) : Program A Unit :=
  if argument = some "--version" then Trace.emit (.printed ("inverter-gateway " ++ host.version))
  else do
    let settings ← ((fromEnv host.parseAddress env).mapError .config : Except Stop (Settings A))
    run host settings

end Main

/-! ## What must have happened before -/

/-- The events of the bridge's life. -/
def Event.ofBridge {A : Type} : Event A → Bool
  | .bridgeStarted _ | .bridgeStopped => true
  | _ => false

section Guard

variable {A : Type} (host : Host A)

structure Registered (log : List (Event A)) : Prop where
  interrupt : .registered .interrupt (.ok ()) ∈ log
  terminate : .registered .terminate (.ok ()) ∈ log

/-- The HTTPS listener, if one is configured, is in place: its chain is strong, its
key fits, and its socket is bound. -/
def Secured (https : Option (HttpsConfig A)) (log : List (Event A)) : Prop :=
  ∀ config, https = some config → ∃ certificates privateKey,
    .fileRead config.certFile (.ok certificates) ∈ log ∧
    strongPemChain host.x509 ((host.pem certificates).map Except.toOption) = .ok () ∧
    .fileRead config.keyFile (.ok privateKey) ∈ log ∧
    .tlsLoaded certificates privateKey (.ok ()) ∈ log ∧
    .bound config.bind (.ok ()) ∈ log

/-- Everything is in place for the bridge. -/
structure Ready (settings : Settings A) (log : List (Event A)) : Prop where
  registered : Registered log
  secured : Secured host settings.https log
  http : .bound settings.httpBind (.ok ()) ∈ log

/-- TLS as configured, and only over strong trust anchors. -/
def Transport.Trusted (x509 : X509) (tls : Bool) : Transport → Prop
  | .tcp => tls = false
  | .tls roots => tls = true ∧ roots ≠ [] ∧ ∀ root ∈ roots, strongCertificate x509 root = .ok ()

/-- What an event needs to have happened before it. -/
def guard (settings : Settings A) (log : List (Event A)) : Event A → Prop
  | .bound address _ =>
      address = settings.httpBind → Registered log ∧ Secured host settings.https log
  | .bridgeStarted transport =>
      Ready host settings log ∧ transport.Trusted host.x509 settings.mqttTls
  | .serving https =>
      https = settings.https.isSome ∧ Ready host settings log ∧
        ∃ transport, .bridgeStarted transport ∈ log
  | _ => True

/-- No event of the bridge yet. -/
def Quiet (log : List (Event A)) : Prop := ∀ e ∈ log, e.ofBridge = false

/-- The bridge was started last. -/
def Started (log : List (Event A)) : Prop :=
  ∃ before transport, log = before ++ [.bridgeStarted transport] ∧ Quiet before

/-- The bridge was started once and not stopped. -/
def Running (log : List (Event A)) : Prop :=
  ∃ before transport after, log = before ++ .bridgeStarted transport :: after ∧
    Quiet before ∧ Quiet after

/-- The bridge was started once, and stopped once, last. -/
def Stopped (log : List (Event A)) : Prop :=
  ∃ before transport between,
    log = before ++ .bridgeStarted transport :: (between ++ [.bridgeStopped]) ∧
      Quiet before ∧ Quiet between

/-- A fact about the log that the events of others leave true. -/
def Grows (fact : List (Event A) → Prop) : Prop :=
  ∀ log e, e.ofBridge = false → fact log → fact (log ++ [e])

theorem Quiet.nil : Quiet ([] : List (Event A)) := fun _ found => absurd found List.not_mem_nil

theorem Quiet.grows : Grows (Quiet (A := A)) := fun log e other quiet f found =>
  (List.mem_append.1 found).elim (quiet f) fun last => by rw [List.mem_singleton.1 last]; exact other

theorem Running.grows : Grows (Running (A := A)) := by
  rintro log e other ⟨before, transport, after, rfl, early, late⟩
  exact ⟨before, transport, after ++ [e], by rw [List.append_assoc, List.cons_append], early,
    Quiet.grows after e other late⟩

theorem Registered.append {log : List (Event A)} (facts : Registered log) (e : Event A) :
    Registered (log ++ [e]) :=
  ⟨List.mem_append_left _ facts.interrupt, List.mem_append_left _ facts.terminate⟩

theorem Secured.append {https : Option (HttpsConfig A)} {log : List (Event A)}
    (secured : Secured host https log) (e : Event A) : Secured host https (log ++ [e]) := by
  intro config configured
  obtain ⟨certificates, privateKey, chain, strong, key, loaded, bound⟩ := secured config configured
  exact ⟨certificates, privateKey, List.mem_append_left _ chain, strong, List.mem_append_left _ key,
    List.mem_append_left _ loaded, List.mem_append_left _ bound⟩

theorem Ready.append {settings : Settings A} {log : List (Event A)} (ready : Ready host settings log)
    (e : Event A) : Ready host settings (log ++ [e]) :=
  ⟨ready.registered.append e, ready.secured.append host e, List.mem_append_left _ ready.http⟩

theorem grows_mem (e : Event A) : Grows fun log => e ∈ log :=
  fun _ _ _ found => List.mem_append_left _ found

theorem Grows.and {first second : List (Event A) → Prop} (grows : Grows first)
    (grows' : Grows second) : Grows fun log => first log ∧ second log :=
  fun log e other facts => ⟨grows log e other facts.1, grows' log e other facts.2⟩

theorem Started.running {log : List (Event A)} (started : Started log) :
    Running log ∧ ∃ transport, .bridgeStarted transport ∈ log := by
  obtain ⟨before, transport, rfl, quiet⟩ := started
  exact ⟨⟨before, transport, [], rfl, quiet, .nil⟩, transport,
    List.mem_append_right _ List.mem_cons_self⟩

theorem Running.stop {log : List (Event A)} (running : Running log) :
    Stopped (log ++ [.bridgeStopped]) := by
  obtain ⟨before, transport, after, rfl, early, late⟩ := running
  exact ⟨before, transport, after, by rw [List.append_assoc, List.cons_append], early, late⟩

end Guard

/-! ## The parts of `main` -/

section Parts

variable {A : Type} {host : Host A} {settings : Settings A}

open Trace

/-- **One operation**: facts that others leave true are kept, and a success is logged. -/
theorem reworded_guarded {α : Type} {answer : List (Event A) → Except IoError α}
    {word : IoError → Stop} {event : Except Stop α → Event A} {fact still : List (Event A) → Prop}
    (grows : Grows fact) (other : ∀ r, (event r).ofBridge = false)
    (allowed : ∀ log r, fact log → guard host settings log (event r))
    (weaker : ∀ log, fact log → still log) :
    Guarded (guard host settings) fact (reworded answer word event)
      (fun a log => fact log ∧ event (.ok a) ∈ log) fun _ => still :=
  .observe (fun log facts => allowed log _ facts)
    (fun log _ facts _ => ⟨grows log _ (other _) facts,
      List.mem_append_right _ List.mem_cons_self⟩)
    fun log _ facts _ => weaker _ (grows log _ (other _) facts)

theorem register_guarded (signal : Signal) {fact : List (Event A) → Prop} (grows : Grows fact)
    (quiet : ∀ log, fact log → Quiet log) :
    Guarded (guard host settings) fact (register host signal)
      (fun _ log => fact log ∧ .registered signal (.ok ()) ∈ log) fun _ => Quiet :=
  reworded_guarded grows (fun _ => rfl) (fun _ _ _ => trivial) quiet

theorem prepareShutdown_guarded :
    Guarded (guard host settings) Quiet (prepareShutdown host)
      (fun _ log => Quiet log ∧ Registered log) fun _ => Quiet := by
  refine .bind (register_guarded .interrupt Quiet.grows fun _ => id) fun _ => ?_
  refine (register_guarded .terminate (Quiet.grows.and (grows_mem _)) fun _ => And.left).mono
    (fun _ => id) ?_ fun _ _ => id
  rintro _ log ⟨⟨quiet, interrupt⟩, terminate⟩
  exact ⟨quiet, interrupt, terminate⟩

theorem bindSocket_guarded (address : A) {fact : List (Event A) → Prop} (grows : Grows fact)
    (quiet : ∀ log, fact log → Quiet log)
    (allowed : ∀ log r, fact log → guard host settings log (.bound address r)) :
    Guarded (guard host settings) fact (bindSocket host address)
      (fun _ log => fact log ∧ .bound address (.ok ()) ∈ log) fun _ => Quiet := by
  refine .bind (reworded_guarded grows (fun _ => rfl) allowed quiet) fun _ => ?_
  exact (reworded_guarded (grows.and (grows_mem _)) (fun _ => rfl)
    (fun _ _ _ => by exact trivial) fun log facts => quiet log facts.1).mono (fun _ => id)
    (fun _ _ => And.left) fun _ _ => id

theorem strongChain_eq_ok {certificates : ByteArray} {u : Unit}
    (strong : strongChain host certificates = .ok u) :
    strongPemChain host.x509 ((host.pem certificates).map Except.toOption) = .ok () := by
  unfold strongChain at strong
  cases verdict : strongPemChain host.x509 ((host.pem certificates).map Except.toOption) with
  | error e => rw [verdict] at strong; cases strong
  | ok v => rfl

/-- Securing the HTTPS listener, at an address that is not the HTTP one. -/
theorem bindHttps_guarded {https : HttpsConfig A} (apart : https.bind ≠ settings.httpBind)
    {fact : List (Event A) → Prop} (grows : Grows fact) (quiet : ∀ log, fact log → Quiet log) :
    Guarded (guard host settings) fact (bindHttps host https)
      (fun _ log => fact log ∧ Secured host (some https) log) fun _ => Quiet := by
  refine .bind (reworded_guarded grows (fun _ => rfl) (fun _ _ _ => trivial) quiet)
    fun certificates => ?_
  have grows := grows.and (grows_mem (.fileRead https.certFile (.ok certificates)))
  refine .bind (Q := fun _ log =>
    (fact log ∧ .fileRead https.certFile (.ok certificates) ∈ log) ∧
      strongPemChain host.x509 ((host.pem certificates).map Except.toOption) = .ok ())
    (.lift (fun _ strong _ facts => ⟨facts, strongChain_eq_ok strong⟩)
      fun _ _ log facts => quiet log facts.1) fun _ => ?_
  have fixed : Grows fun _ : List (Event A) =>
      strongPemChain host.x509 ((host.pem certificates).map Except.toOption) = .ok () :=
    fun _ _ _ => id
  have grows := grows.and fixed
  refine .bind (reworded_guarded grows (fun _ => rfl) (fun _ _ _ => trivial)
    fun log facts => quiet log facts.1.1) fun privateKey => ?_
  have grows := grows.and (grows_mem (.fileRead https.keyFile (.ok privateKey)))
  refine .bind (reworded_guarded grows (fun _ => rfl) (fun _ _ _ => trivial)
    fun log facts => quiet log facts.1.1.1) fun _ => ?_
  refine (bindSocket_guarded https.bind (grows.and (grows_mem _))
    (fun log facts => quiet log facts.1.1.1.1) fun _ _ _ same => absurd same apart).mono
    (fun _ => id) ?_ fun _ _ => id
  rintro _ log ⟨⟨⟨⟨⟨facts, chain⟩, strong⟩, key⟩, loaded⟩, bound⟩
  refine ⟨facts, fun config same => ?_⟩
  cases same
  exact ⟨certificates, privateKey, chain, strong, key, loaded, bound⟩

theorem bindListeners_guarded
    (apart : ∀ config, settings.https = some config → config.bind ≠ settings.httpBind) :
    Guarded (guard host settings) (fun log => Quiet log ∧ Registered log)
      (bindListeners host settings.httpBind settings.https)
      (fun _ log => Quiet log ∧ Ready host settings log) fun _ => Quiet := by
  have grows : Grows fun log : List (Event A) => Quiet log ∧ Registered log :=
    Quiet.grows.and fun _ e _ registered => registered.append e
  have secure : Guarded (guard host settings) (fun log => Quiet log ∧ Registered log)
      (bindSecure host settings.https)
      (fun _ log => (Quiet log ∧ Registered log) ∧ Secured host settings.https log)
      fun _ => Quiet := by
    cases configured : settings.https with
    | none => exact .pure fun log facts => ⟨facts, nofun⟩
    | some https => exact bindHttps_guarded (apart https configured) grows fun _ => And.left
  refine .bind secure fun _ => ?_
  refine (bindSocket_guarded settings.httpBind (grows.and fun _ e _ secured => secured.append host e)
    (fun _ facts => facts.1.1) fun _ _ facts _ => ⟨facts.1.2, facts.2⟩).mono (fun _ => id) ?_
    fun _ _ => id
  rintro _ log ⟨⟨⟨quiet, registered⟩, secured⟩, bound⟩
  exact ⟨quiet, registered, secured, bound⟩

/-- Every trust anchor of an accepted file is strong. -/
theorem addRoots_strong {roots added : List Der} {items : List (Except String Der)}
    (strong : ∀ root ∈ roots, strongCertificate host.x509 root = .ok ())
    (accepted : addRoots host roots items = .ok added) :
    ∀ root ∈ added, strongCertificate host.x509 root = .ok () := by
  induction items generalizing roots with
  | nil =>
      cases accepted
      exact strong
  | cons item rest ih =>
      simp only [addRoots, bind_eq_ok] at accepted
      obtain ⟨certificate, -, ⟨⟩, checked, ⟨⟩, -, later⟩ := accepted
      refine ih (fun root found => ?_) later
      rcases List.mem_append.1 found with before | last
      · exact strong root before
      · rw [List.mem_singleton.1 last]
        cases verdict : strongCertificate host.x509 certificate with
        | error e => rw [verdict] at checked; cases checked
        | ok u => rfl

theorem someRoots_eq_ok {roots some_roots : List Der} {message : String}
    (found : someRoots roots message = .ok some_roots) : some_roots = roots ∧ roots ≠ [] := by
  unfold someRoots at found
  split at found
  · cases found
  · rename_i nonempty
    cases found
    exact ⟨rfl, fun none => nonempty (by rw [none]; rfl)⟩

theorem mqttCaRoots_trusted {pem : ByteArray} {roots : List Der}
    (accepted : mqttCaRoots host pem = .ok roots) :
    (Transport.tls roots).Trusted host.x509 true := by
  simp only [mqttCaRoots, bind_eq_ok] at accepted
  obtain ⟨added, read, nonempty⟩ := accepted
  obtain ⟨rfl, nonempty⟩ := someRoots_eq_ok nonempty
  exact ⟨rfl, nonempty,
    addRoots_strong (fun _ found => absurd found List.not_mem_nil) read⟩

theorem strongRoots_trusted {certificates roots : List Der} {message : String}
    (found : someRoots (strongRoots host certificates) message = .ok roots) :
    (Transport.tls roots).Trusted host.x509 true := by
  obtain ⟨rfl, nonempty⟩ := someRoots_eq_ok found
  refine ⟨rfl, nonempty, fun root kept => ?_⟩
  have strong := (Bool.and_eq_true_iff.1 (List.mem_filter.1 kept).2).1
  cases verdict : strongCertificate host.x509 root with
  | error e => rw [verdict] at strong; cases strong
  | ok u => rfl

theorem mqttTransport_guarded (tls : Bool) (caFile : Option String)
    {fact : List (Event A) → Prop} (grows : Grows fact) (quiet : ∀ log, fact log → Quiet log) :
    Guarded (guard host settings) fact (mqttTransport host tls caFile)
      (fun transport log => fact log ∧ transport.Trusted host.x509 tls) fun _ => Quiet := by
  cases tls with
  | false =>
      cases caFile with
      | some path => exact .lift nofun fun _ _ => quiet
      | none => exact .pure fun _ facts => ⟨facts, rfl⟩
  | true =>
      cases caFile with
      | some path =>
          refine .bind (reworded_guarded grows (fun _ => rfl) (fun _ _ _ => trivial) quiet)
            fun pem => ?_
          refine .bind (Q := fun roots log =>
            fact log ∧ (Transport.tls roots).Trusted host.x509 true)
            (.lift (fun _ accepted _ facts => ⟨facts.1, mqttCaRoots_trusted accepted⟩)
              fun _ _ log facts => quiet log facts.1) fun roots => ?_
          exact .pure fun _ facts => facts
      | none =>
          refine .bind (reworded_guarded grows (fun _ => rfl) (fun _ _ _ => trivial) quiet)
            fun certificates => ?_
          refine .bind (Q := fun roots log =>
            fact log ∧ (Transport.tls roots).Trusted host.x509 true)
            (.lift (fun _ found _ facts => ⟨facts.1, strongRoots_trusted found⟩)
              fun _ _ log facts => quiet log facts.1) fun roots => ?_
          exact .pure fun _ facts => facts

theorem startBridge_guarded :
    Guarded (guard host settings) (fun log => Quiet log ∧ Ready host settings log)
      (startBridge host settings) (fun _ log => Started log ∧ Ready host settings log)
      fun _ => Quiet := by
  refine .bind (mqttTransport_guarded settings.mqttTls settings.mqttCaFile
    (Quiet.grows.and fun _ e _ ready => ready.append host e) fun _ => And.left) fun transport => ?_
  exact .emit (fun log facts => ⟨facts.1.2, facts.2⟩) fun log facts =>
    ⟨⟨log, transport, rfl, facts.1.1⟩, facts.1.2.append host _⟩

/-- Serving keeps the bridge running, and starts only when everything is in place. -/
theorem serve_guarded :
    Guarded (guard host settings) (fun log => Running log ∧ Ready host settings log ∧
        ∃ transport, .bridgeStarted transport ∈ log) (serve host settings)
      (fun _ log => Running log ∧ .serving settings.https.isSome ∈ log) fun _ => Running := by
  have grows : Grows fun log : List (Event A) => Running log ∧ Ready host settings log ∧
      ∃ transport, .bridgeStarted transport ∈ log :=
    Running.grows.and (Grows.and (fun _ e _ ready => ready.append host e)
      fun _ _ _ ⟨transport, started⟩ => ⟨transport, List.mem_append_left _ started⟩)
  refine .bind (reworded_guarded grows (fun _ => rfl) (fun _ _ _ => trivial) fun _ => And.left)
    fun _ => ?_
  refine .bind (reworded_guarded (grows.and (grows_mem _)) (fun _ => rfl) (fun _ _ _ => trivial)
    fun _ facts => facts.1.1) fun _ => ?_
  refine .bind (Q := fun _ log => Running log ∧ .serving settings.https.isSome ∈ log)
    (.emit (fun log facts => ⟨rfl, facts.1.1.2.1, facts.1.1.2.2⟩) fun log facts =>
      ⟨Running.grows log _ rfl facts.1.1.1, List.mem_append_right _ List.mem_cons_self⟩) fun _ => ?_
  refine .bind (Q := fun _ log => Running log ∧ .serving settings.https.isSome ∈ log)
    (.observe (fun _ _ => trivial)
      (fun log _ facts _ => ⟨Running.grows log _ rfl facts.1, List.mem_append_left _ facts.2⟩)
      fun log _ facts _ => Running.grows log _ rfl facts.1) fun served => ?_
  cases served with
  | servers result =>
      exact .bind (.lift (fun _ _ _ => id) fun _ _ _ => And.left) fun _ => .pure fun _ => id
  | signalled signal received drained =>
      exact .bind (.lift (fun _ _ _ => id) fun _ _ _ => And.left) fun _ => .pure fun _ => id

/-- **Whatever serving comes to, the bridge is stopped.** -/
theorem serveAndStop_guarded :
    Guarded (guard host settings) (fun log => Running log ∧ Ready host settings log ∧
        ∃ transport, .bridgeStarted transport ∈ log) (serveAndStop host settings)
      (fun _ log => Stopped log ∧ .serving settings.https.isSome ∈ log) fun _ => Stopped := by
  refine .bind (Q := fun answer log => Running log ∧
      ∀ shutdown, answer.1 = .ok shutdown → .serving settings.https.isSome ∈ log)
    (.attempt (serve_guarded.mono (fun _ => id)
      (fun _ _ facts _ => ⟨facts.1, fun _ _ => facts.2⟩) fun _ _ running _ =>
        ⟨running, fun _ same => by cases same⟩))
    fun answer => ?_
  obtain ⟨result, u⟩ := answer
  refine .bind (Q := fun _ log => Stopped log ∧
      ∀ shutdown, result = .ok shutdown → .serving settings.https.isSome ∈ log)
    (.emit (fun _ _ => trivial) fun log facts => ⟨facts.1.stop, fun shutdown served =>
      List.mem_append_left _ (facts.2 shutdown served)⟩) fun _ => ?_
  refine .bind (Q := fun _ log => Stopped log ∧ .serving settings.https.isSome ∈ log)
    (.lift (fun shutdown served _ facts => ⟨facts.1, facts.2 shutdown served⟩)
      fun _ _ _ => And.left) fun shutdown => ?_
  exact .lift (fun _ _ _ => id) fun _ _ _ => And.left

end Parts

/-! ## Whole runs -/

section Runs

variable {A : Type} (host : Host A)

/-- How a run of `main` may leave the bridge: never started, started and stopped, or
started just before the router panicked. -/
def Ended (settings : Settings A) (stop : Option Stop) (log : List (Event A)) : Prop :=
  Quiet log ∨ Stopped log ∨
    ∃ panic, stop = some (.panic panic) ∧ router host.legal settings = .error panic ∧ Started log

open Trace

theorem run_guarded {settings : Settings A}
    (apart : ∀ config, settings.https = some config → config.bind ≠ settings.httpBind) :
    Guarded (guard host settings) Quiet (run host settings)
      (fun _ log => Stopped log ∧ .serving settings.https.isSome ∈ log)
      fun stop => Ended host settings (some stop) := by
  have quietly : ∀ (stop : Stop) (log : List (Event A)), Quiet log →
      Ended host settings (some stop) log := fun _ _ => Or.inl
  refine .bind (prepareShutdown_guarded.mono (fun _ => id) (fun _ _ => id) quietly) fun _ => ?_
  refine .bind ((bindListeners_guarded apart).mono (fun _ => id) (fun _ _ => id) quietly) fun _ => ?_
  refine .bind (Q := fun _ log => Quiet log ∧ Ready host settings log)
    (.emit (fun _ _ => trivial) fun log facts =>
      ⟨Quiet.grows log _ rfl facts.1, facts.2.append host _⟩) fun _ => ?_
  refine .bind (startBridge_guarded.mono (fun _ => id) (fun _ _ => id) quietly) fun _ => ?_
  refine .bind (Q := fun _ log => Running log ∧ Ready host settings log ∧
      ∃ transport, .bridgeStarted transport ∈ log)
    (.lift (fun _ _ _ facts => ⟨facts.1.running.1, facts.2, facts.1.running.2⟩)
      fun stop failed log facts => ?_) fun _ => ?_
  · cases built : router host.legal settings with
    | ok made => rw [built] at failed; cases failed
    | error panic =>
        rw [built] at failed
        cases failed
        exact Or.inr (Or.inr ⟨panic, rfl, built, facts.1⟩)
  · exact serveAndStop_guarded.mono (fun _ => id) (fun _ _ => id) fun _ _ stopped =>
      Or.inr (Or.inl stopped)

variable [DecidableEq A]

/-- The two listeners of an accepted configuration have different addresses. -/
theorem fromEnv_apart {parseAddress : String → Option A} {env : Environment} {settings : Settings A}
    (accepted : fromEnv parseAddress env = .ok settings) :
    ∀ config, settings.https = some config → config.bind ≠ settings.httpBind := by
  simp only [fromEnv, bind_eq_ok] at accepted
  obtain ⟨_, -, _, -, _, -, _, -, ⟨tls, caFile, port⟩, -, _, -, _, -, httpBind, -, bind, -, cert, -,
    key, -, https, parsed, _, -, energy, -, _, -, _, -, same⟩ := accepted
  rw [Except.ok.injEq] at same
  subst same
  intro config configured
  obtain rfl : https = some config := configured
  show config.bind ≠ httpBind
  unfold HttpsConfig.parse at parsed
  split at parsed
  · cases parsed
  · split at parsed
    · cases parsed
    split at parsed
    · cases parsed
    split at parsed
    · cases parsed
    · rename_i different
      cases parsed
      exact different
  · cases parsed

/-- A run of `main` with a configuration is one of `run`. -/
theorem main_run {env : Environment} {settings : Settings A}
    (accepted : fromEnv host.parseAddress env = .ok settings) {argument : Option String}
    (starts : argument ≠ some "--version") {r : Except Stop Unit} {events : List (Event A)}
    (ran : main host argument env [] () = (r, (), events)) :
    run host settings [] () = (r, (), events) := by
  rw [main, if_neg starts, accepted] at ran
  rcases lift_bind_run.1 ran with ⟨e, failed, -⟩ | ⟨found, same, later⟩
  · cases failed
  · cases same
    exact later

/-- **No fallback and no early start.**  In every run of `main`, however the host
answers: the HTTP address is bound only after both signals are registered and, if
HTTPS is configured, after its chain was read and found strong, its key was
accepted and its socket was bound; the bridge is started only after the HTTP
address is bound too, with TLS exactly as configured and only over strong trust
anchors; and serving starts only after that, with HTTPS exactly as configured. -/
theorem startup_guarded {argument : Option String} {env : Environment} {settings : Settings A}
    (accepted : fromEnv host.parseAddress env = .ok settings) {r : Except Stop Unit}
    {events before after : List (Event A)} {e : Event A}
    (ran : main host argument env [] () = (r, (), events)) (split : events = before ++ e :: after) :
    (∀ result, e = .bound settings.httpBind result →
      Registered before ∧ Secured host settings.https before) ∧
    (∀ transport, e = .bridgeStarted transport →
      Ready host settings before ∧ transport.Trusted host.x509 settings.mqttTls) ∧
    ∀ https, e = .serving https → https = settings.https.isSome ∧ Ready host settings before ∧
      ∃ transport, .bridgeStarted transport ∈ before := by
  by_cases starts : argument = some "--version"
  · rw [main, if_pos starts] at ran
    obtain ⟨-, -, rfl⟩ := emit_run.1 ran
    have here : e ∈ before ++ e :: after := List.mem_append_right _ List.mem_cons_self
    rw [← split, List.mem_singleton] at here
    rw [here]
    exact ⟨nofun, nofun, nofun⟩
  · obtain ⟨allowed, -⟩ := (run_guarded host (fromEnv_apart accepted)).run .nil
      (main_run host accepted starts ran)
    have guarded := allowed.split split
    rw [List.nil_append] at guarded
    refine ⟨?_, ?_, ?_⟩
    · rintro result rfl
      exact guarded rfl
    · rintro transport rfl
      exact guarded
    · rintro https rfl
      exact guarded

/-- The environment of a gateway with both listeners. -/
def secureEnv : Environment
  | "HTTPS_BIND" => .value "127.0.0.1:8443"
  | "GATEWAY_TLS_CERT_FILE" => .value "cert.pem"
  | "GATEWAY_TLS_KEY_FILE" => .value "key.pem"
  | name => portalEnv "c0619ab9929a" name

/-- A PEM block. -/
def pemBlock (label : String) (lines : List String) : String :=
  "-----BEGIN " ++ label ++ "-----\n" ++ String.join (lines.map (· ++ "\n")) ++
    "-----END " ++ label ++ "-----\n"

/-- A self-signed Ed25519 certificate for localhost. -/
def localhostDer : Der :=
  [0x30, 0x82, 0x01, 0x20, 0x30, 0x81, 0xd3, 0xa0, 0x03, 0x02, 0x01, 0x02, 0x02, 0x14, 0x24, 0xa2,
    0xc3, 0x33, 0x6d, 0x8b, 0x80, 0x9a, 0x25, 0x67, 0x9e, 0x72, 0xc6, 0xa6, 0x61, 0x90, 0x81, 0x66,
    0xc0, 0x8e, 0x30, 0x05, 0x06, 0x03, 0x2b, 0x65, 0x70, 0x30, 0x14, 0x31, 0x12, 0x30, 0x10, 0x06,
    0x03, 0x55, 0x04, 0x03, 0x0c, 0x09, 0x6c, 0x6f, 0x63, 0x61, 0x6c, 0x68, 0x6f, 0x73, 0x74, 0x30,
    0x1e, 0x17, 0x0d, 0x32, 0x36, 0x31, 0x31, 0x31, 0x39, 0x31, 0x33, 0x34, 0x34, 0x32, 0x36, 0x5a,
    0x17, 0x0d, 0x33, 0x36, 0x31, 0x31, 0x31, 0x36, 0x31, 0x33, 0x34, 0x34, 0x32, 0x36, 0x5a, 0x30,
    0x14, 0x31, 0x12, 0x30, 0x10, 0x06, 0x03, 0x55, 0x04, 0x03, 0x0c, 0x09, 0x6c, 0x6f, 0x63, 0x61,
    0x6c, 0x68, 0x6f, 0x73, 0x74, 0x30, 0x2a, 0x30, 0x05, 0x06, 0x03, 0x2b, 0x65, 0x70, 0x03, 0x21,
    0x00, 0x7a, 0x18, 0x5c, 0x73, 0xf2, 0x03, 0xd3, 0xc1, 0xb3, 0xb3, 0x2b, 0x2d, 0xd0, 0x54, 0x25,
    0x17, 0xc6, 0x9d, 0x7d, 0xae, 0x2a, 0x04, 0x82, 0x38, 0xa4, 0x56, 0x9f, 0xa9, 0xe8, 0x76, 0x9c,
    0x86, 0xa3, 0x37, 0x30, 0x35, 0x30, 0x14, 0x06, 0x03, 0x55, 0x1d, 0x11, 0x04, 0x0d, 0x30, 0x0b,
    0x82, 0x09, 0x6c, 0x6f, 0x63, 0x61, 0x6c, 0x68, 0x6f, 0x73, 0x74, 0x30, 0x1d, 0x06, 0x03, 0x55,
    0x1d, 0x0e, 0x04, 0x16, 0x04, 0x14, 0xf5, 0x50, 0x70, 0xbd, 0x36, 0x47, 0x8b, 0x2b, 0x1f, 0xfc,
    0xf7, 0x72, 0x86, 0xad, 0x0f, 0xb3, 0x82, 0x1b, 0x21, 0x4d, 0x30, 0x05, 0x06, 0x03, 0x2b, 0x65,
    0x70, 0x03, 0x41, 0x00, 0xd7, 0x94, 0xe3, 0x2a, 0xcf, 0x8c, 0xb6, 0xca, 0x69, 0xbf, 0xc7, 0x0a,
    0xac, 0x03, 0x5e, 0xea, 0x3d, 0x04, 0x4c, 0xe4, 0xd0, 0xb5, 0x80, 0xb0, 0x0b, 0xd5, 0x5a, 0xf4,
    0xf0, 0x15, 0x0d, 0x4a, 0x30, 0x73, 0x79, 0xca, 0xf3, 0x86, 0x59, 0xb1, 0xa1, 0xcc, 0x8a, 0xcd,
    0xbc, 0x45, 0xdd, 0x23, 0x59, 0x5b, 0x68, 0xe9, 0x2e, 0xed, 0x09, 0xeb, 0x53, 0x3c, 0xa8, 0x2a,
    0xcc, 0x62, 0xd1, 0x05]

def localhostPem : ByteArray :=
  (pemBlock "CERTIFICATE"
    ["MIIBIDCB06ADAgECAhQkosMzbYuAmiVnnnLGpmGQgWbAjjAFBgMrZXAwFDESMBAG",
      "A1UEAwwJbG9jYWxob3N0MB4XDTI2MTExOTEzNDQyNloXDTM2MTExNjEzNDQyNlow",
      "FDESMBAGA1UEAwwJbG9jYWxob3N0MCowBQYDK2VwAyEAehhcc/ID08Gzsyst0FQl",
      "F8adfa4qBII4pFafqeh2nIajNzA1MBQGA1UdEQQNMAuCCWxvY2FsaG9zdDAdBgNV",
      "HQ4EFgQU9VBwvTZHiysf/Pdyhq0Ps4IbIU0wBQYDK2VwA0EA15TjKs+Mtsppv8cK",
      "rANe6j0ETOTQtYCwC9Va9PAVDUowc3nK84ZZsaHMis28Rd0jWVto6S7tCetTPKgq",
      "zGLRBQ=="]).toUTF8

/-- Its private key. -/
def localhostKey : ByteArray :=
  (pemBlock "PRIVATE KEY"
    ["MC4CAQAwBQYDK2VwBCIEID790xJok0KB5WnRPM761R+hojj2Zq1Ae9+2b7VEYhaS"]).toUTF8

/-- A host with this certificate and its key in two files, where every operation on
what there is succeeds, until a SIGTERM arrives. -/
def obliging : Host Nat where
  parseAddress
    | "127.0.0.1:8080" => some 8080
    | "127.0.0.1:8443" => some 8443
    | _ => none
  version := "1.0.0"
  x509 :=
    { fromDer := fun der =>
        if der = localhostDer then
          some ([], ⟨ed25519, none, (localhostDer.drop 129).take 32, some .unknown⟩)
        else none
      tryExponent := shapedX509.tryExponent }
  pem bytes := if bytes.data.toList = localhostPem.data.toList then [.ok localhostDer] else []
  addRoot certificate :=
    if certificate = localhostDer then .ok () else .error "invalid peer certificate: BadEncoding"
  generalError error := "unexpected error: " ++ error
  legal := plainHeader
  register _ _ := .ok ()
  readFile _
    | "cert.pem" => .ok localhostPem
    | "key.pem" => .ok localhostKey
    | _ => .error ⟨.other 2, "No such file or directory (os error 2)"⟩
  nativeCerts _ := []
  fromPem _ certificates privateKey :=
    if certificates.data.toList = localhostPem.data.toList ∧
        privateKey.data.toList = localhostKey.data.toList then .ok ()
    else .error ⟨.other 1, "failed to parse private key"⟩
  bind _ _ := .ok ()
  setNonblocking _ _ := .ok ()
  localAddr _ _ := .ok ()
  fromTcp _ _ := .ok ()
  serve _ := .signalled .terminate true (.ok ())

def Event.servesHttps : Event Nat → Bool
  | .serving https => https
  | _ => false

theorem startup_guarded_secure :
    ∃ settings before after, fromEnv obliging.parseAddress secureEnv = .ok settings ∧
      (main obliging none secureEnv [] ()).2.2 = before ++ .serving true :: after ∧
      Ready obliging settings before ∧ settings.https.isSome = true := by
  obtain ⟨settings, accepted⟩ := accepted_of_isOk
    (show (fromEnv obliging.parseAddress secureEnv).isOk = true by decide +kernel)
  have served : ((main obliging none secureEnv [] ()).2.2.any Event.servesHttps) = true := by
    decide +kernel
  obtain ⟨e, found, serves⟩ := List.any_eq_true.1 served
  obtain ⟨before, after, split⟩ := List.append_of_mem found
  cases e with
  | serving https =>
      obtain rfl : https = true := serves
      have ran : main obliging none secureEnv [] () = ((main obliging none secureEnv [] ()).1, (),
          (main obliging none secureEnv [] ()).2.2) := rfl
      obtain ⟨same, ready, -⟩ := (startup_guarded obliging accepted ran split).2.2 true rfl
      exact ⟨settings, before, after, accepted, split, ready, same.symm⟩
  | _ => cases serves

/-- **The life of the bridge.**  However a run of `main` ends, the bridge was never
started, or it was started once and stopped once, last of all; only a router that
panics on the configured origins leaves it running, and then it is the last thing
that was started.  `main` returns normally only after printing its version, or
after serving and stopping the bridge. -/
theorem bridge_lifetime {argument : Option String} {env : Environment} {r : Except Stop Unit}
    {events : List (Event A)} (ran : main host argument env [] () = (r, (), events)) :
    (Quiet events ∨ Stopped events ∨ ∃ settings panic,
      fromEnv host.parseAddress env = .ok settings ∧ router host.legal settings = .error panic ∧
        r = .error (.panic panic) ∧ Started events) ∧
    (r = .ok () →
      (argument = some "--version" ∧ events = [.printed ("inverter-gateway " ++ host.version)]) ∨
      (Stopped events ∧ ∃ https, .serving https ∈ events)) := by
  by_cases starts : argument = some "--version"
  · rw [main, if_pos starts] at ran
    obtain ⟨-, -, rfl⟩ := emit_run.1 ran
    refine ⟨Or.inl fun e found => ?_, fun _ => Or.inl ⟨starts, rfl⟩⟩
    rw [List.mem_singleton.1 found]
    rfl
  · cases accepted : fromEnv host.parseAddress env with
    | error e =>
        rw [main, if_neg starts, accepted] at ran
        rcases lift_bind_run.1 ran with ⟨stop, -, rfl, -, rfl⟩ | ⟨found, impossible, -⟩
        · exact ⟨Or.inl .nil, nofun⟩
        · cases impossible
    | ok settings =>
        obtain ⟨-, returns, fails⟩ := (run_guarded host (fromEnv_apart accepted)).run .nil
          (main_run host accepted starts ran)
        rw [List.nil_append] at returns fails
        cases r with
        | ok u =>
            obtain ⟨stopped, serving⟩ := returns u rfl
            exact ⟨Or.inr (Or.inl stopped), fun _ => Or.inr ⟨stopped, _, serving⟩⟩
        | error stop =>
            refine ⟨?_, nofun⟩
            rcases fails stop rfl with quiet | stopped | ⟨panic, same, built, started⟩
            · exact Or.inl quiet
            · exact Or.inr (Or.inl stopped)
            · cases same
              exact Or.inr (Or.inr ⟨settings, panic, rfl, built, rfl, started⟩)

/-- A signalled gateway stops its bridge and returns. -/
theorem bridge_lifetime_signalled :
    Stopped (main obliging none secureEnv [] ()).2.2 := by
  have returned : (main obliging none secureEnv [] ()).1 = .ok () := by
    cases ended : (main obliging none secureEnv [] ()).1 with
    | ok u => rfl
    | error stop =>
        have fine : (main obliging none secureEnv [] ()).1.isOk = true := by decide +kernel
        rw [ended] at fine
        cases fine
  have ran : main obliging none secureEnv [] () = ((main obliging none secureEnv [] ()).1, (),
      (main obliging none secureEnv [] ()).2.2) := rfl
  obtain ⟨version, -⟩ | ⟨stopped, -⟩ := (bridge_lifetime obliging ran).2 returned
  · cases version
  · exact stopped

end Runs

end InverterGateway.Gateway.Startup

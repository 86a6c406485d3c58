/-
# Smoke.Passed — a smoke run touches only its own and never reports a false pass

The log of a run is the two first lookups, the intent, the commands of the body,
the commands of each cleanup, the outcome, and the receipt of a run that passed.
The body removes nothing, so every removal is one of the cleanups.
-/
import InverterGateway.Smoke.Runtime
import InverterGateway.Smoke.Cleanup

namespace InverterGateway.Smoke.Runtime

open InverterGateway.Theory

set_option autoImplicit false

/-! ## What each part issues -/

/-- Only commands, of the allowed kinds. -/
def Issues (allowed : Command → Bool) : Event → Prop
  | .command c _ => allowed c = true
  | .wrote _ => False

/-- The commands of the body, apart from `create`. -/
def quiet : Command → Bool
  | .create _ _ _ | .containerLs _ | .containerRm _ | .imageRm _ => false
  | _ => true

def inBody : Command → Bool
  | .containerLs _ | .containerRm _ | .imageRm _ => false
  | _ => true

def onContainer : Command → Bool
  | .containerLs _ | .containerInspect _ | .containerRm _ => true
  | _ => false

def onImage : Command → Bool
  | .imageLs _ | .imageInspect _ | .imageRm _ => true
  | _ => false

theorem Issues.inBody {e : Event} (issued : Issues quiet e) : Issues inBody e := by
  cases e with
  | wrote document => exact issued
  | command c o => cases c <;> first | rfl | exact issued

/-- A command that succeeded. -/
def Succeeded : Event → Prop
  | .command _ o => ∃ raw, o = .ok raw
  | .wrote _ => True

section Parts

variable {host : Host} {setting : Setting} {σ : Type} {allowed : Command → Bool} {Q : σ → Prop}

theorem within_boundedCommand {c : Command} (issued : allowed c = true) :
    Trace.Within (Issues allowed) Succeeded Q (boundedCommand host c) :=
  Trace.Within.observe (fun _ => issued) fun raw => ⟨raw, rfl⟩

theorem within_imageIds {tag : Option String} (issued : allowed (.imageLs tag) = true) :
    Trace.Within (Issues allowed) Succeeded Q (imageIds host tag) :=
  (within_boundedCommand issued).bind fun _ => Trace.Within.lift _

theorem within_inspect {c : Command} (issued : allowed c = true) :
    Trace.Within (Issues allowed) Succeeded Q (inspect host c) :=
  (within_boundedCommand issued).bind fun _ => Trace.Within.lift _

theorem within_importImage {Q : Locals → Prop} (keeps : ∀ l, Q l → Q { l with imported := true }) :
    Trace.Within (Issues quiet) Succeeded Q (importImage host setting) := by
  unfold importImage
  split
  · exact Trace.Within.pure _
  · refine (Trace.Within.lift _).bind fun _ => ?_
    refine (within_boundedCommand rfl).bind fun _ => ?_
    refine (Trace.Within.modify keeps).bind fun _ => ?_
    exact (within_imageIds rfl).bind fun _ => Trace.Within.lift _

theorem within_createContainer :
    Trace.Within (Issues inBody) Succeeded (fun _ => True) (createContainer host setting) := by
  unfold createContainer
  refine (within_inspect rfl).bind fun _ => ?_
  refine (Trace.Within.lift _).bind fun _ => ?_
  refine (Trace.Within.modify fun _ _ => trivial).bind fun _ => ?_
  refine (within_boundedCommand rfl).bind fun _ => ?_
  refine (Trace.Within.lift _).bind fun _ => ?_
  exact (Trace.Within.modify fun _ _ => trivial).bind fun _ => Trace.Within.pure _

/-- The container's id is not assigned again. -/
theorem within_runContainer {id : String} {known : Option String} :
    Trace.Within (Issues quiet) Succeeded (fun l : Locals => l.containerId = known)
      (runContainer host setting id) := by
  unfold runContainer
  refine (within_boundedCommand rfl).bind fun _ => ?_
  refine (Trace.Within.modify (by intro _ kept; exact kept)).bind fun _ => ?_
  refine (within_inspect rfl).bind fun _ => ?_
  refine (Trace.Within.lift _).bind fun _ => ?_
  refine (Trace.Within.modify (by intro _ kept; exact kept)).bind fun _ => ?_
  refine (Trace.Within.lift _).bind fun _ => ?_
  refine (within_inspect rfl).bind fun _ => ?_
  refine (Trace.Within.lift _).bind fun _ => ?_
  refine (Trace.Within.lift _).bind fun _ => ?_
  refine (Trace.Within.lift _).bind fun _ => ?_
  exact Trace.Within.modify fun _ kept => kept

theorem within_body : Trace.Within (Issues inBody) Succeeded (fun _ => True) (body host setting) := by
  unfold body
  refine ((within_importImage fun _ _ => trivial).mono fun _ => Issues.inBody).bind fun _ => ?_
  refine within_createContainer.bind fun id => ?_
  refine ⟨?_, ?_, fun _ _ _ => trivial⟩
  · intro log s _ e listed
    exact (within_runContainer.each log s rfl e listed).inBody
  · intro log s _
    exact within_runContainer.success log s rfl

theorem within_cleanupContainer {name imageId planHash : String} {known : Option String} :
    Trace.Within (Issues onContainer) Succeeded Q (cleanupContainer host name known imageId planHash) := by
  unfold cleanupContainer
  refine (within_boundedCommand rfl).bind fun _ => ?_
  refine (Trace.Within.lift _).bind fun _ => ?_
  refine (Trace.Within.lift _).bind fun _ => ?_
  split
  · exact Trace.Within.pure _
  · refine (within_inspect rfl).bind fun _ => ?_
    refine (Trace.Within.lift _).bind fun _ => ?_
    refine (Trace.Within.lift _).bind fun _ => ?_
    refine (within_boundedCommand rfl).bind fun _ => ?_
    refine (within_boundedCommand rfl).bind fun _ => ?_
    exact (Trace.Within.lift _).bind fun _ => Trace.Within.pure _

theorem within_cleanupImage {tag imageId : String} {preexisting imported : Bool} :
    Trace.Within (Issues onImage) Succeeded Q (cleanupImage host tag imageId preexisting imported) := by
  unfold cleanupImage
  split
  · refine (within_imageIds rfl).bind fun _ => ?_
    refine (Trace.Within.lift _).bind fun _ => ?_
    refine (within_imageIds rfl).bind fun _ => ?_
    exact (Trace.Within.lift _).bind fun _ => Trace.Within.pure _
  · refine (within_imageIds rfl).bind fun _ => ?_
    split
    · exact Trace.Within.pure _
    · refine (Trace.Within.lift _).bind fun _ => ?_
      refine (within_inspect rfl).bind fun _ => ?_
      refine (Trace.Within.lift _).bind fun _ => ?_
      refine (Trace.Within.lift _).bind fun _ => ?_
      refine (Trace.Within.lift _).bind fun _ => ?_
      refine (Trace.Within.lift _).bind fun _ => ?_
      refine (Trace.Within.lift _).bind fun _ => ?_
      refine (within_boundedCommand rfl).bind fun _ => ?_
      refine (within_imageIds rfl).bind fun _ => ?_
      exact (Trace.Within.lift _).bind fun _ => Trace.Within.pure _

end Parts

/-! ## The body -/

/-- The inspection shows a container that ended well. -/
structure ExitedZero (item : Json) : Prop where
  state : ∃ state, item.getOr "State" (.dict []) = .ok state ∧
    state.get "Status" = .ok (.str "exited") ∧ state.get "Running" = .ok (.bool false) ∧
    state.get "ExitCode" = .ok (.int 0)

theorem isFalse_eq {v : Json} (same : isFalse v = true) : v = .bool false := by
  unfold isFalse at same
  split at same
  · rfl
  · cases same

theorem isIntZero_eq {v : Json} (same : isIntZero v = true) : v = .int 0 := by
  unfold isIntZero at same
  split at same
  · rw [of_decide_eq_true same]
  · cases same

theorem containerResult_eq_ok {item : Json} {name imageId planHash id : String}
    {checked : ContainerResult}
    (same : containerResult item name (some id) imageId planHash = .ok checked) :
    Owned item name imageId planHash id ∧ ExitedZero item := by
  simp only [containerResult, bind_eq_ok, need_eq_ok, Bool.and_eq_true] at same
  obtain ⟨observed, identified, state, found, status, hitStatus, running, hitRunning, -, ended, code,
    hitCode, -, zero, -⟩ := same
  obtain ⟨owned, known⟩ := containerIdentity_eq_ok identified
  rcases known with none | same
  · cases none
  · cases same
    rw [Json.eq_str ended.1] at hitStatus
    rw [isFalse_eq ended.2] at hitRunning
    rw [isIntZero_eq zero] at hitCode
    exact ⟨owned, ⟨state, found, hitStatus, hitRunning, hitCode⟩⟩

section Body

variable {host : Host} {setting : Setting} {log events : List Event} {l l' : Locals}

/-- **What `create` leaves**: its id is assigned, or it printed none. -/
theorem createContainer_cases {r : Except PyError String}
    (run : createContainer host setting log l = (r, l', events)) :
    ((∃ e, r = .error e) ∧ ∀ e ∈ events, Issues quiet e) ∨
    ∃ front outcome, events = front ++
        [.command (.create setting.name setting.planHash setting.imageId) outcome] ∧
      (∀ e ∈ front, Issues quiet e) ∧
      ((∃ e, r = .error e) ∧ (∀ raw value, outcome = .ok raw → createdId raw ≠ .ok value) ∨
        ∃ raw value, outcome = .ok raw ∧ createdId raw = .ok value ∧ r = .ok value ∧
          l'.containerId = some value) := by
  unfold createContainer at run
  rcases inspect_bind run with ⟨e, outcome, rfl, rfl⟩ | ⟨shown, item, rest, -, seen, rfl⟩
  · refine Or.inl ⟨⟨e, rfl⟩, fun e listed => ?_⟩
    rw [List.mem_singleton.1 listed]
    rfl
  have first : ∀ e ∈ [Event.command (.imageInspect setting.imageId) (.ok shown)], Issues quiet e := by
    intro e listed
    rw [List.mem_singleton.1 listed]
    rfl
  rcases Trace.lift_bind_run.1 seen with ⟨e, -, rfl, -, rfl⟩ | ⟨_, -, valid⟩
  · exact Or.inl ⟨⟨e, rfl⟩, first⟩
  rcases boundedCommand_bind (Trace.modify_bind_run.1 valid) with
    ⟨e, rfl, -, rfl⟩ | ⟨raw, rest, made, rfl⟩
  · exact Or.inr ⟨_, .error e, rfl, first, Or.inl ⟨⟨e, rfl⟩, fun _ _ same => by cases same⟩⟩
  rcases Trace.lift_bind_run.1 made with ⟨e, refused, rfl, -, rfl⟩ | ⟨value, read, assigned⟩
  · refine Or.inr ⟨_, .ok raw, rfl, first, Or.inl ⟨⟨e, rfl⟩, ?_⟩⟩
    intro raw' value same read
    cases same
    cases refused.symm.trans read
  · have done := Trace.modify_bind_run.1 assigned
    obtain ⟨rfl, rfl, rfl⟩ := Trace.pure_run.1 done
    exact Or.inr ⟨_, .ok raw, rfl, first, Or.inr ⟨raw, value, rfl, read, rfl, rfl⟩⟩

/-- No quiet event is a creation. -/
theorem not_create_of_quiet {events : List Event} (silent : ∀ e ∈ events, Issues quiet e)
    {name label imageId : String} {o : Except PyError Bytes} :
    Event.command (.create name label imageId) o ∉ events := by
  intro listed
  cases silent _ listed

/-- **The created id is known** after the body, however the body ends. -/
theorem body_created {r : Except PyError Unit} (run : body host setting log l = (r, l', events))
    {name label imageId value : String} {raw : Bytes}
    (created : Event.command (.create name label imageId) (.ok raw) ∈ events)
    (read : createdId raw = .ok value) : l'.containerId = some value := by
  unfold body at run
  have imports : Trace.Within (Issues quiet) Succeeded (fun _ => True) (importImage host setting) :=
    within_importImage fun _ _ => trivial
  rcases Trace.bind_run.1 run with ⟨e, failed, -⟩ | ⟨_, mid, first, rest, imported, later, rfl⟩
  · exact absurd created (not_create_of_quiet (imports.kinds failed trivial))
  have created := (List.mem_append.1 created).resolve_left
    (not_create_of_quiet (imports.kinds imported trivial))
  rcases Trace.bind_run.1 later with ⟨e, failed, rfl⟩ | ⟨id, mid', second, rest, made, ran, rfl⟩
  · rcases createContainer_cases failed with ⟨-, silent⟩ |
        ⟨front, outcome, rfl, silent, ⟨-, none⟩ | ⟨raw', value', -, -, done, -⟩⟩
    · exact absurd created (not_create_of_quiet silent)
    · have last := (List.mem_append.1 created).resolve_left (not_create_of_quiet silent)
      cases List.mem_singleton.1 last
      exact absurd read (none raw value rfl)
    · cases done
  · have starts := within_runContainer.kinds ran rfl
    have created := (List.mem_append.1 created).resolve_right (not_create_of_quiet starts)
    rcases createContainer_cases made with ⟨⟨e, failed⟩, -⟩ |
        ⟨front, outcome, rfl, silent, ⟨⟨e, failed⟩, -⟩ | ⟨raw', value', rfl, read', -, known⟩⟩
    · cases failed
    · cases failed
    · have last := (List.mem_append.1 created).resolve_left (not_create_of_quiet silent)
      cases List.mem_singleton.1 last
      cases read'.symm.trans read
      exact within_runContainer.state ran known

/-- **What a body that completes has seen**: the created container exited with
zero after printing exactly the version. -/
theorem body_verified (run : body host setting log l = (.ok (), l', events)) :
    ∃ id created shown item,
      Event.command (.create setting.name setting.planHash setting.imageId) (.ok created) ∈ events ∧
      createdId created = .ok id ∧
      Event.command (.start id) (.ok (versionOutput setting)) ∈ events ∧
      Event.command (.containerInspect id) (.ok shown) ∈ events ∧
      objectJson host.loads shown = .ok item ∧
      Owned item setting.name setting.imageId setting.planHash id ∧ ExitedZero item ∧
      l'.phase = "verified" := by
  unfold body at run
  obtain ⟨_, mid, first, rest, -, later, rfl⟩ := Trace.bind_run_ok.1 run
  obtain ⟨id, mid', second, third, made, ran, rfl⟩ := Trace.bind_run_ok.1 later
  rcases createContainer_cases made with ⟨⟨e, failed⟩, -⟩ |
      ⟨front, outcome, rfl, -, ⟨⟨e, failed⟩, -⟩ | ⟨created, value, rfl, read, done, -⟩⟩
  · cases failed
  · cases failed
  cases done
  unfold runContainer at ran
  rcases boundedCommand_bind ran with ⟨e, failed, -⟩ | ⟨result, rest, started, rfl⟩
  · cases failed
  rcases inspect_bind (Trace.modify_bind_run.1 started) with
    ⟨e, outcome, failed, -⟩ | ⟨shown, item, rest, parsed, seen, rfl⟩
  · cases failed
  rcases Trace.lift_bind_run.1 seen with ⟨e, -, failed, -⟩ | ⟨checked, exited, noted⟩
  · cases failed
  rcases Trace.lift_bind_run.1 (Trace.modify_bind_run.1 noted) with
    ⟨e, -, failed, -⟩ | ⟨_, printed, again⟩
  · cases failed
  obtain ⟨_, _, image, tail, -, valid, rfl⟩ := Trace.bind_run_ok.1 again
  rcases Trace.lift_bind_run.1 valid with ⟨e, -, failed, -⟩ | ⟨_, -, identified⟩
  · cases failed
  rcases Trace.lift_bind_run.1 identified with ⟨e, -, failed, -⟩ | ⟨_, -, unchanged⟩
  · cases failed
  rcases Trace.lift_bind_run.1 unchanged with ⟨e, -, failed, -⟩ | ⟨_, -, finished⟩
  · cases failed
  obtain ⟨-, rfl, rfl⟩ := Trace.modify_run.1 finished
  obtain ⟨owned, zero⟩ := containerResult_eq_ok exited
  obtain rfl : result = versionOutput setting := of_decide_eq_true (need_eq_ok.1 printed)
  refine ⟨id, created, shown, item, ?_, read, ?_, ?_, parsed, owned, zero, rfl⟩
  · simp
  · simp
  · simp

end Body

/-! ## The whole run -/

section Whole

variable {host : Host} {setting : Setting} {log events : List Event} {u : Unit}
  {r : Except PyError Receipt}

theorem writeNew_bind {σ α : Type} {document : Document} {f : String → Program σ α} {s s' : σ}
    {r : Except PyError α} (run : (writeNew host document >>= f) log s = (r, s', events)) :
    ∃ rest, f (host.sha document) (log ++ [.wrote document]) s = (r, s', rest) ∧
      events = .wrote document :: rest := by
  rcases Trace.bind_run.1 run with ⟨e, failed, -⟩ | ⟨hash, mid, first, rest, written, later, rfl⟩
  · obtain ⟨_, done, -⟩ := Trace.emit_bind_run.1 failed
    cases done
  · obtain ⟨_, done, rfl⟩ := Trace.emit_bind_run.1 written
    cases done
    exact ⟨rest, later, rfl⟩

/-- The receipt is written last, and only without a failure. -/
theorem conclude_run {intentHash outcomeHash : String} {locals : Locals}
    {containerCleanup : Cleanup ContainerRecord} {imageCleanup : Cleanup ImageRecord}
    {failure : Option PyError}
    (run : conclude host setting intentHash outcomeHash locals containerCleanup imageCleanup failure
      log () = (r, u, events)) :
    events = [] ∨ ∃ receipt, events = [.wrote (.receipt receipt)] ∧ r = .ok receipt ∧
      failure = none ∧ receipt.status = "PASSED" := by
  unfold conclude at run
  rcases Trace.lift_bind_run.1 run with ⟨e, -, -, -, rfl⟩ | ⟨_, passed, confirmed⟩
  · exact Or.inl rfl
  have none : failure = none := by
    cases failure with
    | none => rfl
    | some error => cases passed
  rcases Trace.lift_bind_run.1 confirmed with ⟨e, -, -, -, rfl⟩ | ⟨_, -, confirmed⟩
  · exact Or.inl rfl
  rcases Trace.lift_bind_run.1 confirmed with ⟨e, -, -, -, rfl⟩ | ⟨_, -, decoded⟩
  · exact Or.inl rfl
  rcases Trace.lift_bind_run.1 decoded with ⟨e, -, -, -, rfl⟩ | ⟨stdout, -, written⟩
  · exact Or.inl rfl
  obtain ⟨rest, done, rfl⟩ := writeNew_bind written
  obtain ⟨rfl, -, rfl⟩ := Trace.pure_run.1 done
  exact Or.inr ⟨_, rfl, rfl, none, rfl⟩

theorem settle_none {R : Type} {answer : Except PyError R} {failure : Option PyError}
    (clean : (settle answer failure).2 = none) : (∃ record, answer = .ok record) ∧ failure = none := by
  cases answer with
  | ok record => exact ⟨⟨record, rfl⟩, clean⟩
  | error e =>
      cases failure with
      | none => cases clean
      | some f => cases clean

/-- **The log of a run from the intent on**: whatever fails, both cleanups run and
the outcome is written; a receipt follows only when none of the three parts failed. -/
theorem smokeRun_run (run : smokeRun host setting log () = (r, u, events)) :
    ∃ intent outcome during l bodyLog removal containerLog untag imageLog last,
      events = .wrote (.intent intent) ::
        (bodyLog ++ (containerLog ++ (imageLog ++ .wrote (.outcome outcome) :: last))) ∧
      (∃ log, body host setting log Locals.start = (during, l, bodyLog)) ∧
      (∃ log, cleanupContainer host setting.name l.containerId setting.imageId setting.planHash log
        () = (removal, (), containerLog)) ∧
      (∃ log, cleanupImage host setting.tag setting.imageId setting.preexisting l.imported log
        () = (untag, (), imageLog)) ∧
      (last = [] ∨ ∃ receipt, last = [.wrote (.receipt receipt)] ∧ receipt.status = "PASSED" ∧
        during = .ok () ∧ (∃ record, removal = .ok record) ∧ (∃ record, untag = .ok record) ∧
        outcome.status = "RUNTIME_AND_CLEANUP_PASSED" ∧ outcome.phase = l.phase ∧
        outcome.error = none) := by
  unfold smokeRun at run
  obtain ⟨rest, intended, rfl⟩ := writeNew_bind run
  obtain ⟨during, l, bodyLog, rest, ran, removing, rfl⟩ := Trace.attempt_bind_run.1 intended
  obtain ⟨removal, _, containerLog, rest, removed, untagging, rfl⟩ :=
    Trace.attempt_bind_run.1 removing
  obtain ⟨untag, _, imageLog, rest, untagged, writing, rfl⟩ := Trace.attempt_bind_run.1 untagging
  obtain ⟨rest, concluding, rfl⟩ := writeNew_bind writing
  refine ⟨_, _, during, l, bodyLog, removal, containerLog, untag, imageLog, rest, rfl, ⟨_, ran⟩,
    ⟨_, removed⟩, ⟨_, untagged⟩, ?_⟩
  rcases conclude_run concluding with none | ⟨receipt, written, -, clean, passed⟩
  · exact Or.inl none
  · obtain ⟨untagOk, clean'⟩ := settle_none clean
    obtain ⟨removalOk, clean''⟩ := settle_none clean'
    have duringOk : during = .ok () := by
      cases during with
      | ok done => rfl
      | error e => cases clean''
    refine Or.inr ⟨receipt, written, passed, duringOk, removalOk, untagOk, ?_, rfl, ?_⟩
    · rw [clean]
      rfl
    · rw [clean]
      rfl

/-- A run that stops before the intent has only looked for images; any other
starts with two lookups and goes on from the intent. -/
theorem runtime_run {suffix : String} {oci : Oci} {plan : Plan} {identity : Identity}
    (run : runtime host suffix oci plan identity [] () = (r, u, events)) :
    (∀ e ∈ events, ∃ tag o, e = .command (.imageLs tag) o) ∨
    ∃ planHash first ids second rest log, host.planDigest plan = .ok planHash ∧
      parseIds first = .ok ids ∧
      events = .command (.imageLs none) (.ok first) ::
        .command (.imageLs (some ("inverter-gateway-release-smoke:" ++ suffix))) (.ok second) :: rest ∧
      smokeRun host ⟨oci, plan, identity, planHash, "inverter-gateway-release-smoke:" ++ suffix,
        "inverter-gateway-release-smoke-" ++ suffix, oci.configDigest ∈ ids⟩ log () = (r, u, rest) := by
  unfold runtime at run
  rcases Trace.lift_bind_run.1 run with ⟨e, -, -, -, rfl⟩ | ⟨planHash, digested, looked⟩
  · exact Or.inl fun e listed => by cases listed
  rcases imageIds_bind looked with ⟨e, outcome, -, rfl⟩ | ⟨first, ids, rest, parsed, found, rfl⟩
  · refine Or.inl fun e listed => ?_
    rw [List.mem_singleton.1 listed]
    exact ⟨_, _, rfl⟩
  rcases imageIds_bind found with ⟨e, outcome, -, rfl⟩ | ⟨second, tagged, rest, -, free, rfl⟩
  · refine Or.inl fun e listed => ?_
    rcases List.mem_cons.1 listed with rfl | last
    · exact ⟨_, _, rfl⟩
    · rw [List.mem_singleton.1 last]
      exact ⟨_, _, rfl⟩
  rcases Trace.lift_bind_run.1 free with ⟨e, -, -, -, rfl⟩ | ⟨_, -, started⟩
  · refine Or.inl fun e listed => ?_
    rcases List.mem_cons.1 listed with rfl | last
    · exact ⟨_, _, rfl⟩
    · rw [List.mem_singleton.1 last]
      exact ⟨_, _, rfl⟩
  · exact Or.inr ⟨planHash, first, ids, second, rest, _, digested, parsed, rfl, started⟩

end Whole

/-! ## What a log must show -/

section Claims

variable (host : Host) (log : List Event)

/-- Each removal of a container comes right after the lookup and an inspection
that shows the id to be the run's own, and is of the created id when one was printed. -/
def RemovesOwnContainer (name imageId : String) (planDigest : Except PyError String) : Prop :=
  ∀ before id o after, log = before ++ .command (.containerRm id) o :: after →
    ∃ start found shown item planHash,
      before = start ++ [.command (.containerLs name) (.ok found),
        .command (.containerInspect name) (.ok shown)] ∧
      objectJson host.loads shown = .ok item ∧ planDigest = .ok planHash ∧
      Owned item name imageId planHash id ∧
      ∀ name' label image raw value,
        Event.command (.create name' label image) (.ok raw) ∈ before →
          createdId raw = .ok value → value = id

/-- Each removal of a tag is of the run's own tag, after a first lookup without the
image, and right after the lookup and the inspection that resolve the tag to it. -/
def RemovesOwnTag (tag imageId : String) : Prop :=
  ∀ before tag' o after, log = before ++ .command (.imageRm tag') o :: after →
    tag' = tag ∧
    (∃ first ids rest, before = .command (.imageLs none) (.ok first) :: rest ∧
      parseIds first = .ok ids ∧ imageId ∉ ids) ∧
    ∃ start found shown item,
      before = start ++ [.command (.imageLs (some tag)) (.ok found),
        .command (.imageInspect tag) (.ok shown)] ∧
      parseIds found = .ok {imageId} ∧ objectJson host.loads shown = .ok item ∧
      item.get "Id" = .ok (.str imageId)

/-- The outcome is written after the intent, always and only. -/
def OutcomeFollows : Prop :=
  (∀ before intent after, log = before ++ .wrote (.intent intent) :: after →
    ∃ outcome, Event.wrote (.outcome outcome) ∈ after) ∧
  ∀ before outcome after, log = before ++ .wrote (.outcome outcome) :: after →
    ∃ intent, Event.wrote (.intent intent) ∈ before

/-- A receipt means that nothing failed, that the created container exited with
zero after printing exactly the version, and that the last lookups list nothing. -/
def PassesHonestly (name tag imageId : String) (planDigest : Except PyError String)
    (version : String) : Prop :=
  ∀ receipt, Event.wrote (.receipt receipt) ∈ log →
    receipt.status = "PASSED" ∧
    (∀ c o, Event.command c o ∈ log → ∃ raw, o = .ok raw) ∧
    (∃ outcome, Event.wrote (.outcome outcome) ∈ log ∧ outcome.error = none ∧
      outcome.phase = "verified" ∧ outcome.status = "RUNTIME_AND_CLEANUP_PASSED") ∧
    (∃ id created shown item planHash, planDigest = .ok planHash ∧
      Event.command (.create name planHash imageId) (.ok created) ∈ log ∧
      createdId created = .ok id ∧
      Event.command (.start id) (.ok (encode ("inverter-gateway " ++ version ++ "\n"))) ∈ log ∧
      Event.command (.containerInspect id) (.ok shown) ∈ log ∧
      objectJson host.loads shown = .ok item ∧ Owned item name imageId planHash id ∧
      ExitedZero item) ∧
    (∃ before left after, log = before ++ .command (.containerLs name) (.ok left) :: after ∧
      Lists left [] ∧ ∀ o, Event.command (.containerLs name) o ∉ after) ∧
    ∃ before left after, log = before ++ .command (.imageLs (some tag)) (.ok left) :: after ∧
      parseIds left = .ok ∅ ∧ ∀ o, Event.command (.imageLs (some tag)) o ∉ after

end Claims

/-! ## The parts of a log -/

/-- A log that reached the intent, taken apart. -/
structure Parts (host : Host) (setting : Setting) (log : List Event) where
  first : Bytes
  ids : Finset String
  second : Bytes
  intent : Intent
  outcome : Outcome
  during : Except PyError Unit
  locals : Locals
  bodyLog : List Event
  removal : Except PyError ContainerRecord
  containerLog : List Event
  untag : Except PyError ImageRecord
  imageLog : List Event
  last : List Event
  listed : parseIds first = .ok ids
  preexisting : setting.preexisting = decide (setting.imageId ∈ ids)
  whole : log = .command (.imageLs none) (.ok first) ::
    .command (.imageLs (some setting.tag)) (.ok second) :: .wrote (.intent intent) ::
      (bodyLog ++ (containerLog ++ (imageLog ++ .wrote (.outcome outcome) :: last)))
  ran : ∃ log, body host setting log Locals.start = (during, locals, bodyLog)
  removed : ∃ log, cleanupContainer host setting.name locals.containerId setting.imageId
    setting.planHash log () = (removal, (), containerLog)
  untagged : ∃ log, cleanupImage host setting.tag setting.imageId setting.preexisting locals.imported
    log () = (untag, (), imageLog)
  ending : last = [] ∨ ∃ receipt, last = [.wrote (.receipt receipt)] ∧ receipt.status = "PASSED" ∧
    during = .ok () ∧ (∃ record, removal = .ok record) ∧ (∃ record, untag = .ok record) ∧
    outcome.status = "RUNTIME_AND_CLEANUP_PASSED" ∧ outcome.phase = locals.phase ∧
    outcome.error = none

section Parts

variable {host : Host} {setting : Setting} {log : List Event}

theorem Issues.allowed {allowed : Command → Bool} {c : Command} {o : Except PyError Bytes}
    (issued : Issues allowed (.command c o)) : allowed c = true := issued

theorem Parts.bodyKinds (parts : Parts host setting log) : ∀ e ∈ parts.bodyLog, Issues inBody e := by
  obtain ⟨log, run⟩ := parts.ran
  exact within_body.kinds run trivial

theorem Parts.containerKinds (parts : Parts host setting log) :
    ∀ e ∈ parts.containerLog, Issues onContainer e := by
  obtain ⟨log, run⟩ := parts.removed
  exact (within_cleanupContainer (Q := fun _ => True)).kinds run trivial

theorem Parts.imageKinds (parts : Parts host setting log) :
    ∀ e ∈ parts.imageLog, Issues onImage e := by
  obtain ⟨log, run⟩ := parts.untagged
  exact (within_cleanupImage (Q := fun _ => True)).kinds run trivial

theorem Parts.lastKinds (parts : Parts host setting log) :
    ∀ e ∈ parts.last, ∃ receipt, e = .wrote (.receipt receipt) := by
  intro e listed
  rcases parts.ending with none | ⟨receipt, same, -⟩
  · rw [none] at listed
    cases listed
  · rw [same] at listed
    exact ⟨receipt, List.mem_singleton.1 listed⟩

/-- What stands before the cleanups. -/
def Parts.front (parts : Parts host setting log) : List Event :=
  .command (.imageLs none) (.ok parts.first) ::
    .command (.imageLs (some setting.tag)) (.ok parts.second) ::
      .wrote (.intent parts.intent) :: parts.bodyLog

theorem Parts.log_eq (parts : Parts host setting log) : log = parts.front ++
    (parts.containerLog ++ (parts.imageLog ++ .wrote (.outcome parts.outcome) :: parts.last)) :=
  parts.whole

theorem Parts.mem_log (parts : Parts host setting log) {e : Event} (listed : e ∈ parts.front ++
    (parts.containerLog ++ (parts.imageLog ++ .wrote (.outcome parts.outcome) :: parts.last))) :
    e ∈ log := by
  rwa [← parts.log_eq] at listed

theorem Parts.mem_front (parts : Parts host setting log) {e : Event} (listed : e ∈ parts.front) :
    e = .command (.imageLs none) (.ok parts.first) ∨
      e = .command (.imageLs (some setting.tag)) (.ok parts.second) ∨
      e = .wrote (.intent parts.intent) ∨ e ∈ parts.bodyLog := by
  simpa only [Parts.front, List.mem_cons] using listed

/-- No command that only a cleanup issues stands before the cleanups. -/
theorem Parts.clear_front (parts : Parts host setting log) {c : Command} {o : Except PyError Bytes}
    (other : inBody c = false) : Event.command c o ∉ parts.front := by
  intro listed
  rcases parts.mem_front listed with same | same | same | listed
  · cases same
    cases other
  · cases same
    cases other
  · cases same
  · have allowed := (parts.bodyKinds _ listed).allowed
    rw [other] at allowed
    cases allowed

/-- No command stands after the image cleanup. -/
theorem Parts.clear_end (parts : Parts host setting log) {c : Command} {o : Except PyError Bytes} :
    Event.command c o ∉ .wrote (.outcome parts.outcome) :: parts.last := by
  intro listed
  rcases List.mem_cons.1 listed with same | listed
  · cases same
  · obtain ⟨receipt, same⟩ := parts.lastKinds _ listed
    cases same

/-- What stands before the container cleanup names the created id. -/
theorem Parts.created (parts : Parts host setting log) {name label image value : String}
    {raw : Bytes} (listed : Event.command (.create name label image) (.ok raw) ∈ parts.front)
    (read : createdId raw = .ok value) : parts.locals.containerId = some value := by
  rcases parts.mem_front listed with same | same | same | listed
  · cases same
  · cases same
  · cases same
  · obtain ⟨log, run⟩ := parts.ran
    exact body_created run listed read

theorem Parts.removesOwnContainer (parts : Parts host setting log)
    {planDigest : Except PyError String} (digested : planDigest = .ok setting.planHash) :
    RemovesOwnContainer host log setting.name setting.imageId planDigest := by
  intro before id o after split
  have whole := parts.log_eq.symm.trans split
  obtain ⟨b, a, inside, front, -⟩ := append_locate (p := IsContainerRm) whole ⟨id, o, rfl⟩
    (by
      rintro e listed ⟨id, o, rfl⟩
      exact parts.clear_front rfl listed)
    (by
      rintro e listed ⟨id, o, rfl⟩
      rcases List.mem_append.1 listed with image | last
      · cases parts.imageKinds _ image
      · exact parts.clear_end last)
  obtain ⟨_, run⟩ := parts.removed
  obtain ⟨found, shown, item, rfl, parsed, owned, known⟩ := cleanupContainer_removes run inside
  refine ⟨_, found, shown, item, setting.planHash, front, parsed, digested, owned, ?_⟩
  intro name' label image raw value listed read
  rw [front] at listed
  have created := (List.mem_append.1 listed).resolve_right (by simp)
  have assigned := parts.created created read
  rcases known with none | same
  · cases assigned.symm.trans none
  · cases assigned.symm.trans same
    rfl

theorem Parts.removesOwnTag (parts : Parts host setting log) :
    RemovesOwnTag host log setting.tag setting.imageId := by
  intro before tag o after split
  have whole := parts.log_eq.symm.trans split
  rw [← List.append_assoc] at whole
  obtain ⟨b, a, inside, front, -⟩ := append_locate (p := IsImageRm) whole ⟨tag, o, rfl⟩
    (by
      rintro e listed ⟨tag, o, rfl⟩
      rcases List.mem_append.1 listed with early | container
      · exact parts.clear_front rfl early
      · cases parts.containerKinds _ container)
    (by
      rintro e listed ⟨tag, o, rfl⟩
      exact parts.clear_end listed)
  obtain ⟨_, run⟩ := parts.untagged
  obtain ⟨fresh, rfl, found, shown, item, rfl, only, parsed, identified⟩ :=
    cleanupImage_removes run inside
  have absent : setting.imageId ∉ parts.ids := by
    rw [parts.preexisting, decide_eq_false_iff_not] at fresh
    exact fresh
  exact ⟨rfl, ⟨parts.first, parts.ids, _, front, parts.listed, absent⟩, _, found, shown, item, front,
    only, parsed, identified⟩

/-- The three parts between the intent and the outcome write nothing. -/
theorem Issues.not_wrote {allowed : Command → Bool} {events : List Event}
    (kinds : ∀ e ∈ events, Issues allowed e) (document : Document) :
    Event.wrote document ∉ events :=
  fun listed => kinds _ listed

/-- What stands between the first lookups and the outcome writes nothing but the intent. -/
theorem Parts.wrote_front (parts : Parts host setting log) {document : Document}
    (listed : Event.wrote document ∈ parts.front ++ (parts.containerLog ++ parts.imageLog)) :
    document = .intent parts.intent := by
  rcases List.mem_append.1 listed with early | cleanup
  · rcases parts.mem_front early with same | same | same | inside
    · cases same
    · cases same
    · cases same
      rfl
    · exact absurd inside (Issues.not_wrote parts.bodyKinds document)
  · rcases List.mem_append.1 cleanup with container | image
    · exact absurd container (Issues.not_wrote parts.containerKinds document)
    · exact absurd image (Issues.not_wrote parts.imageKinds document)

/-- The outcome is written once, after the intent, which is written once. -/
theorem Parts.outcomeFollows (parts : Parts host setting log) : OutcomeFollows log := by
  have written : Event.wrote (.intent parts.intent) ∈ parts.front := by simp [Parts.front]
  refine ⟨?_, ?_⟩
  · intro before intent after split
    have whole : [.command (.imageLs none) (.ok parts.first),
        .command (.imageLs (some setting.tag)) (.ok parts.second)] ++
          .wrote (.intent parts.intent) :: (parts.bodyLog ++ (parts.containerLog ++
            (parts.imageLog ++ .wrote (.outcome parts.outcome) :: parts.last))) =
        before ++ .wrote (.intent intent) :: after := parts.whole.symm.trans split
    obtain ⟨-, -, rfl⟩ := append_cons_unique (p := fun e => ∃ i, e = .wrote (.intent i)) whole
      ⟨intent, rfl⟩
      (by
        rintro e listed ⟨i, rfl⟩
        simp at listed)
      (by
        rintro e listed ⟨i, rfl⟩
        rcases List.mem_append.1 listed with inside | later
        · exact Issues.not_wrote parts.bodyKinds _ inside
        rcases List.mem_append.1 later with inside | later
        · exact Issues.not_wrote parts.containerKinds _ inside
        rcases List.mem_append.1 later with inside | later
        · exact Issues.not_wrote parts.imageKinds _ inside
        rcases List.mem_cons.1 later with same | inside
        · cases same
        · obtain ⟨receipt, same⟩ := parts.lastKinds _ inside
          cases same)
    exact ⟨parts.outcome, by simp⟩
  · intro before outcome after split
    have whole := parts.log_eq.symm.trans split
    rw [← List.append_assoc, ← List.append_assoc, List.append_assoc parts.front] at whole
    obtain ⟨rfl, -, -⟩ := append_cons_unique (p := fun e => ∃ o, e = .wrote (.outcome o)) whole
      ⟨outcome, rfl⟩
      (by
        rintro e listed ⟨o, rfl⟩
        cases parts.wrote_front listed)
      (by
        rintro e listed ⟨o, rfl⟩
        obtain ⟨receipt, same⟩ := parts.lastKinds _ listed
        cases same)
    exact ⟨parts.intent, List.mem_append_left _ written⟩

/-- A receipt stands at the end. -/
theorem Parts.receipt_last (parts : Parts host setting log) {receipt : Receipt}
    (listed : Event.wrote (.receipt receipt) ∈ log) :
    Event.wrote (.receipt receipt) ∈ parts.last := by
  rw [parts.log_eq, ← List.append_assoc, ← List.append_assoc, List.append_assoc parts.front] at listed
  rcases List.mem_append.1 listed with early | late
  · cases parts.wrote_front early
  · rcases List.mem_cons.1 late with same | inside
    · cases same
    · exact inside

theorem Parts.passesHonestly (parts : Parts host setting log) {planDigest : Except PyError String}
    (digested : planDigest = .ok setting.planHash) :
    PassesHonestly host log setting.name setting.tag setting.imageId planDigest
      setting.plan.package := by
  intro receipt listed
  have final := parts.receipt_last listed
  rcases parts.ending with none | ⟨receipt', same, passed, completed, ⟨containerRecord, removedOk⟩,
      ⟨imageRecord, untaggedOk⟩, status, phase, error⟩
  · rw [none] at final
    cases final
  rw [same] at final
  cases List.mem_singleton.1 final
  obtain ⟨_, ran⟩ := parts.ran
  obtain ⟨_, removed⟩ := parts.removed
  obtain ⟨_, untagged⟩ := parts.untagged
  rw [completed] at ran
  rw [removedOk] at removed
  rw [untaggedOk] at untagged
  obtain ⟨id, created, shown, item, made, read, started, inspected, parsed, owned, zero, verified⟩ :=
    body_verified ran
  have inBodyLog : ∀ e ∈ parts.bodyLog, e ∈ log := by
    intro e inside
    exact parts.mem_log (by simp [Parts.front, inside])
  refine ⟨passed, ?_, ?_, ?_, ?_, ?_⟩
  · intro c o issued
    rw [parts.log_eq] at issued
    rcases List.mem_append.1 issued with early | issued
    · rcases parts.mem_front early with same | same | same | inside
      · cases same
        exact ⟨_, rfl⟩
      · cases same
        exact ⟨_, rfl⟩
      · cases same
      · exact within_body.succeeded ran trivial _ inside
    rcases List.mem_append.1 issued with inside | issued
    · exact (within_cleanupContainer (Q := fun _ => True)).succeeded removed trivial _ inside
    rcases List.mem_append.1 issued with inside | issued
    · exact (within_cleanupImage (Q := fun _ => True)).succeeded untagged trivial _ inside
    · exact absurd issued parts.clear_end
  · exact ⟨parts.outcome, parts.mem_log (by simp), error, phase.trans verified, status⟩
  · exact ⟨id, created, shown, item, setting.planHash, digested, inBodyLog _ made, read,
      inBodyLog _ started, inBodyLog _ inspected, parsed, owned, zero⟩
  · obtain ⟨start, left, ends, nothing⟩ := cleanupContainer_absent removed
    refine ⟨parts.front ++ start, left,
      parts.imageLog ++ .wrote (.outcome parts.outcome) :: parts.last, ?_, nothing, ?_⟩
    · conv => lhs; rw [parts.log_eq, ends]
      simp only [List.append_assoc, List.singleton_append]
    · intro o later
      rcases List.mem_append.1 later with inside | later
      · cases parts.imageKinds _ inside
      · exact parts.clear_end later
  · obtain ⟨start, left, ends, nothing⟩ := cleanupImage_absent untagged
    refine ⟨parts.front ++ (parts.containerLog ++ start), left,
      .wrote (.outcome parts.outcome) :: parts.last, ?_, nothing, ?_⟩
    · conv => lhs; rw [parts.log_eq, ends]
      simp only [List.append_assoc, List.singleton_append]
    · intro o later
      exact parts.clear_end later

end Parts

/-- **A smoke run touches only what it owns and passes honestly**: whatever Docker
answers, it removes only the container and the tag that it has just seen to be its
own, it writes the outcome after the intent in every case, and it writes a receipt
only after a run and a cleanup without any failure. -/
theorem runtime_owned_and_honest (host : Host) (suffix : String) (oci : Oci) (plan : Plan)
    (identity : Identity) :
    RemovesOwnContainer host (runtime host suffix oci plan identity [] ()).2.2
      ("inverter-gateway-release-smoke-" ++ suffix) oci.configDigest (host.planDigest plan) ∧
    RemovesOwnTag host (runtime host suffix oci plan identity [] ()).2.2
      ("inverter-gateway-release-smoke:" ++ suffix) oci.configDigest ∧
    OutcomeFollows (runtime host suffix oci plan identity [] ()).2.2 ∧
    PassesHonestly host (runtime host suffix oci plan identity [] ()).2.2
      ("inverter-gateway-release-smoke-" ++ suffix) ("inverter-gateway-release-smoke:" ++ suffix)
      oci.configDigest (host.planDigest plan) plan.package := by
  cases run : runtime host suffix oci plan identity [] () with
  | mk r rest =>
      obtain ⟨u, log⟩ := rest
      show RemovesOwnContainer host log _ _ _ ∧ RemovesOwnTag host log _ _ ∧ OutcomeFollows log ∧
        PassesHonestly host log _ _ _ _ _
      rcases runtime_run run with lookups |
          ⟨planHash, first, ids, second, rest, earlier, digested, listed, whole, started⟩
      · -- The run has not reached the intent: it has neither removed nor written anything.
        have only : ∀ before e after, log = before ++ e :: after →
            ∃ tag o, e = .command (.imageLs tag) o := by
          rintro before e after rfl
          exact lookups e (List.mem_append_right _ List.mem_cons_self)
        refine ⟨?_, ?_, ⟨?_, ?_⟩, ?_⟩
        · intro before id o after split
          obtain ⟨_, _, same⟩ := only _ _ _ split
          cases same
        · intro before tag o after split
          obtain ⟨_, _, same⟩ := only _ _ _ split
          cases same
        · intro before intent after split
          obtain ⟨_, _, same⟩ := only _ _ _ split
          cases same
        · intro before outcome after split
          obtain ⟨_, _, same⟩ := only _ _ _ split
          cases same
        · intro receipt written
          obtain ⟨_, _, same⟩ := lookups _ written
          cases same
      · obtain ⟨intent, outcome, during, l, bodyLog, removal, containerLog, untag, imageLog, last,
          shape, ran, removed, untagged, ending⟩ := smokeRun_run started
        rw [shape] at whole
        have parts : Parts host ⟨oci, plan, identity, planHash,
            "inverter-gateway-release-smoke:" ++ suffix, "inverter-gateway-release-smoke-" ++ suffix,
            oci.configDigest ∈ ids⟩ log :=
          { first, ids, second, intent, outcome, during, locals := l, bodyLog, removal, containerLog,
            untag, imageLog, last, listed, preexisting := rfl, whole, ran, removed, untagged, ending }
        exact ⟨parts.removesOwnContainer digested, parts.removesOwnTag, parts.outcomeFollows,
          parts.passesHonestly digested⟩

/-! ## A run that passes -/

def digestSample : String := "sha256:" ++ String.ofList (List.replicate 64 'a')

def idSample : String := String.ofList (List.replicate 64 'b')

def tagSample : String := "inverter-gateway-release-smoke:0"

def configSample : Json :=
  .dict [("Labels", .dict [("org.opencontainers.image.version", .str "1.0.0")])]

def ociSample : Oci :=
  ⟨"inverter-gateway-container.oci.tar", 1, "s", "m", digestSample, "linux/amd64", [], .list [],
    configSample, ⟨64, "s", 0o755⟩, []⟩

def imageSample : Json :=
  .dict [("Id", .str digestSample), ("Os", .str "linux"), ("Architecture", .str "amd64"),
    ("RootFS", .dict [("Type", .str "layers"), ("Layers", .list [])]), ("Config", configSample),
    ("RepoTags", .list [.str tagSample])]

def containerSample : Json :=
  .dict [("Id", .str idSample), ("Name", .str "/inverter-gateway-release-smoke-0"),
    ("Image", .str digestSample),
    ("Config", .dict [("Labels", .dict [("org.victron.release-probe", .str "plan")])]),
    ("State", .dict [("Status", .str "exited"), ("Running", .bool false), ("ExitCode", .int 0),
      ("OOMKilled", .bool false), ("Error", .str "")])]

def mark : Event → Option String
  | .command (.imageLoad _) _ => some "load"
  | .command (.containerRm _) _ => some "remove"
  | .command (.imageRm _) _ => some "untag"
  | .wrote (.receipt _) => some "receipt"
  | _ => none

/-- A daemon that does what it is asked to. -/
def hostSample : Host where
  docker log
    | .imageLs (some _) =>
        .ok (if log.filterMap mark = ["load"] ∨ log.filterMap mark = ["load", "remove"] then
          encode digestSample else [])
    | .imageInspect _ => .ok [1]
    | .containerInspect _ => .ok [2]
    | .create _ _ _ => .ok (encode idSample)
    | .start _ => .ok (encode "inverter-gateway 1.0.0\n")
    | .containerLs _ => .ok (if "remove" ∈ log.filterMap mark then [] else encode idSample)
    | _ => .ok []
  loads _ _ raw := .ok (if raw = [1] then imageSample else containerSample)
  planDigest _ := .ok "plan"
  scratch := .ok "/tmp"
  dockerArchive _ _ _ := .ok ociSample
  fileIdentity := .ok (1, "s")
  sha _ := "hash"

example : (runtime hostSample "0" ociSample ⟨"1.0.0", "1.0.0", "beta", "", "src", "v1.0.0"⟩
    ⟨"r", "s", 1, 1⟩ [] ()).2.2.filterMap mark = ["load", "remove", "untag", "receipt"] := by
  decide +kernel

end InverterGateway.Smoke.Runtime

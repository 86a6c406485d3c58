/-
# Smoke.Cleanup — what each cleanup issues, and what its success shows

A removal is issued only right after the lookup and the inspection that show the
container or the tag to be the run's own.  A cleanup that completes ends with a
lookup that lists nothing.
-/
import InverterGateway.Smoke.Docker
import InverterGateway.Theory.Fallible

namespace InverterGateway.Smoke.Runtime

open InverterGateway.Theory

set_option autoImplicit false

/-! ## Commands and their answers -/

/-- The ids that an output lists. -/
def Lists (raw : Bytes) (ids : List String) : Prop :=
  ∃ text, decodeAscii raw = .ok text ∧ words text = ids

section Answers

variable {host : Host} {σ α : Type} {log events : List Event} {s s' : σ}

theorem boundedCommand_run {command : Command} {r : Except PyError Bytes}
    (run : boundedCommand host command log s = (r, s', events)) :
    s' = s ∧ events = [.command command r] := by
  obtain ⟨-, kept, logged⟩ := Trace.observe_run.1 run
  exact ⟨kept, logged⟩

/-- A command whose output is read. -/
theorem asked_run {command : Command} {read : Bytes → Except PyError α} {r : Except PyError α}
    (run : (boundedCommand host command >>= fun raw => liftM (read raw) : Program σ α) log s =
      (r, s', events)) :
    s' = s ∧ ∃ outcome, events = [.command command outcome] ∧ r = outcome >>= read := by
  rw [Trace.bind_run] at run
  rcases run with ⟨e, failed, rfl⟩ | ⟨raw, mid, first, second, answered, done, rfl⟩
  · obtain ⟨kept, logged⟩ := boundedCommand_run failed
    exact ⟨kept, .error e, logged, rfl⟩
  · obtain ⟨rfl, rfl⟩ := boundedCommand_run answered
    obtain ⟨rfl, rfl, rfl⟩ := Trace.lift_run.1 done
    exact ⟨rfl, .ok raw, rfl, rfl⟩

theorem imageIds_run {tag : Option String} {r : Except PyError (Finset String)}
    (run : imageIds host tag log s = (r, s', events)) :
    s' = s ∧ ∃ outcome, events = [.command (.imageLs tag) outcome] ∧ r = outcome >>= parseIds :=
  asked_run run

theorem inspect_run {command : Command} {r : Except PyError Json}
    (run : inspect host command log s = (r, s', events)) :
    s' = s ∧ ∃ outcome, events = [.command command outcome] ∧ r = outcome >>= objectJson host.loads :=
  asked_run run

/-- A command that was read with success. -/
theorem imageIds_ok {tag : Option String} {ids : Finset String}
    (run : imageIds host tag log s = (.ok ids, s', events)) :
    s' = s ∧ ∃ raw, events = [.command (.imageLs tag) (.ok raw)] ∧ parseIds raw = .ok ids := by
  obtain ⟨kept, outcome, logged, answer⟩ := imageIds_run run
  obtain ⟨raw, rfl, read⟩ := bind_eq_ok.1 answer.symm
  exact ⟨kept, raw, logged, read⟩

theorem inspect_ok {command : Command} {item : Json}
    (run : inspect host command log s = (.ok item, s', events)) :
    s' = s ∧ ∃ raw, events = [.command command (.ok raw)] ∧ objectJson host.loads raw = .ok item := by
  obtain ⟨kept, outcome, logged, answer⟩ := inspect_run run
  obtain ⟨raw, rfl, read⟩ := bind_eq_ok.1 answer.symm
  exact ⟨kept, raw, logged, read⟩

/-- A command before more steps. -/
theorem boundedCommand_bind {command : Command} {f : Bytes → Program σ α} {r : Except PyError α}
    (run : (boundedCommand host command >>= f) log s = (r, s', events)) :
    (∃ e, r = .error e ∧ s' = s ∧ events = [.command command (.error e)]) ∨
    ∃ raw rest, f raw (log ++ [.command command (.ok raw)]) s = (r, s', rest) ∧
      events = .command command (.ok raw) :: rest := by
  rcases Trace.observe_bind_run.1 run with ⟨e, -, rfl, rfl, rfl⟩ | ⟨raw, rest, -, later, rfl⟩
  · exact Or.inl ⟨e, rfl, rfl, rfl⟩
  · exact Or.inr ⟨raw, rest, later, rfl⟩

/-- An inspection before more steps. -/
theorem inspect_bind {command : Command} {f : Json → Program σ α} {r : Except PyError α}
    (run : (inspect host command >>= f) log s = (r, s', events)) :
    (∃ e outcome, r = .error e ∧ events = [.command command outcome]) ∨
    ∃ raw item rest, objectJson host.loads raw = .ok item ∧
      f item (log ++ [.command command (.ok raw)]) s = (r, s', rest) ∧
      events = .command command (.ok raw) :: rest := by
  rcases Trace.bind_run.1 run with ⟨e, failed, rfl⟩ | ⟨item, mid, first, rest, seen, later, rfl⟩
  · obtain ⟨-, outcome, rfl, -⟩ := inspect_run failed
    exact Or.inl ⟨e, outcome, rfl, rfl⟩
  · obtain ⟨rfl, raw, rfl, parsed⟩ := inspect_ok seen
    exact Or.inr ⟨raw, item, rest, parsed, later, rfl⟩

theorem imageIds_bind {tag : Option String} {f : Finset String → Program σ α}
    {r : Except PyError α} (run : (imageIds host tag >>= f) log s = (r, s', events)) :
    (∃ e outcome, r = .error e ∧ events = [.command (.imageLs tag) outcome]) ∨
    ∃ raw ids rest, parseIds raw = .ok ids ∧
      f ids (log ++ [.command (.imageLs tag) (.ok raw)]) s = (r, s', rest) ∧
      events = .command (.imageLs tag) (.ok raw) :: rest := by
  rcases Trace.bind_run.1 run with ⟨e, failed, rfl⟩ | ⟨ids, mid, first, rest, seen, later, rfl⟩
  · obtain ⟨-, outcome, rfl, -⟩ := imageIds_run failed
    exact Or.inl ⟨e, outcome, rfl, rfl⟩
  · obtain ⟨rfl, raw, rfl, parsed⟩ := imageIds_ok seen
    exact Or.inr ⟨raw, ids, rest, parsed, later, rfl⟩

end Answers

/-! ## The run's own container -/

/-- The inspection shows a container of the run. -/
structure Owned (item : Json) (name imageId planHash id : String) : Prop where
  id : item.get "Id" = .ok (.str id)
  name : item.get "Name" = .ok (.str ("/" ++ name))
  image : item.get "Image" = .ok (.str imageId)
  label : ∃ config labels, item.getOr "Config" (.dict []) = .ok config ∧
    config.getOr "Labels" (.dict []) = .ok labels ∧
    labels.get "org.victron.release-probe" = .ok (.str planHash)

theorem containerIdentity_eq_ok {item : Json} {name imageId planHash id : String}
    {known : Option String} (same : containerIdentity item name known imageId planHash = .ok id) :
    Owned item name imageId planHash id ∧ (known = none ∨ known = some id) := by
  rw [containerIdentity, bind_eq_ok] at same
  obtain ⟨v, identified, same⟩ := same
  cases v with
  | str observed =>
      simp only [bind_eq_ok, need_eq_ok, Bool.or_eq_true, decide_eq_true_eq] at same
      obtain ⟨-, -, -, known, v, named, -, hitName, w, imaged, -, hitImage, config, configured,
        labels, labelled, l, found, -, hitLabel, same⟩ := same
      cases same
      rw [Json.eq_str hitName] at named
      rw [Json.eq_str hitImage] at imaged
      rw [Json.eq_str hitLabel] at found
      exact ⟨⟨identified, named, imaged, config, labels, configured, labelled, found⟩, known⟩
  | none => cases same
  | bool b => cases same
  | int i => cases same
  | float x => cases same
  | list xs => cases same
  | dict xs => cases same

/-- Trimming everything away leaves only what is trimmed. -/
theorem all_of_trimmed {α : Type} {p : α → Bool} {l : List α}
    (nothing : ((l.dropWhile p).reverse.dropWhile p).reverse = []) : ∀ x ∈ l, p x = true := by
  rw [List.reverse_eq_nil_iff, List.dropWhile_eq_nil_iff] at nothing
  refine List.dropWhile_eq_nil_iff.1 ?_
  cases kept : l.dropWhile p with
  | nil => rfl
  | cons x xs =>
      have first := List.head?_dropWhile_not p l
      have blank := nothing x (by rw [kept]; simp)
      rw [kept, List.head?_cons] at first
      simp [blank] at first

/-- Blanks only have no words between them. -/
theorem splitOnP_blank {α : Type} {p : α → Bool} {l : List α} (blank : ∀ x ∈ l, p x = true) :
    ∀ part ∈ l.splitOnP p, part = [] := by
  induction l with
  | nil =>
      intro part listed
      rw [List.splitOnP_nil] at listed
      exact List.mem_singleton.1 listed
  | cons x xs ih =>
      intro part listed
      obtain ⟨here, others⟩ := List.forall_mem_cons.1 blank
      rw [List.splitOnP_cons_eq_if_modifyHead, if_pos here] at listed
      rcases List.mem_cons.1 listed with rfl | later
      · rfl
      · exact ih others part later

/-- Nothing but blanks lists nothing. -/
theorem lists_of_strip {raw : Bytes} (blank : (strip raw).isEmpty = true) : Lists raw [] := by
  rw [List.isEmpty_iff] at blank
  have bytes := all_of_trimmed blank
  have small : ∀ byte ∈ raw, byte.toNat = 32 ∨ 9 ≤ byte.toNat ∧ byte.toNat ≤ 13 := by
    intro byte listed
    have here := bytes byte listed
    rw [Bool.or_eq_true, Bool.and_eq_true, decide_eq_true_eq, decide_eq_true_eq, decide_eq_true_eq,
      UInt8.le_iff_toNat_le, UInt8.le_iff_toNat_le] at here
    rcases here with rfl | range
    · exact Or.inl rfl
    · exact Or.inr range
  refine ⟨String.ofList (raw.map fun byte => Char.ofNat byte.toNat), ?_, ?_⟩
  · have ascii : (raw.findIdx? fun byte => 128 ≤ byte) = none := by
      refine List.findIdx?_eq_none_iff.2 fun byte listed => ?_
      rw [decide_eq_false_iff_not, UInt8.le_iff_toNat_le]
      have bound : (128 : UInt8).toNat = 128 := rfl
      rcases small byte listed with space | range
      · omega
      · omega
    rw [decodeAscii, ascii]
  · have parts := splitOnP_blank (p := fun c : Char => c = ' ' || (9 ≤ c.toNat && c.toNat ≤ 13) ||
      (28 ≤ c.toNat && c.toNat ≤ 31)) (l := raw.map fun byte => Char.ofNat byte.toNat) ?_
    · rw [words, String.toList_ofList, List.map_eq_nil_iff, List.filter_eq_nil_iff]
      intro part listed
      rw [parts part listed]
      decide
    · intro c listed
      obtain ⟨byte, member, rfl⟩ := List.mem_map.1 listed
      have few := small byte member
      have value : (Char.ofNat byte.toNat).toNat = byte.toNat := by
        have valid : byte.toNat.isValidChar := Or.inl (by omega)
        rw [Char.ofNat, dif_pos valid]
        rfl
      rw [value]
      rcases few with space | range
      · rw [space]
        rfl
      · simp [range.1, range.2]

/-! ## The cleanup of the container -/

/-- A removal of a container. -/
def IsContainerRm (e : Event) : Prop := ∃ id o, e = .command (.containerRm id) o

/-- A removal of a tag. -/
def IsImageRm (e : Event) : Prop := ∃ tag o, e = .command (.imageRm tag) o

section Container

variable {host : Host} {σ : Type} {name imageId planHash : String} {known : Option String}
  {log events : List Event} {s s' : σ} {r : Except PyError ContainerRecord}

/-- **Where the cleanup of the container can stop**: at the lookup, at the
inspection, at the removal of the run's own container, or at the last lookup. -/
theorem cleanupContainer_cases
    (run : cleanupContainer host name known imageId planHash log s = (r, s', events)) :
    (∃ first, events = [.command (.containerLs name) first] ∧ ∀ record, r = .ok record →
      (∃ raw, first = .ok raw ∧ Lists raw []) ∧
        record = ⟨"absent_at_check", name, known, true, known.isNone⟩) ∨
    (∃ found shown, events = [.command (.containerLs name) (.ok found),
      .command (.containerInspect name) shown] ∧ ∃ e, r = .error e) ∨
    ∃ found shown item id, objectJson host.loads shown = .ok item ∧
      Owned item name imageId planHash id ∧ (known = none ∨ known = some id) ∧
      ∃ last, events = [.command (.containerLs name) (.ok found),
          .command (.containerInspect name) (.ok shown)] ++ last ∧
        ((∃ e, last = [.command (.containerRm id) (.error e)] ∧ r = .error e) ∨
          ∃ out left, last = [.command (.containerRm id) (.ok out),
            .command (.containerLs name) left] ∧ ∀ record, r = .ok record →
              (∃ raw, left = .ok raw ∧ Lists raw []) ∧
                record = ⟨"removed", name, some id, true, false⟩) := by
  unfold cleanupContainer at run
  rcases boundedCommand_bind run with ⟨e, rfl, -, rfl⟩ | ⟨found, rest, looked, rfl⟩
  · exact Or.inl ⟨_, rfl, fun _ answered => by cases answered⟩
  rcases Trace.lift_bind_run.1 looked with ⟨e, -, rfl, -, rfl⟩ | ⟨text, decoded, read⟩
  · exact Or.inl ⟨_, rfl, fun _ answered => by cases answered⟩
  rcases Trace.lift_bind_run.1 read with ⟨e, -, rfl, -, rfl⟩ | ⟨_, -, few⟩
  · exact Or.inl ⟨_, rfl, fun _ answered => by cases answered⟩
  split at few
  · rename_i nothing
    obtain ⟨rfl, -, rfl⟩ := Trace.pure_run.1 few
    refine Or.inl ⟨_, rfl, fun record answered => ?_⟩
    cases answered
    exact ⟨⟨found, rfl, text, decoded, nothing⟩, rfl⟩
  · rcases inspect_bind few with ⟨e, outcome, rfl, rfl⟩ | ⟨shown, item, rest, parsed, seen, rfl⟩
    · exact Or.inr (Or.inl ⟨found, outcome, rfl, e, rfl⟩)
    rcases Trace.lift_bind_run.1 seen with ⟨e, -, rfl, -, rfl⟩ | ⟨id, identified, same⟩
    · exact Or.inr (Or.inl ⟨found, .ok shown, rfl, e, rfl⟩)
    obtain ⟨owned, hit⟩ := containerIdentity_eq_ok identified
    rcases Trace.lift_bind_run.1 same with ⟨e, -, rfl, -, rfl⟩ | ⟨_, -, alone⟩
    · exact Or.inr (Or.inl ⟨found, .ok shown, rfl, e, rfl⟩)
    refine Or.inr (Or.inr ⟨found, shown, item, id, parsed, owned, hit, ?_⟩)
    rcases boundedCommand_bind alone with ⟨e, rfl, -, rfl⟩ | ⟨out, rest, gone, rfl⟩
    · exact ⟨_, rfl, Or.inl ⟨e, rfl, rfl⟩⟩
    rcases boundedCommand_bind gone with ⟨e, rfl, -, rfl⟩ | ⟨left, rest, last, rfl⟩
    · exact ⟨_, rfl, Or.inr ⟨out, _, rfl, fun _ answered => by cases answered⟩⟩
    rcases Trace.lift_bind_run.1 last with ⟨e, -, rfl, -, rfl⟩ | ⟨_, checked, done⟩
    · exact ⟨_, rfl, Or.inr ⟨out, _, rfl, fun _ answered => by cases answered⟩⟩
    obtain ⟨rfl, -, rfl⟩ := Trace.pure_run.1 done
    refine ⟨_, rfl, Or.inr ⟨out, _, rfl, fun record answered => ?_⟩⟩
    cases answered
    exact ⟨⟨left, rfl, lists_of_strip (need_eq_ok.1 checked)⟩, rfl⟩

/-- **A removal follows the inspection** that shows the container to be the run's own. -/
theorem cleanupContainer_removes
    (run : cleanupContainer host name known imageId planHash log s = (r, s', events))
    {before after : List Event} {id : String} {o : Except PyError Bytes}
    (whole : events = before ++ .command (.containerRm id) o :: after) :
    ∃ found shown item, before = [.command (.containerLs name) (.ok found),
        .command (.containerInspect name) (.ok shown)] ∧
      objectJson host.loads shown = .ok item ∧ Owned item name imageId planHash id ∧
      (known = none ∨ known = some id) := by
  have listed : Event.command (.containerRm id) o ∈ events := by
    rw [whole]
    exact List.mem_append_right _ List.mem_cons_self
  rcases cleanupContainer_cases run with ⟨first, rfl, -⟩ | ⟨found, shown, rfl, -⟩ |
      ⟨found, shown, item, id', parsed, owned, hit, last, rfl, ending⟩
  · simp at listed
  · simp at listed
  · have once : ∃ out rest, last = .command (.containerRm id') out :: rest ∧
        ∀ e ∈ rest, ¬ IsContainerRm e := by
      rcases ending with ⟨e, rfl, -⟩ | ⟨out, left, rfl, -⟩
      · exact ⟨_, [], rfl, fun e inside => by cases inside⟩
      · refine ⟨_, _, rfl, fun e inside => ?_⟩
        rw [List.mem_singleton.1 inside]
        rintro ⟨id, o, same⟩
        cases same
    obtain ⟨out, rest, rfl, others⟩ := once
    obtain ⟨here, same, -⟩ := append_cons_unique (p := IsContainerRm) whole ⟨id, o, rfl⟩ (by
      intro e inside
      rintro ⟨id, o, rfl⟩
      simp at inside) others
    cases same
    exact ⟨found, shown, item, here, parsed, owned, hit⟩

/-- **A completed cleanup ends with a lookup that lists nothing.** -/
theorem cleanupContainer_absent {record : ContainerRecord}
    (run : cleanupContainer host name known imageId planHash log s = (.ok record, s', events)) :
    ∃ start left, events = start ++ [.command (.containerLs name) (.ok left)] ∧ Lists left [] := by
  rcases cleanupContainer_cases run with ⟨first, rfl, completed⟩ | ⟨found, shown, rfl, e, failed⟩ |
      ⟨found, shown, item, id, -, -, -, last, rfl, ⟨e, rfl, failed⟩ | ⟨out, left, rfl, completed⟩⟩
  · obtain ⟨⟨raw, rfl, nothing⟩, -⟩ := completed record rfl
    exact ⟨[], raw, rfl, nothing⟩
  · cases failed
  · cases failed
  · obtain ⟨⟨raw, rfl, nothing⟩, -⟩ := completed record rfl
    exact ⟨[_, _, _], raw, rfl, nothing⟩

end Container

/-! ## The cleanup of the image -/

section Image

variable {host : Host} {σ : Type} {tag imageId : String} {preexisting imported : Bool}
  {log events : List Event} {s s' : σ} {r : Except PyError ImageRecord}

/-- A preserved image is only looked up. -/
theorem cleanupImage_preserved
    (run : cleanupImage host tag imageId true imported log s = (r, s', events)) :
    (∃ first, events = [.command (.imageLs none) first] ∧ ∃ e, r = .error e) ∨
    ∃ first last, events = [.command (.imageLs none) (.ok first),
      .command (.imageLs (some tag)) last] ∧ ∀ record, r = .ok record →
        ∃ raw, last = .ok raw ∧ parseIds raw = .ok ∅ := by
  unfold cleanupImage at run
  rw [if_pos rfl] at run
  rcases imageIds_bind run with ⟨e, outcome, rfl, rfl⟩ | ⟨first, ids, rest, -, here, rfl⟩
  · exact Or.inl ⟨outcome, rfl, e, rfl⟩
  rcases Trace.lift_bind_run.1 here with ⟨e, -, rfl, -, rfl⟩ | ⟨_, -, there⟩
  · exact Or.inl ⟨.ok first, rfl, e, rfl⟩
  rcases imageIds_bind there with ⟨e, outcome, rfl, rfl⟩ | ⟨raw, ids, rest, parsed, last, rfl⟩
  · exact Or.inr ⟨first, outcome, rfl, fun _ answered => by cases answered⟩
  rcases Trace.lift_bind_run.1 last with ⟨e, -, rfl, -, rfl⟩ | ⟨_, empty, done⟩
  · exact Or.inr ⟨first, .ok raw, rfl, fun _ answered => by cases answered⟩
  obtain ⟨rfl, -, rfl⟩ := Trace.pure_run.1 done
  refine Or.inr ⟨first, .ok raw, rfl, fun _ _ => ⟨raw, rfl, ?_⟩⟩
  rw [parsed, of_decide_eq_true (need_eq_ok.1 empty)]

/-- **Where the cleanup of an imported image can stop**: at the lookup, at the
inspection, at the removal of the run's own tag, or at the last lookup. -/
theorem cleanupImage_cases
    (run : cleanupImage host tag imageId false imported log s = (r, s', events)) :
    (∃ first, events = [.command (.imageLs (some tag)) first] ∧ ∀ record, r = .ok record →
      ∃ raw, first = .ok raw ∧ parseIds raw = .ok ∅) ∨
    (∃ found shown, events = [.command (.imageLs (some tag)) (.ok found),
      .command (.imageInspect tag) shown] ∧ ∃ e, r = .error e) ∨
    ∃ found shown item, parseIds found = .ok {imageId} ∧
      objectJson host.loads shown = .ok item ∧ item.get "Id" = .ok (.str imageId) ∧
      ∃ last, events = [.command (.imageLs (some tag)) (.ok found),
          .command (.imageInspect tag) (.ok shown)] ++ last ∧
        ((∃ e, last = [.command (.imageRm tag) (.error e)] ∧ r = .error e) ∨
          ∃ out left, last = [.command (.imageRm tag) (.ok out),
            .command (.imageLs (some tag)) left] ∧ ∀ record, r = .ok record →
              ∃ raw, left = .ok raw ∧ parseIds raw = .ok ∅) := by
  unfold cleanupImage at run
  rw [if_neg (by decide)] at run
  rcases imageIds_bind run with ⟨e, outcome, rfl, rfl⟩ | ⟨found, ids, rest, listed, looked, rfl⟩
  · exact Or.inl ⟨outcome, rfl, fun _ answered => by cases answered⟩
  split at looked
  · rename_i nothing
    obtain ⟨rfl, -, rfl⟩ := Trace.pure_run.1 looked
    exact Or.inl ⟨_, rfl, fun _ _ => ⟨found, rfl, by rw [listed, nothing]⟩⟩
  · rcases Trace.lift_bind_run.1 looked with ⟨e, -, rfl, -, rfl⟩ | ⟨_, alone, single⟩
    · exact Or.inl ⟨_, rfl, fun _ answered => by cases answered⟩
    rcases inspect_bind single with ⟨e, outcome, rfl, rfl⟩ | ⟨shown, item, rest, parsed, seen, rfl⟩
    · exact Or.inr (Or.inl ⟨found, outcome, rfl, e, rfl⟩)
    rcases Trace.lift_bind_run.1 seen with ⟨e, -, rfl, -, rfl⟩ | ⟨id, identified, read⟩
    · exact Or.inr (Or.inl ⟨found, .ok shown, rfl, e, rfl⟩)
    rcases Trace.lift_bind_run.1 read with ⟨e, -, rfl, -, rfl⟩ | ⟨_, hit, same⟩
    · exact Or.inr (Or.inl ⟨found, .ok shown, rfl, e, rfl⟩)
    rcases Trace.lift_bind_run.1 same with ⟨e, -, rfl, -, rfl⟩ | ⟨tags, -, tagged⟩
    · exact Or.inr (Or.inl ⟨found, .ok shown, rfl, e, rfl⟩)
    rcases Trace.lift_bind_run.1 tagged with ⟨e, -, rfl, -, rfl⟩ | ⟨member, -, checked⟩
    · exact Or.inr (Or.inl ⟨found, .ok shown, rfl, e, rfl⟩)
    rcases Trace.lift_bind_run.1 checked with ⟨e, -, rfl, -, rfl⟩ | ⟨_, -, removing⟩
    · exact Or.inr (Or.inl ⟨found, .ok shown, rfl, e, rfl⟩)
    have only : parseIds found = .ok {imageId} := by
      rw [listed, of_decide_eq_true (need_eq_ok.1 alone)]
    rw [Json.eq_str (need_eq_ok.1 hit)] at identified
    refine Or.inr (Or.inr ⟨found, shown, item, only, parsed, identified, ?_⟩)
    rcases boundedCommand_bind removing with ⟨e, rfl, -, rfl⟩ | ⟨out, rest, gone, rfl⟩
    · exact ⟨_, rfl, Or.inl ⟨e, rfl, rfl⟩⟩
    rcases imageIds_bind gone with ⟨e, outcome, rfl, rfl⟩ | ⟨left, ids, rest, after, last, rfl⟩
    · exact ⟨_, rfl, Or.inr ⟨out, _, rfl, fun _ answered => by cases answered⟩⟩
    rcases Trace.lift_bind_run.1 last with ⟨e, -, rfl, -, rfl⟩ | ⟨_, empty, done⟩
    · exact ⟨_, rfl, Or.inr ⟨out, _, rfl, fun _ answered => by cases answered⟩⟩
    obtain ⟨rfl, -, rfl⟩ := Trace.pure_run.1 done
    refine ⟨_, rfl, Or.inr ⟨out, _, rfl, fun _ _ => ⟨left, rfl, ?_⟩⟩⟩
    rw [after, of_decide_eq_true (need_eq_ok.1 empty)]

/-- **A removal of a tag follows the lookup and the inspection** that show it to
name the expected image. -/
theorem cleanupImage_removes
    (run : cleanupImage host tag imageId preexisting imported log s = (r, s', events))
    {before after : List Event} {tag' : String} {o : Except PyError Bytes}
    (whole : events = before ++ .command (.imageRm tag') o :: after) :
    preexisting = false ∧ tag' = tag ∧ ∃ found shown item,
      before = [.command (.imageLs (some tag)) (.ok found),
        .command (.imageInspect tag) (.ok shown)] ∧
      parseIds found = .ok {imageId} ∧ objectJson host.loads shown = .ok item ∧
      item.get "Id" = .ok (.str imageId) := by
  have listed : Event.command (.imageRm tag') o ∈ events := by
    rw [whole]
    exact List.mem_append_right _ List.mem_cons_self
  cases preexisting with
  | true =>
      rcases cleanupImage_preserved run with ⟨first, rfl, -⟩ | ⟨first, last, rfl, -⟩
      · simp at listed
      · simp at listed
  | false =>
      rcases cleanupImage_cases run with ⟨first, rfl, -⟩ | ⟨found, shown, rfl, -⟩ |
          ⟨found, shown, item, only, parsed, identified, last, rfl, ending⟩
      · simp at listed
      · simp at listed
      · have once : ∃ out rest, last = .command (.imageRm tag) out :: rest ∧
            ∀ e ∈ rest, ¬ IsImageRm e := by
          rcases ending with ⟨e, rfl, -⟩ | ⟨out, left, rfl, -⟩
          · exact ⟨_, [], rfl, fun e inside => by cases inside⟩
          · refine ⟨_, _, rfl, fun e inside => ?_⟩
            rw [List.mem_singleton.1 inside]
            rintro ⟨tag, o, same⟩
            cases same
        obtain ⟨out, rest, rfl, others⟩ := once
        obtain ⟨here, same, -⟩ := append_cons_unique (p := IsImageRm) whole ⟨tag', o, rfl⟩ (by
          intro e inside
          rintro ⟨tag, o, rfl⟩
          simp at inside) others
        cases same
        exact ⟨rfl, rfl, found, shown, item, here, only, parsed, identified⟩

/-- **A completed cleanup ends with a lookup that lists nothing under the tag.** -/
theorem cleanupImage_absent {record : ImageRecord}
    (run : cleanupImage host tag imageId preexisting imported log s = (.ok record, s', events)) :
    ∃ start left, events = start ++ [.command (.imageLs (some tag)) (.ok left)] ∧
      parseIds left = .ok ∅ := by
  cases preexisting with
  | true =>
      rcases cleanupImage_preserved run with ⟨first, rfl, e, failed⟩ | ⟨first, last, rfl, completed⟩
      · cases failed
      · obtain ⟨raw, rfl, nothing⟩ := completed record rfl
        exact ⟨[_], raw, rfl, nothing⟩
  | false =>
      rcases cleanupImage_cases run with ⟨first, rfl, completed⟩ | ⟨found, shown, rfl, e, failed⟩ |
          ⟨found, shown, item, -, -, -, last, rfl, ⟨e, rfl, failed⟩ | ⟨out, left, rfl, completed⟩⟩
      · obtain ⟨raw, rfl, nothing⟩ := completed record rfl
        exact ⟨[], raw, rfl, nothing⟩
      · cases failed
      · cases failed
      · obtain ⟨raw, rfl, nothing⟩ := completed record rfl
        exact ⟨[_, _, _], raw, rfl, nothing⟩

end Image

end InverterGateway.Smoke.Runtime

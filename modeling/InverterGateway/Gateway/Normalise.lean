/-
# Gateway.Normalise — command payloads are normal forms

`controllerPayload` passes every payload on unchanged except a toggle, which it
rebuilds from the flag and the switch position.  `controllerPayload_cases` says
once what an accepted body looks like; from it, normalising again changes
nothing, and a body with a key too many or too few is refused.
-/
import InverterGateway.Gateway.Whitelist

namespace InverterGateway.Gateway

open InverterGateway.Theory

set_option autoImplicit false

/-! ## Keys of an object -/

namespace Entries

variable {F : Type}

/-- The object without a key. -/
def remove (m : Entries F) (key : String) : Entries F := m.filter fun entry => entry.1 ≠ key

/-- A new key is one entry more. -/
theorem length_insert {m : Entries F} {key : String} (fresh : m.get key = none) (value : Value F) :
    (m.insert key value).length = m.length + 1 := by
  induction m with
  | nil => rfl
  | cons entry rest ih =>
      obtain ⟨k, v⟩ := entry
      simp only [get] at fresh
      split at fresh
      · cases fresh
      · rename_i other
        simp only [insert, if_neg other]
        split
        · rfl
        · rw [List.length_cons, ih fresh, List.length_cons]

/-- Removing a key that is there leaves fewer entries. -/
theorem length_remove {m : Entries F} {key : String} (found : (m.get key).isSome = true) :
    (m.remove key).length < m.length := by
  induction m with
  | nil => cases found
  | cons entry rest ih =>
      obtain ⟨k, v⟩ := entry
      by_cases same : k = key
      · have shorter : (remove ((k, v) :: rest) key).length ≤ rest.length := by
          rw [remove, List.filter_cons_of_neg (by simp [same])]
          exact List.length_filter_le _ _
        rw [List.length_cons]
        omega
      · have kept : remove ((k, v) :: rest) key = (k, v) :: remove rest key := by
          rw [remove, List.filter_cons_of_pos (by simp [same])]
          rfl
        simp only [get, if_neg same] at found
        rw [kept, List.length_cons, List.length_cons]
        exact Nat.succ_lt_succ (ih found)

end Entries

/-! ## Accepted bodies -/

section Payloads

variable {F : Type}

/-- How many keys the body of a command has. -/
def payloadSize : String → Nat
  | "toggle" => 2
  | "dry_run" => 1
  | "set_ess_mode" => 2
  | "electricity_tariff" => 3
  | "setpoint_override" => 2
  | _ => 0

/-- The values that name a switch position. -/
inductive Switches : Value F → Bool → Prop where
  | bool (b : Bool) : Switches (.bool b) b
  | zero {v : Value F} (integer : v.asI64 = some 0) : Switches v false
  | one {v : Value F} (integer : v.asI64 = some 1) : Switches v true
  | on {s : String} (word : Text.toAsciiLowercase (Text.trim s) ∈ ["on", "true", "1"]) :
      Switches (.string s) true
  | off {s : String} (word : Text.toAsciiLowercase (Text.trim s) ∈ ["off", "false", "0"]) :
      Switches (.string s) false

/-- A body names a flag, bare or with its prefix, and a switch position. -/
structure Toggles (body : Value F) (flag : String) (enabled : Bool) : Prop where
  known : flag ∈ controlFlags
  entity : ∃ s, body.get "entity" = some (.string s) ∧
    (Text.trim s = flag ∨ Text.trim s = "input_boolean." ++ flag)
  state : ∃ v, body.get "state" = some v ∧ Switches v enabled

/-- The normal form of a toggle. -/
def toggleForm (flag : String) (enabled : Bool) : Value F :=
  .object [("entity", .string flag), ("state", .string (if enabled then "on" else "off"))]

theorem toggleState_switches {entry : Option (Value F)} {enabled : Bool}
    (known : toggleState entry = some enabled) : ∃ v, entry = some v ∧ Switches v enabled := by
  unfold toggleState at known
  split at known
  · rename_i value
    obtain rfl := Option.some.inj known
    exact ⟨_, rfl, .bool value⟩
  · rename_i n
    split at known
    · rename_i zero
      obtain rfl := Option.some.inj known
      exact ⟨_, rfl, .zero zero⟩
    · split at known
      · rename_i one
        obtain rfl := Option.some.inj known
        exact ⟨_, rfl, .one one⟩
      · cases known
  · rename_i s
    refine ⟨_, rfl, ?_⟩
    split at known
    · rename_i word; cases known; exact .on (by rw [word]; decide)
    · rename_i word; cases known; exact .on (by rw [word]; decide)
    · rename_i word; cases known; exact .on (by rw [word]; decide)
    · rename_i word; cases known; exact .off (by rw [word]; decide)
    · rename_i word; cases known; exact .off (by rw [word]; decide)
    · rename_i word; cases known; exact .off (by rw [word]; decide)
    · cases known
  · cases known

theorem toggleKey_names (s : String) :
    Text.trim s = toggleKey s ∨ Text.trim s = "input_boolean." ++ toggleKey s := by
  unfold toggleKey
  dsimp only
  cases stripped : Text.stripPrefix (Text.trim s) "input_boolean." with
  | none => exact Or.inl rfl
  | some rest =>
      exact Or.inr (Text.stripPrefix_eq_some.1 stripped)

theorem togglePayload_eq_ok {m : Entries F} {p : Value F} (accepted : togglePayload m = .ok p) :
    m.length = 2 ∧ ∃ flag enabled, Toggles (.object m) flag enabled ∧ p = toggleForm flag enabled := by
  unfold togglePayload at accepted
  split at accepted
  · cases accepted
  rename_i size
  split at accepted
  · cases accepted
  rename_i entity found
  split at accepted
  · cases accepted
  rename_i known
  split at accepted
  · cases accepted
  rename_i enabled position
  cases accepted
  simp only [Bool.not_eq_true', Bool.not_eq_false, List.contains_iff_mem] at known
  obtain ⟨v, entry, named⟩ := Option.bind_eq_some_iff.1 found
  obtain rfl := Value.asStr_eq_some.1 named
  exact ⟨not_not.1 size, _, enabled,
    ⟨known, ⟨entity, entry, toggleKey_names entity⟩, toggleState_switches position⟩, rfl⟩

/-- A normal form is its own normal form. -/
theorem togglePayload_form {flag : String} (known : flag ∈ controlFlags) (enabled : Bool) :
    togglePayload (F := F) [("entity", .string flag),
      ("state", .string (if enabled then "on" else "off"))] = .ok (toggleForm flag enabled) := by
  have bare : ∀ flag ∈ controlFlags, toggleKey flag = flag := by decide
  have listed : controlFlags.contains flag = true := List.contains_iff_mem.2 known
  have position : toggleState (F := F) (some (.string (if enabled then "on" else "off"))) =
      some enabled := by
    cases enabled <;> rfl
  have entity : Entries.get (F := F) [("entity", .string flag),
      ("state", .string (if enabled then "on" else "off"))] "entity" = some (.string flag) := rfl
  have state : Entries.get (F := F) [("entity", .string flag),
      ("state", .string (if enabled then "on" else "off"))] "state" =
        some (.string (if enabled then "on" else "off")) := rfl
  simp only [togglePayload, List.length_cons, List.length_nil, entity, state, Option.bind_some,
    Value.asStr, bare flag known, listed, position]
  rfl

variable [Binary64 F]

/-- What an accepted body looks like, and what becomes of it. -/
theorem controllerPayload_cases {name : String} {body p : Value F}
    (accepted : controllerPayload name body = .ok p) :
    ∃ m, body = .object m ∧ m.length = payloadSize name ∧
      if name = "toggle" then ∃ flag enabled, Toggles body flag enabled ∧ p = toggleForm flag enabled
      else p = body := by
  unfold controllerPayload at accepted
  split at accepted
  · cases accepted
  rename_i m object
  obtain rfl := Value.asObject_eq_some.1 object
  refine ⟨m, rfl, ?_⟩
  split at accepted
  · exact togglePayload_eq_ok accepted
  · split at accepted
    · rename_i ok
      cases accepted
      simp only [Bool.and_eq_true, beq_iff_eq] at ok
      exact ⟨ok.1, rfl⟩
    · cases accepted
  · split at accepted
    · rename_i empty
      cases accepted
      obtain rfl := List.isEmpty_iff.1 empty
      exact ⟨rfl, rfl⟩
    · cases accepted
  · split at accepted
    · rename_i ok
      cases accepted
      unfold validateEssSelection at ok
      split at ok
      · rename_i valid
        simp only [Bool.and_eq_true] at valid
        have size : m.length = 2 := by simpa [Value.asObject] using valid.1.1
        exact ⟨size, rfl⟩
      · cases ok
    · cases accepted
  · split at accepted
    · rename_i ok
      cases accepted
      simp only [Bool.and_eq_true, beq_iff_eq] at ok
      exact ⟨ok.1.1.1.1, rfl⟩
    · cases accepted
  · split at accepted
    · rename_i ok
      cases accepted
      simp only [Bool.and_eq_true, beq_iff_eq] at ok
      exact ⟨ok.1.1, rfl⟩
    · cases accepted
  · cases accepted

/-- A body of another size is refused. -/
theorem controllerPayload_refuses {name : String} {m : Entries F} (other : m.length ≠ payloadSize name) :
    ∃ e, controllerPayload name (.object m) = .error e := by
  cases verdict : controllerPayload name (.object m) with
  | error e => exact ⟨e, rfl⟩
  | ok p =>
      obtain ⟨m', same, size, -⟩ := controllerPayload_cases verdict
      cases same
      exact absurd size other

/-- **Command normalisation is idempotent and strict.** -/
theorem normalisation_strict (name : String) (body p : Value F)
    (accepted : controllerPayload name body = .ok p) :
    (∃ m, p = .object m) ∧ controllerPayload name p = .ok p ∧
      (name ≠ "toggle" → p = body) ∧
      (name = "toggle" → ∃ flag enabled, Toggles body flag enabled ∧ Toggles p flag enabled ∧
        p = toggleForm flag enabled) ∧
      ∀ m : Entries F, body = .object m →
        (∀ key value, m.get key = none →
          ∃ e, controllerPayload name (.object (m.insert key value)) = .error e) ∧
        (∀ key, (m.get key).isSome = true →
          ∃ e, controllerPayload name (.object (m.remove key)) = .error e) := by
  obtain ⟨m, rfl, size, shape⟩ := controllerPayload_cases accepted
  have strict : ∀ m' : Entries F, Value.object m = .object m' →
      (∀ key value, m'.get key = none →
        ∃ e, controllerPayload name (.object (m'.insert key value)) = .error e) ∧
      (∀ key, (m'.get key).isSome = true →
        ∃ e, controllerPayload name (.object (m'.remove key)) = .error e) := by
    rintro m' ⟨⟩
    refine ⟨fun key value fresh => controllerPayload_refuses ?_,
      fun key found => controllerPayload_refuses ?_⟩
    · rw [Entries.length_insert fresh, size]
      omega
    · have fewer := Entries.length_remove found
      omega
  by_cases toggle : name = "toggle"
  · rw [if_pos toggle] at shape
    obtain ⟨flag, enabled, toggles, rfl⟩ := shape
    subst toggle
    have again : Toggles (toggleForm flag enabled : Value F) flag enabled := by
      have bare : ∀ flag ∈ controlFlags, Text.trim flag = flag := by decide
      refine ⟨toggles.known, ⟨flag, rfl, Or.inl (bare flag toggles.known)⟩, _, rfl, ?_⟩
      cases enabled with
      | false => exact .off (by decide)
      | true => exact .on (by decide)
    exact ⟨⟨_, rfl⟩, togglePayload_form toggles.known enabled, fun other => absurd rfl other,
      fun _ => ⟨flag, enabled, toggles, again, rfl⟩, strict⟩
  · rw [if_neg toggle] at shape
    subst shape
    exact ⟨⟨m, rfl⟩, accepted, fun _ => rfl, fun same => absurd same toggle, strict⟩

end Payloads

/-- A padded, prefixed flag and a number: normalised once and for all. -/
theorem normalisation_strict_toggle :
    controllerPayload (F := Int) "toggle" (toggleForm "no_feed" true) =
      .ok (toggleForm "no_feed" true) := by
  have accepted : controllerPayload (F := Int) "toggle"
      (.object [("entity", .string " input_boolean.no_feed"), ("state", .number (.posInt 1))]) =
        .ok (toggleForm "no_feed" true) := by rfl
  exact (normalisation_strict "toggle" _ _ accepted).2.1

end InverterGateway.Gateway

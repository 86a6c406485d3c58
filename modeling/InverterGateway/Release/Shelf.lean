/-
# Release.Shelf — a platform that exists

The results about the repository's runs take the codecs and hashes of the
platform as given, with their laws.  Here is one platform that has them: a shelf
of ledgers, each written as its place on the shelf, with every other ledger
written out in full.  `Rehearsal` is a repository on such a shelf, with two
reservations and two publications that all succeed.
-/
import InverterGateway.Release.Publish
import InverterGateway.Release.Ledger
import Mathlib.Tactic.DeriveCountable
import Mathlib.Data.Countable.Basic
import Mathlib.Logic.Encodable.Basic
import Mathlib.Logic.Equiv.List

namespace InverterGateway.Release

set_option autoImplicit false

open InverterGateway.Theory

/-! ## The platform -/

theorem digitsValue_pad (width n : Nat) : Text.digitsValue (pad width n) = n := by
  have zeros : ∀ k, (List.replicate k '0').foldl
      (fun n (c : Char) => 10 * n + (c.toNat - '0'.toNat)) 0 = 0 := by
    intro k
    induction k with
    | zero => rfl
    | succ k ih => rw [List.replicate_succ, List.foldl_cons]; exact ih
  rw [pad, Text.digitsValue, List.foldl_append, zeros]
  exact Text.digitsValue_toDigits n

/-- Forty digits for each byte. -/
def spell (raw : Bytes) : String := String.ofList (raw.flatMap fun b => pad 40 b.toNat)

theorem spell_injective : Function.Injective spell := by
  have width : ∀ b : UInt8, (pad 40 b.toNat).length = 40 := by
    intro b
    have bound : b.toNat < 10 ^ 3 := by have := b.toNat_lt; omega
    have short := (Nat.length_toDigits_le_iff (b := 10) (by omega) (k := 3) (by omega)).2 bound
    rw [pad, List.length_append, List.length_replicate]
    omega
  have general : ∀ raw raw' : Bytes, (raw.flatMap fun b => pad 40 b.toNat) =
      (raw'.flatMap fun b => pad 40 b.toNat) → raw = raw' := by
    intro raw
    induction raw with
    | nil =>
        intro raw' same
        cases raw' with
        | nil => rfl
        | cons b rest =>
            have lengths := congrArg List.length same
            rw [List.flatMap_cons, List.length_append, width, List.flatMap_nil,
              List.length_nil] at lengths
            omega
    | cons b rest ih =>
        intro raw' same
        cases raw' with
        | nil =>
            have lengths := congrArg List.length same
            rw [List.flatMap_cons, List.length_append, width, List.flatMap_nil,
              List.length_nil] at lengths
            omega
        | cons b' rest' =>
            rw [List.flatMap_cons, List.flatMap_cons] at same
            obtain ⟨first, others⟩ := List.append_inj same (by rw [width, width])
            have values := congrArg Text.digitsValue first
            rw [digitsValue_pad, digitsValue_pad] at values
            rw [UInt8.toNat_inj.1 values, ih rest' others]
  intro raw raw' same
  refine general raw raw' ?_
  have lists := congrArg String.toList same
  rwa [spell, spell, String.toList_ofList, String.toList_ofList] at lists

instance countable_string : Countable String :=
  ⟨fun s => Encodable.encode (s.toList.map Char.toNat), fun _ _ same =>
    String.toList_inj.1 (List.map_injective_iff.2 (fun _ _ => Char.toNat_inj.1)
      (Encodable.encode_injective same))⟩

deriving instance Countable for Sequence
deriving instance Countable for Plan
deriving instance Countable for Reservation
deriving instance Countable for Ledger

/-- A number for each ledger. -/
noncomputable def Ledger.code : Ledger → Nat := (exists_injective_nat Ledger).choose

theorem Ledger.code_injective : Function.Injective Ledger.code :=
  (exists_injective_nat Ledger).choose_spec

open Classical in
/-- The ledger with a number, if its keys are distinct. -/
noncomputable def Ledger.ofCode (n : Nat) : Except Fault Ledger :=
  if known : ∃ s : Ledger, s.code = n ∧ s.keys.Nodup then .ok known.choose
  else .error (.release "Invalid JSON")

/-- The platform on which each of a few ledgers is written as one byte, its place
in a list; the others are written out. -/
noncomputable def shelf (held : List Ledger) (small : held.length ≤ 256)
    (distinct : ∀ s ∈ held, s.keys.Nodup) : Platform where
  encode s := if s ∈ held then [UInt8.ofNat (held.idxOf s)] else 0 :: List.replicate (s.code + 1) 0
  parse raw := match raw with
    | [place] => match held[place.toNat]? with
      | some s => .ok s
      | none => .error (.release "Invalid JSON")
    | raw => Ledger.ofCode (raw.length - 2)
  blobSha := spell
  sha256 := spell
  parse_encode := by
    intro s keys
    refine ⟨s, ?_, ⟨rfl, rfl, rfl, .refl _⟩⟩
    by_cases here : s ∈ held
    · have place := List.idxOf_lt_length_of_mem here
      rw [if_pos here]
      dsimp only
      rw [UInt8.toNat_ofNat_of_lt' (by show _ < 256; omega), List.getElem?_eq_getElem place,
        List.getElem_idxOf]
    · rw [if_neg here]
      have long : (0 :: List.replicate (s.code + 1) (0 : UInt8)).length - 2 = s.code := by simp
      have known : ∃ t : Ledger, t.code = s.code ∧ t.keys.Nodup := ⟨s, rfl, keys⟩
      have decoded : Ledger.ofCode s.code = .ok s := by
        rw [Ledger.ofCode, dif_pos known, Ledger.code_injective known.choose_spec.1]
      rw [List.replicate_succ]
      dsimp only
      rw [List.replicate_succ] at long
      rw [long, decoded]
  parse_keys := by
    intro raw s parsed
    split at parsed
    · split at parsed
      · rename_i found
        cases parsed
        exact distinct _ (List.mem_of_getElem? found)
      · cases parsed
    · unfold Ledger.ofCode at parsed
      split at parsed
      · rename_i known
        cases parsed
        exact known.choose_spec.2
      · cases parsed
  blobSha_injective := spell_injective
  sha256_injective := spell_injective


/-! ## A repository -/

namespace Rehearsal

/-- A run asks for a beta of 1.2.3. -/
def request (run : Int) : Reserve where
  policy := policy
  base := "1.2.3"
  channel := "beta"
  source_sha := sha
  run_id := run
  attempt := 1
  now := ⟨2026, 8, 1, 5, 30, 0, by decide⟩
  parent := none

/-- What it publishes. -/
def publication (n run : Int) : Publication where
  plan := plan n
  run_id := run
  parent := none
  stage := [("gateway", [1, 2, 3]), ("gateway.sig", [4])]
  body := "run " ++ toString run
  distinct := by decide

/-- Runs 7 and 8 reserve a build number each and publish in that order. -/
def jobs : Fin 4 → Job
  | 0 => .reserve (request 7)
  | 1 => .reserve (request 8)
  | 2 => .publish (publication 1 7)
  | 3 => .publish (publication 2 8)

def ledger₁ : Ledger := ⟨1, 1, 0, [("7", ⟨plan 1, some none, []⟩)]⟩

def ledger₂ : Ledger :=
  ⟨1, 2, 0, [("7", ⟨plan 1, some none, []⟩), ("8", ⟨plan 2, some none, []⟩)]⟩

noncomputable def platform : Platform :=
  shelf [ledger₁, ledger₂, { ledger₂ with publication_floor := 1 },
    { ledger₂ with publication_floor := 2 }] (by decide) (by decide)

def start : GitHub (Fin 4) := ⟨none, false, [], [], 1, []⟩

/-- A job left alone with GitHub on a good day. -/
noncomputable def ran (i : Fin 4) (w : GitHub (Fin 4)) : Except Fault Outcome × GitHub (Fin 4) :=
  ((jobs i).program platform digest).alone (fun w q => w.respond platform i q) w

/-- GitHub after the first jobs. -/
noncomputable def world : Nat → GitHub (Fin 4)
  | 0 => start
  | n + 1 => (ran (Fin.ofNat 4 n) (world n)).2

def planOf : Except Fault Outcome → Option Plan
  | .ok (.plan p) => some p
  | _ => none

def releaseOf : Except Fault Outcome → Option ReleaseData
  | .ok (.release r) => some r
  | _ => none

theorem of_planOf {o : Except Fault Outcome} {p : Plan} (answered : planOf o = some p) :
    o = .ok (.plan p) := by
  rcases o with e | (q | r)
  · cases answered
  · cases answered
    rfl
  · cases answered

theorem of_releaseOf {o : Except Fault Outcome} (answered : (releaseOf o).isSome) :
    ∃ r, o = .ok (.release r) := by
  rcases o with e | (q | r)
  · cases answered
  · cases answered
  · exact ⟨r, rfl⟩

set_option maxRecDepth 8000 in
theorem reserves_first : (ran 0 (world 0)).1 = .ok (.plan (plan 1)) :=
  of_planOf (by decide +kernel)

set_option maxRecDepth 8000 in
theorem reserves_second : (ran 1 (world 1)).1 = .ok (.plan (plan 2)) :=
  of_planOf (by decide +kernel)

set_option maxRecDepth 8000 in
theorem publishes_first : ∃ r, (ran 2 (world 2)).1 = .ok (.release r) :=
  of_releaseOf (by decide +kernel)

set_option maxRecDepth 8000 in
theorem publishes_second : ∃ r, (ran 3 (world 3)).1 = .ok (.release r) :=
  of_releaseOf (by decide +kernel)

/-- The first jobs are done and the others have not started. -/
structure Rehearsed (n : Nat) (s : GitHub (Fin 4) × (Fin 4 → Api Outcome)) : Prop where
  world : s.1 = world n
  unstarted : ∀ i : Fin 4, n ≤ i → s.2 i = (jobs i).program platform digest
  answered : ∀ i : Fin 4, i < n → ∀ o, (ran i (Rehearsal.world i)).1 = .ok o → s.2 i = .done o

variable {outside : GitHub (Fin 4) → GitHub (Fin 4) → Prop} {opened : GitHub (Fin 4) → Prop}

theorem rehearsed_next (i : Fin 4) {s : GitHub (Fin 4) × (Fin 4 → Api Outcome)}
    (sofar : Rehearsed i s) :
    ∃ t, Relation.ReflTransGen ((runs platform digest jobs outside opened).Under Machine.Any) s t ∧
      Rehearsed (i + 1) t := by
  obtain ⟨t, run, state, others, finished⟩ :=
    Dialogue.run_alone (GitHub.respond_serves platform i) s
  rw [sofar.unstarted i (le_refl _), sofar.world] at state finished
  refine ⟨t, run, state.trans ?_, fun j later => ?_, fun j earlier o answer => ?_⟩
  · show _ = (ran (Fin.ofNat 4 i) (world i)).2
    rw [Fin.ofNat_val_eq_self]
    rfl
  · rw [others j (fun same => by subst same; omega), sofar.unstarted j (by omega)]
  · by_cases same : j = i
    · subst same
      exact finished o answer
    · rw [others j same]
      exact sofar.answered j (by omega) o answer

theorem rehearsed_start :
    Rehearsed 0 (start, fun i => (jobs i).program platform digest) :=
  ⟨rfl, fun _ _ => rfl, fun _ less => absurd less (Nat.not_lt_zero _)⟩

/-- **All four jobs succeed**, and two of them have when the publications start. -/
theorem rehearsed (started : opened start) :
    ∃ s t u, (runs platform digest jobs outside opened).Reaches Machine.Any s ∧ Rehearsed 2 s ∧
      Relation.ReflTransGen ((runs platform digest jobs outside opened).Under Machine.Any) s t ∧
      Rehearsed 3 t ∧
      Relation.ReflTransGen ((runs platform digest jobs outside opened).Under Machine.Any) t u ∧
      Rehearsed 4 u := by
  obtain ⟨a, run₁, one⟩ := rehearsed_next 0 rehearsed_start
  obtain ⟨s, run₂, two⟩ := rehearsed_next 1 one
  obtain ⟨t, run₃, three⟩ := rehearsed_next 2 two
  obtain ⟨u, run₄, four⟩ := rehearsed_next 3 three
  exact ⟨s, t, u, ⟨_, ⟨started, rfl⟩, run₁.trans run₂⟩, two, run₃, three, run₄, four⟩

end Rehearsal

end InverterGateway.Release

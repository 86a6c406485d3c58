/-
# Theory.Fields — separated fields and canonical decimals

Joining texts at a separator and splitting them again, the trimming of padded
fields, and the decimals without leading zeros: a canonical decimal is the
rendering of its own value, so two of them with one value are one text.
-/
import InverterGateway.Theory.Text
import Mathlib.Data.List.TakeWhile

namespace InverterGateway.Theory.Text

set_option autoImplicit false

/-! ## Suffixes -/

theorem append_right_cancel {s t u : String} (same : s ++ u = t ++ u) : s = t := by
  apply toList_injective
  rw [← String.toList_inj, String.toList_append, String.toList_append] at same
  exact List.append_cancel_right same

/-- `str::ends_with` of a string pattern. -/
def endsWith (s pat : String) : Bool :=
  pat.toList.isSuffixOf s.toList

theorem endsWith_iff {s pat : String} : endsWith s pat = true ↔ pat.toList <:+ s.toList :=
  List.isSuffixOf_iff_suffix

theorem stripSuffix_eq_some {s pat t : String} : stripSuffix s pat = some t ↔ s = t ++ pat := by
  constructor
  · intro found
    unfold stripSuffix at found
    split at found
    · rename_i ends
      obtain ⟨stem, whole⟩ := List.isSuffixOf_iff_suffix.1 ends
      cases found
      apply toList_injective
      rw [String.toList_append, String.toList_ofList, ← whole, List.length_append,
        Nat.add_sub_cancel, List.take_left]
    · cases found
  · rintro rfl
    exact stripSuffix_append t pat

theorem stripSuffix_eq_none {s pat : String} : stripSuffix s pat = none ↔ ¬ endsWith s pat = true := by
  simp [stripSuffix, endsWith]

/-- From the last separator on, a list determines both of its sides. -/
theorem append_sep_last_inj {α : Type} {c : α} {a a' b b' : List α} (hb : c ∉ b) (hb' : c ∉ b') :
    a ++ c :: b = a' ++ c :: b' ↔ a = a' ∧ b = b' := by
  have front : c ∉ b.reverse := fun found => hb (List.mem_reverse.1 found)
  have front' : c ∉ b'.reverse := fun found => hb' (List.mem_reverse.1 found)
  have back : b.reverse ++ c :: a.reverse = b'.reverse ++ c :: a'.reverse ↔
      b.reverse = b'.reverse ∧ a.reverse = a'.reverse := append_sep_inj front front'
  constructor
  · intro same
    have reversed := congrArg List.reverse same
    simp only [List.reverse_append, List.reverse_cons, List.append_assoc, List.singleton_append]
      at reversed
    obtain ⟨sides, stems⟩ := back.1 reversed
    exact ⟨List.reverse_injective stems, List.reverse_injective sides⟩
  · rintro ⟨rfl, rfl⟩
    rfl

/-! ## Joining and splitting at one separator -/

/-- `[T]::join` with a separator of one character. -/
def joinAt (c : Char) (parts : List String) : String :=
  String.ofList ([c].intercalate (parts.map String.toList))

theorem joinAt_split (s : String) (c : Char) : joinAt c (split s c) = s := by
  have back : (split s c).map String.toList = s.toList.splitOn c := by
    rw [split, List.map_map]
    exact (List.map_congr_left fun _ _ => String.toList_ofList).trans (List.map_id _)
  rw [joinAt, back, List.intercalate_splitOn, String.ofList_toList]

/-- A separator between two texts splits between their parts. -/
theorem split_append_sep (s t : String) (c : Char) :
    split (s ++ String.singleton c ++ t) c = split s c ++ split t c := by
  rw [split, String.toList_append, String.toList_append, String.toList_singleton,
    List.append_assoc, List.singleton_append, List.splitOn_append_cons_self, List.map_append,
    split, split]

/-- A text without the separator is its only part. -/
theorem split_of_not_mem {s : String} {c : Char} (clear : c ∉ s.toList) : split s c = [s] := by
  rw [split, List.splitOn_eq_singleton clear, List.map_singleton, String.ofList_toList]

/-- A joined text splits into the parts of its parts. -/
theorem split_joinSpace {parts : List String} (some : parts ≠ []) :
    split (joinSpace parts) ' ' = parts.flatMap fun part => split part ' ' := by
  induction parts with
  | nil => exact absurd rfl some
  | cons first rest ih =>
      cases rest with
      | nil => rw [joinSpace, List.flatMap_singleton]
      | cons second rest =>
          have blank : " " = String.singleton ' ' := toList_injective (by rw [String.toList_singleton]; decide)
          rw [joinSpace, blank, split_append_sep, ih (List.cons_ne_nil _ _),
            List.flatMap_cons (x := first)]

theorem split_joinAt {c : Char} {parts : List String} (clear : ∀ s ∈ parts, c ∉ s.toList)
    (some : parts ≠ []) : split (joinAt c parts) c = parts := by
  have clear' : ∀ l ∈ parts.map String.toList, c ∉ l := by
    intro l listed
    obtain ⟨s, member, rfl⟩ := List.mem_map.1 listed
    exact clear s member
  have some' : parts.map String.toList ≠ [] := fun none => some (List.map_eq_nil_iff.1 none)
  rw [split, joinAt, String.toList_ofList, List.splitOn_intercalate c clear' some', List.map_map]
  exact (List.map_congr_left fun _ _ => String.ofList_toList).trans (List.map_id _)

/-- One more part joins after a separator, unless it is the first. -/
theorem joinAt_concat (c : Char) (parts : List String) (last : String) :
    joinAt c (parts ++ [last]) =
      (if parts = [] then "" else joinAt c parts ++ String.singleton c) ++ last := by
  induction parts with
  | nil =>
      rw [if_pos rfl, String.empty_append, joinAt, List.nil_append, List.map_singleton,
        List.intercalate_singleton, String.ofList_toList]
  | cons first rest ih =>
      rw [if_neg (List.cons_ne_nil _ _)]
      cases rest with
      | nil =>
          apply toList_injective
          simp [joinAt, String.toList_append, List.intercalate_cons_cons]
      | cons second rest =>
          rw [if_neg (List.cons_ne_nil _ _)] at ih
          have lists := congrArg String.toList ih
          apply toList_injective
          simp only [joinAt, String.toList_ofList, String.toList_append, String.toList_singleton,
            List.cons_append, List.map_cons, List.intercalate_cons_cons, List.append_assoc] at lists ⊢
          rw [lists]

theorem mem_intercalate {c x : Char} (l : List Char) {parts : List (List Char)} (listed : l ∈ parts)
    (inside : x ∈ l) : x ∈ [c].intercalate parts := by
  induction parts with
  | nil => cases listed
  | cons first rest ih =>
      cases rest with
      | nil =>
          obtain rfl := List.mem_singleton.1 listed
          simpa using inside
      | cons second rest =>
          rw [List.intercalate_cons_cons, List.append_assoc, List.mem_append, List.mem_append]
          rcases List.mem_cons.1 listed with rfl | later
          · exact Or.inl inside
          · exact Or.inr (Or.inr (ih later))

/-- The parts of a split text are free of the separator. -/
theorem not_mem_of_mem_split {s part : String} {c : Char} (listed : part ∈ split s c) :
    c ∉ part.toList := by
  obtain ⟨cs, found, rfl⟩ := List.mem_map.1 listed
  rw [String.toList_ofList]
  intro inside
  have general : ∀ l : List Char, ∀ field ∈ l.splitOn c, c ∉ field := by
    intro l
    induction l with
    | nil =>
        intro field listed
        simp only [List.splitOn_nil, List.mem_singleton] at listed
        simp [listed]
    | cons x xs ih =>
        intro field listed
        rw [List.splitOn_cons_eq_if_modifyHead] at listed
        by_cases hit : x = c
        · rw [if_pos (by simp [hit])] at listed
          rcases List.mem_cons.1 listed with rfl | later
          · simp
          · exact ih field later
        · rw [if_neg (by simp [hit])] at listed
          cases fields : xs.splitOn c with
          | nil => rw [fields] at listed; simp at listed
          | cons first rest =>
              rw [fields, List.modifyHead_cons] at listed
              rcases List.mem_cons.1 listed with rfl | later
              · have here := ih first (by rw [fields]; exact List.mem_cons_self)
                simp [here, Ne.symm hit]
              · exact ih field (by rw [fields]; exact List.mem_cons_of_mem _ later)
  exact general _ cs found inside

/-! ## Splitting at a text -/

/-- Split at the first occurrence of a pattern. -/
def splitFirstPattern (pat : List Char) : List Char → Option (List Char × List Char)
  | [] => if pat = [] then some ([], []) else none
  | x :: xs =>
      if pat.isPrefixOf (x :: xs) then some ([], (x :: xs).drop pat.length)
      else (splitFirstPattern pat xs).map fun ab => (x :: ab.1, ab.2)

/-- `str::split_once` at a string pattern. -/
def splitOnceText (s pat : String) : Option (String × String) :=
  (splitFirstPattern pat.toList s.toList).map fun ab => (String.ofList ab.1, String.ofList ab.2)

theorem splitFirstPattern_some {pat l a b : List Char} (found : splitFirstPattern pat l = some (a, b)) :
    l = a ++ pat ++ b := by
  induction l generalizing a with
  | nil =>
      by_cases empty : pat = []
      · simp only [splitFirstPattern, empty, if_true, Option.some.injEq, Prod.mk.injEq] at found
        obtain ⟨rfl, rfl⟩ := found
        simp [empty]
      · simp [splitFirstPattern, empty] at found
  | cons x xs ih =>
      rw [splitFirstPattern] at found
      by_cases here : pat.isPrefixOf (x :: xs) = true
      · rw [if_pos here] at found
        cases found
        rw [List.nil_append]
        exact List.prefix_iff_eq_append.1 (List.isPrefixOf_iff_prefix.1 here) |>.symm
      · rw [if_neg here] at found
        obtain ⟨⟨a', b'⟩, later, same⟩ := Option.map_eq_some_iff.1 found
        cases same
        rw [ih later]
        rfl

theorem splitOnceText_some {s pat a b : String} (found : splitOnceText s pat = some (a, b)) :
    s = a ++ pat ++ b := by
  obtain ⟨⟨x, y⟩, first, same⟩ := Option.map_eq_some_iff.1 found
  cases same
  apply toList_injective
  simpa [String.toList_append] using splitFirstPattern_some first

/-- The split of a text none of whose earlier places has the pattern. -/
theorem splitFirstPattern_first {pat a b : List Char} (nonempty : pat ≠ [])
    (first : ∀ x y, a = x ++ y → y ≠ [] → ¬ pat <+: y ++ pat ++ b) :
    splitFirstPattern pat (a ++ pat ++ b) = some (a, b) := by
  induction a with
  | nil =>
      obtain ⟨c, rest, rfl⟩ := List.exists_cons_of_ne_nil nonempty
      rw [List.nil_append, List.cons_append, splitFirstPattern, if_pos]
      · rw [← List.cons_append, List.drop_left]
      · rw [← List.cons_append, List.isPrefixOf_iff_prefix]
        exact List.prefix_append _ _
  | cons x xs ih =>
      have miss : ¬ pat <+: x :: xs ++ pat ++ b := first [] (x :: xs) rfl (List.cons_ne_nil _ _)
      have later := ih fun u v same => first (x :: u) v (by rw [same]; rfl)
      simp only [List.cons_append] at miss ⊢
      rw [splitFirstPattern, if_neg (by rwa [List.isPrefixOf_iff_prefix]), later]
      rfl

/-- A text splits at a pattern `cd…` after a stem that lacks `d` and does not end in `c`. -/
theorem splitOnceText_stem {stem pat rest : String} {c d : Char} {tail : List Char}
    (shape : pat.toList = c :: d :: tail) (without : d ∉ stem.toList)
    (last : stem.toList.getLast? ≠ some c) :
    splitOnceText (stem ++ pat ++ rest) pat = some (stem, rest) := by
  have first : ∀ x y, stem.toList = x ++ y → y ≠ [] → ¬ pat.toList <+: y ++ pat.toList ++ rest.toList := by
    intro x y whole nonempty starts
    obtain ⟨e, y', rfl⟩ := List.exists_cons_of_ne_nil nonempty
    rw [shape, List.cons_append, List.cons_append, List.cons_prefix_cons] at starts
    obtain ⟨rfl, starts⟩ := starts
    cases y' with
    | nil => exact last (by rw [whole, List.getLast?_append]; rfl)
    | cons f y'' =>
        rw [List.cons_append, List.cons_append, List.cons_prefix_cons] at starts
        obtain ⟨rfl, -⟩ := starts
        exact without (by rw [whole]; simp)
  have found := splitFirstPattern_first (by rw [shape]; exact List.cons_ne_nil _ _) first
  rw [splitOnceText, String.toList_append, String.toList_append, found]
  simp

/-- A level between two separators is a part of the split. -/
theorem mem_split_between {s level : String} {c : Char} (before after : List Char)
    (whole : s.toList = before ++ c :: (level.toList ++ c :: after)) (flat : c ∉ level.toList) :
    level ∈ split s c := by
  rw [split, whole, List.splitOn_append_cons_self, List.splitOn_append_cons_self_of_not_mem flat]
  refine List.mem_map.2 ⟨level.toList, ?_, String.ofList_toList⟩
  exact List.mem_append_right _ List.mem_cons_self

/-! ## Replacing -/

/-- Replace a nonempty pattern from left to right, with some characters of the
last match still to skip. -/
def replaceFrom (pat new : List Char) : Nat → List Char → List Char
  | _, [] => []
  | skip + 1, _ :: xs => replaceFrom pat new skip xs
  | 0, x :: xs =>
      if pat.isPrefixOf (x :: xs) then new ++ replaceFrom pat new (pat.length - 1) xs
      else x :: replaceFrom pat new 0 xs

/-- `str::replace` of a nonempty string pattern. -/
def replace (s pat new : String) : String :=
  String.ofList (replaceFrom pat.toList new.toList 0 s.toList)

/-- Replacing `ac` by `bc` in a level without `c` and its `c`: only the end of the level can match. -/
theorem replaceFrom_level {a b c : Char} (level : List Char) (flat : c ∉ level) :
    replaceFrom [a, c] [b, c] 0 (level ++ [c]) =
      if level.getLast? = some a then level.dropLast ++ [b, c] else level ++ [c] := by
  induction level with
  | nil => simp [replaceFrom, List.isPrefixOf]
  | cons x xs ih =>
      obtain ⟨other, rest⟩ := not_or.1 (List.mem_cons.not.1 flat)
      cases xs with
      | nil =>
          by_cases hit : x = a
          · simp [replaceFrom, List.isPrefixOf, hit]
          · simp [replaceFrom, List.isPrefixOf, hit, Ne.symm hit]
      | cons y ys =>
          have next : c ≠ y := fun same => rest (by rw [same]; exact List.mem_cons_self)
          have miss : [a, c].isPrefixOf (x :: y :: ys ++ [c]) = false := by
            simp [List.isPrefixOf, next]
          rw [List.cons_append, replaceFrom, ← List.cons_append, miss]
          rw [if_neg (by simp), ih rest, List.getLast?_cons_cons]
          by_cases last : (y :: ys).getLast? = some a
          · rw [if_pos last, if_pos last, List.dropLast_cons_of_ne_nil (List.cons_ne_nil _ _)]
            rfl
          · rw [if_neg last, if_neg last]
            rfl

/-- Replacing `ac` by `bc` leaves every `c` in its place. -/
theorem replaceFrom_sep {a b c : Char} (old : a ≠ c) (new : b ≠ c) :
    ∀ l, (replaceFrom [a, c] [b, c] 0 l).map (· == c) = l.map (· == c)
  | [] => rfl
  | [x] => by simp [replaceFrom, List.isPrefixOf]
  | x :: y :: ys => by
      have next := replaceFrom_sep old new (y :: ys)
      have after := replaceFrom_sep old new ys
      by_cases hit : x = a ∧ y = c
      · obtain ⟨rfl, rfl⟩ := hit
        have step : replaceFrom [x, y] [b, y] 0 (x :: y :: ys) =
            b :: y :: replaceFrom [x, y] [b, y] 0 ys := by
          simp [replaceFrom, List.isPrefixOf]
        simp [step, after, old, new]
      · have step : replaceFrom [a, c] [b, c] 0 (x :: y :: ys) =
            x :: replaceFrom [a, c] [b, c] 0 (y :: ys) := by
          have miss : ¬ [a, c].isPrefixOf (x :: y :: ys) = true := by
            rw [List.isPrefixOf_iff_prefix, List.cons_prefix_cons, List.cons_prefix_cons]
            rintro ⟨rfl, rfl, -⟩
            exact hit ⟨rfl, rfl⟩
          rw [replaceFrom, if_neg miss]
        rw [step, List.map_cons, next, List.map_cons (l := y :: ys)]

/-- Trimming the separator after a level without it. -/
theorem trimEndMatches_level {level : String} {c : Char} (flat : c ∉ level.toList) :
    trimEndMatches (level ++ String.singleton c) c = level := by
  have stops : level.toList.reverse.dropWhile (· == c) = level.toList.reverse := by
    cases reversed : level.toList.reverse with
    | nil => rfl
    | cons x xs =>
        have inside : x ∈ level.toList := by
          rw [← List.mem_reverse, reversed]
          exact List.mem_cons_self
        have other : (x == c) = false := by
          rw [beq_eq_false_iff_ne]
          exact fun same => flat (by rw [← same]; exact inside)
        rw [List.dropWhile_cons_of_neg (by rw [other]; decide)]
  rw [trimEndMatches, String.toList_append, String.toList_singleton, List.reverse_append,
    List.reverse_singleton, List.singleton_append, List.dropWhile_cons_of_pos (by simp), stops,
    List.reverse_reverse, String.ofList_toList]

example : replace "N/aN/" "N/" "W/" = "W/aW/" ∧ replace "aaa" "aa" "b" = "ba" := by decide

/-! ## Padding -/

/-- A text without whitespace. -/
def Solid (s : String) : Prop := ∀ c ∈ s.toList, isWhitespace c = false

/-- A text of whitespace only. -/
def Blank (s : String) : Prop := ∀ c ∈ s.toList, isWhitespace c = true

theorem dropWhile_padded {α : Type} {p : α → Bool} {pad l : List α} (blank : ∀ x ∈ pad, p x = true)
    (solid : ∀ x ∈ l, p x = false) : (pad ++ l).dropWhile p = l := by
  rw [List.dropWhile_append_of_pos blank]
  cases l with
  | nil => rfl
  | cons x xs => rw [List.dropWhile_cons_of_neg (by simp [solid x List.mem_cons_self])]

/-- Trimming removes whitespace padding. -/
theorem trim_padded {left s right : String} (l : Blank left) (r : Blank right) (solid : Solid s) :
    trim (left ++ s ++ right) = s := by
  by_cases none : s.toList = []
  · have empty : s = "" := toList_injective none
    subst empty
    have all : ∀ c ∈ (left ++ "" ++ right).toList, isWhitespace c = true := by
      intro c found
      simp only [String.toList_append, List.mem_append] at found
      rcases found with (here | nothing) | there
      · exact l c here
      · cases nothing
      · exact r c there
    rw [trim, List.dropWhile_eq_nil_iff.2 all]
    rfl
  · obtain ⟨x, xs, whole⟩ := List.exists_cons_of_ne_nil none
    have head : isWhitespace x = false := solid x (by rw [whole]; exact List.mem_cons_self)
    have front : (left ++ s ++ right).toList.dropWhile isWhitespace = (s ++ right).toList := by
      rw [String.append_assoc, String.toList_append, List.dropWhile_append_of_pos l,
        String.toList_append, whole, List.cons_append,
        List.dropWhile_cons_of_neg (by simp [head])]
    have back : (s ++ right).toList.reverse.dropWhile isWhitespace = s.toList.reverse := by
      rw [String.toList_append, List.reverse_append]
      exact dropWhile_padded (fun c found => r c (List.mem_reverse.1 found))
        (fun c found => solid c (List.mem_reverse.1 found))
    rw [trim, front, back, List.reverse_reverse, String.ofList_toList]

/-- Only whitespace trims to nothing. -/
theorem blank_of_trim {s : String} (nothing : (trim s).toList = []) : Blank s := by
  intro c found
  rw [trim, String.toList_ofList, List.reverse_eq_nil_iff, List.dropWhile_eq_nil_iff] at nothing
  have dropped : s.toList.dropWhile isWhitespace = [] := by
    cases kept : s.toList.dropWhile isWhitespace with
    | nil => rfl
    | cons x xs =>
        have head := List.head?_dropWhile_not isWhitespace s.toList
        rw [kept] at head
        have blank := nothing x (by rw [kept]; simp)
        rw [List.head?_cons] at head
        simp [blank] at head
  exact List.dropWhile_eq_nil_iff.1 dropped c found

/-! ## Canonical decimals -/

theorem digitsValue_toDigits (n : Nat) : digitsValue (Nat.toDigits 10 n) = n :=
  Nat.ofDigitChars_ten_toDigits

theorem digitChar_value {c : Char} (digit : isDigit c = true) :
    Nat.digitChar (c.toNat - '0'.toNat) = c := by
  simp only [isDigit, Bool.and_eq_true, decide_eq_true_eq] at digit
  have low : '0'.toNat ≤ c.toNat := digit.1
  have high : c.toNat ≤ '9'.toNat := digit.2
  have zero : '0'.toNat = 48 := by decide
  have nine : '9'.toNat = 57 := by decide
  apply Char.toNat_inj.1
  rw [Nat.toNat_digitChar_of_lt_ten (by omega)]
  omega

/-- Reading more digits appends them to the rendering of a positive number. -/
theorem toDigits_foldl (cs : List Char) (digits : ∀ c ∈ cs, isDigit c = true) :
    ∀ n, 0 < n → Nat.toDigits 10 (cs.foldl (fun n c => 10 * n + (c.toNat - '0'.toNat)) n) =
      Nat.toDigits 10 n ++ cs := by
  induction cs with
  | nil => intro n _; simp
  | cons c rest ih =>
      intro n positive
      obtain ⟨digit, others⟩ := List.forall_mem_cons.1 digits
      have small := digit_value digit
      have one : Nat.toDigits 10 (10 * n + (c.toNat - '0'.toNat)) = Nat.toDigits 10 n ++ [c] := by
        have last : Nat.toDigits 10 (c.toNat - '0'.toNat) = [c] := by
          rw [Nat.toDigits_of_lt_base (by omega), digitChar_value digit]
        rw [← Nat.toDigits_append_toDigits (by omega) positive (by omega), last]
      rw [List.foldl_cons, ih others _ (by omega), one, List.append_assoc, List.singleton_append]

/-- A digit string without a leading zero is the rendering of its value. -/
theorem toDigits_digitsValue {cs : List Char} (nonempty : cs ≠ [])
    (digits : ∀ c ∈ cs, isDigit c = true) (canonical : 1 < cs.length → cs.head? ≠ some '0') :
    Nat.toDigits 10 (digitsValue cs) = cs := by
  cases cs with
  | nil => exact absurd rfl nonempty
  | cons c rest =>
      obtain ⟨digit, others⟩ := List.forall_mem_cons.1 digits
      have small := digit_value digit
      have single : Nat.toDigits 10 (c.toNat - '0'.toNat) = [c] := by
        rw [Nat.toDigits_of_lt_base (by omega), digitChar_value digit]
      rw [digitsValue, List.foldl_cons, Nat.mul_zero, Nat.zero_add]
      cases rest with
      | nil => exact single
      | cons d rest =>
          have leading : c ≠ '0' := fun same => canonical (by simp) (by simp [same])
          have positive : 0 < c.toNat - '0'.toNat := by
            rcases Nat.eq_zero_or_pos (c.toNat - '0'.toNat) with zero | positive
            · rw [zero] at single
              have same : ['0'] = [c] := (Nat.toDigits_zero 10).symm.trans single
              cases same
              exact absurd rfl leading
            · exact positive
          rw [toDigits_foldl _ others _ positive, single, List.singleton_append]

theorem parseUnsigned_lt {bound n : Nat} {s : String} (parsed : parseUnsigned bound s = some n) :
    n < bound := by
  unfold parseUnsigned at parsed
  dsimp only at parsed
  rw [Option.ite_none_right_eq_some] at parsed
  obtain ⟨⟨-, -, fits⟩, value⟩ := parsed
  rw [Option.some.injEq] at value
  omega

/-- A rendered number parses to itself when it fits. -/
theorem parseUnsigned_toString {bound n : Nat} (fits : n < bound) :
    parseUnsigned bound (toString n) = some n := by
  have value : digitsValue (toString n).toList = n := by
    rw [Nat.toString_eq_repr, Nat.toList_repr, digitsValue_toDigits]
  rw [parseUnsigned_of_digits (digits_toString n), value, if_pos fits]

theorem toList_toString (n : Nat) : (toString n).toList = Nat.toDigits 10 n := by
  rw [Nat.toString_eq_repr, Nat.toList_repr]

/-- A rendered number of several digits does not start with a zero. -/
theorem toString_leading {n : Nat} (long : 1 < (toString n).toList.length) :
    (toString n).toList.head? ≠ some '0' := by
  rw [toList_toString] at long ⊢
  have value := digitsValue_toDigits n
  have digits : ∀ c ∈ Nat.toDigits 10 n, isDigit c = true := fun c => isDigit_of_mem_toDigits
  cases shape : Nat.toDigits 10 n with
  | nil => rw [shape] at long; simp at long
  | cons c rest =>
      rw [shape] at value long digits
      intro zero
      cases zero
      have same : digitsValue rest = n := value
      have small := digitsValue_lt rest fun c found => digits c (List.mem_cons_of_mem _ found)
      have positive : 0 < rest.length := by rw [List.length_cons] at long; omega
      have short := (Nat.length_toDigits_le_iff (b := 10) (by omega) positive).2 (same ▸ small)
      rw [shape, List.length_cons] at short
      omega

theorem toString_injective {m n : Nat} (same : toString m = toString n) : m = n := by
  have values := congrArg (fun s : String => digitsValue s.toList) same
  simp only [Nat.toString_eq_repr, Nat.toList_repr, digitsValue_toDigits] at values
  exact values

example : split "a, b,,c" ',' = ["a", " b", "", "c"] ∧ joinAt ',' ["a", "b"] = "a,b" := by decide

end InverterGateway.Theory.Text

/-
# Theory.Text — string functions by their character lists

Prefix tests, one-time and full splits at a separator, trimming and decimal
parsing, as a systems language's standard library specifies them.  Every
function goes through `String.toList`, so closed calls evaluate in the kernel,
and each has a specification that speaks of `++` only.
-/
import Mathlib.Data.List.DropRight
import Mathlib.Data.List.Infix
import Mathlib.Tactic.Ring

namespace InverterGateway.Theory.Text

set_option autoImplicit false

/-! ## Separators in lists -/

section Separator

variable {α : Type} {c : α}

/-- Up to the first separator, a list determines both of its sides. -/
theorem append_sep_inj {a a' b b' : List α} (ha : c ∉ a) (ha' : c ∉ a') :
    a ++ c :: b = a' ++ c :: b' ↔ a = a' ∧ b = b' := by
  constructor
  · intro same
    induction a generalizing a' with
    | nil =>
        cases a' with
        | nil => exact ⟨rfl, by simpa using same⟩
        | cons x xs =>
            simp only [List.nil_append, List.cons_append, List.cons.injEq] at same
            exact absurd (same.1 ▸ List.mem_cons_self) ha'
    | cons x xs ih =>
        cases a' with
        | nil =>
            simp only [List.nil_append, List.cons_append, List.cons.injEq] at same
            exact absurd (same.1 ▸ List.mem_cons_self) ha
        | cons y ys =>
            simp only [List.cons_append, List.cons.injEq] at same
            obtain ⟨rfl, rest⟩ := same
            obtain ⟨rfl, rfl⟩ := ih (List.not_mem_of_not_mem_cons ha)
              (List.not_mem_of_not_mem_cons ha') rest
            exact ⟨rfl, rfl⟩
  · rintro ⟨rfl, rfl⟩; rfl

/-- A list is split in one way at its first element of a kind. -/
theorem append_first_inj {p : α → Prop} {a a' b b' : List α} {x y : α}
    (whole : a ++ x :: b = a' ++ y :: b') (before : ∀ z ∈ a, ¬ p z) (before' : ∀ z ∈ a', ¬ p z)
    (hit : p x) (hit' : p y) : a = a' ∧ x = y ∧ b = b' := by
  induction a generalizing a' with
  | nil =>
      cases a' with
      | nil => exact ⟨rfl, List.cons.inj whole⟩
      | cons z a' =>
          rw [List.nil_append, List.cons_append, List.cons.injEq] at whole
          exact absurd (whole.1 ▸ hit) (before' z List.mem_cons_self)
  | cons w a ih =>
      cases a' with
      | nil =>
          rw [List.nil_append, List.cons_append, List.cons.injEq] at whole
          exact absurd (whole.1 ▸ hit') (before w List.mem_cons_self)
      | cons z a' =>
          rw [List.cons_append, List.cons_append, List.cons.injEq] at whole
          obtain ⟨rfl, rest⟩ := whole
          obtain ⟨rfl, others⟩ := ih rest (fun z found => before z (List.mem_cons_of_mem _ found))
            (fun z found => before' z (List.mem_cons_of_mem _ found))
          exact ⟨rfl, others⟩

/-- Prefixes of separated lists compare side by side. -/
theorem prefix_sep_iff {a a' b b' : List α} (ha : c ∉ a) (ha' : c ∉ a') :
    a ++ c :: b <+: a' ++ c :: b' ↔ a = a' ∧ b <+: b' := by
  constructor
  · rintro ⟨rest, same⟩
    rw [List.append_assoc, List.cons_append] at same
    obtain ⟨rfl, tails⟩ := (append_sep_inj ha ha').1 same
    exact ⟨rfl, rest, tails⟩
  · rintro ⟨rfl, rest, rfl⟩
    exact ⟨rest, by simp⟩

/-- Split at the first separator. -/
def splitFirst [DecidableEq α] (c : α) : List α → Option (List α × List α)
  | [] => none
  | x :: xs => if x = c then some ([], xs) else (splitFirst c xs).map fun ab => (x :: ab.1, ab.2)

theorem splitFirst_eq_some [DecidableEq α] {l a b : List α} :
    splitFirst c l = some (a, b) ↔ l = a ++ c :: b ∧ c ∉ a := by
  induction l generalizing a with
  | nil => simp [splitFirst]
  | cons x xs ih =>
      simp only [splitFirst]
      split
      · rename_i hit
        subst hit
        cases a with
        | nil => simp [eq_comm]
        | cons y ys =>
            simp only [Option.some.injEq, Prod.mk.injEq, List.nil_eq, reduceCtorEq, false_and,
              List.cons_append, List.cons.injEq, List.mem_cons, not_or, false_iff, not_and]
            rintro ⟨rfl, -⟩ ne
            exact absurd rfl ne
      · rename_i miss
        simp only [Option.map_eq_some_iff, Prod.mk.injEq, Prod.exists]
        constructor
        · rintro ⟨a', b', found, rfl, rfl⟩
          obtain ⟨rfl, fresh⟩ := ih.1 found
          exact ⟨rfl, by simp [fresh, Ne.symm miss]⟩
        · rintro ⟨same, fresh⟩
          cases a with
          | nil => simp only [List.nil_append, List.cons.injEq] at same; exact absurd same.1 miss
          | cons y ys =>
              simp only [List.cons_append, List.cons.injEq] at same
              obtain ⟨rfl, rest⟩ := same
              exact ⟨ys, b, ih.2 ⟨rest, List.not_mem_of_not_mem_cons fresh⟩, rfl, rfl⟩

theorem splitFirst_eq_none [DecidableEq α] {l : List α} : splitFirst c l = none ↔ c ∉ l := by
  induction l with
  | nil => simp [splitFirst]
  | cons x xs ih =>
      by_cases hit : x = c
      · simp [splitFirst, hit]
      · simp [splitFirst, hit, ih, Ne.symm hit]

end Separator

/-! ## Strings -/

theorem toList_injective {s t : String} (same : s.toList = t.toList) : s = t :=
  String.toList_inj.1 same

theorem append_left_cancel {s t u : String} : s ++ t = s ++ u ↔ t = u := by
  rw [← String.toList_inj, String.toList_append, String.toList_append,
    List.append_cancel_left_eq, String.toList_inj]

/-- `str::starts_with` of a string pattern. -/
def startsWith (s pat : String) : Bool :=
  pat.toList.isPrefixOf s.toList

theorem startsWith_iff {s pat : String} : startsWith s pat = true ↔ pat.toList <+: s.toList :=
  List.isPrefixOf_iff_prefix

/-- `str::strip_prefix`. -/
def stripPrefix (s pat : String) : Option String :=
  if startsWith s pat then some (String.ofList (s.toList.drop pat.toList.length)) else none

theorem stripPrefix_eq_some {s pat t : String} : stripPrefix s pat = some t ↔ s = pat ++ t := by
  unfold stripPrefix
  constructor
  · intro found
    split at found
    · rename_i starts
      obtain ⟨rest, whole⟩ := startsWith_iff.1 starts
      cases found
      apply toList_injective
      rw [String.toList_append, String.toList_ofList, ← whole, List.drop_left]
    · cases found
  · rintro rfl
    have starts : startsWith (pat ++ t) pat = true :=
      startsWith_iff.2 ⟨t.toList, by rw [String.toList_append]⟩
    rw [if_pos starts, String.toList_append, List.drop_left, String.ofList_toList]

/-- `str::split_once` at a character. -/
def splitOnce (s : String) (c : Char) : Option (String × String) :=
  (splitFirst c s.toList).map fun ab => (String.ofList ab.1, String.ofList ab.2)

theorem splitOnce_eq_some {s a b : String} {c : Char} :
    splitOnce s c = some (a, b) ↔ s.toList = a.toList ++ c :: b.toList ∧ c ∉ a.toList := by
  unfold splitOnce
  simp only [Option.map_eq_some_iff, Prod.mk.injEq, Prod.exists, splitFirst_eq_some]
  constructor
  · rintro ⟨x, y, ⟨whole, fresh⟩, rfl, rfl⟩
    simpa using ⟨whole, fresh⟩
  · rintro ⟨whole, fresh⟩
    exact ⟨a.toList, b.toList, ⟨whole, fresh⟩, String.ofList_toList, String.ofList_toList⟩

theorem splitOnce_eq_none {s : String} {c : Char} : splitOnce s c = none ↔ c ∉ s.toList := by
  rw [splitOnce, Option.map_eq_none_iff, splitFirst_eq_none]

/-- `str::split` at a character. -/
def split (s : String) (c : Char) : List String :=
  (s.toList.splitOn c).map String.ofList

/-- `str::contains` of a character. -/
def containsChar (s : String) (c : Char) : Bool :=
  s.toList.contains c

@[simp] theorem containsChar_iff {s : String} {c : Char} :
    containsChar s c = true ↔ c ∈ s.toList := by
  simp [containsChar]

/-- `str::contains` of a string pattern. -/
def contains (s pat : String) : Bool :=
  s.toList.tails.any fun rest => pat.toList.isPrefixOf rest

theorem contains_iff {s pat : String} : contains s pat = true ↔ pat.toList <:+: s.toList := by
  simp only [contains, List.any_eq_true, List.mem_tails, List.isPrefixOf_iff_prefix]
  constructor
  · rintro ⟨rest, suffix, pre⟩
    exact List.infix_iff_prefix_suffix.2 ⟨rest, pre, suffix⟩
  · intro inside
    obtain ⟨rest, pre, suffix⟩ := List.infix_iff_prefix_suffix.1 inside
    exact ⟨rest, suffix, pre⟩

/-- `str::strip_suffix`. -/
def stripSuffix (s pat : String) : Option String :=
  if pat.toList.isSuffixOf s.toList then
    some (String.ofList (s.toList.take (s.toList.length - pat.toList.length)))
  else none

theorem stripSuffix_append (s pat : String) : stripSuffix (s ++ pat) pat = some s := by
  have ends : pat.toList.isSuffixOf (s ++ pat).toList = true := by
    rw [String.toList_append, List.isSuffixOf_iff_suffix]
    exact List.suffix_append _ _
  rw [stripSuffix, if_pos ends, String.toList_append, List.length_append, Nat.add_sub_cancel,
    List.take_left, String.ofList_toList]

/-! ## Joining -/

/-- `join(" ")` of a slice of strings. -/
def joinSpace : List String → String
  | [] => ""
  | [s] => s
  | s :: t :: rest => s ++ " " ++ joinSpace (t :: rest)

theorem mem_joinSpace {c : Char} (parts : List String) (found : c ∈ (joinSpace parts).toList) :
    c = ' ' ∨ ∃ s ∈ parts, c ∈ s.toList := by
  induction parts with
  | nil => simp [joinSpace] at found
  | cons s rest ih =>
      cases rest with
      | nil => exact Or.inr ⟨s, List.mem_cons_self, found⟩
      | cons t rest =>
          have space : " ".toList = [' '] := by decide
          simp only [joinSpace, String.toList_append, List.mem_append, space,
            List.mem_singleton] at found
          rcases found with (here | blank) | later
          · exact Or.inr ⟨s, List.mem_cons_self, here⟩
          · exact Or.inl blank
          · rcases ih later with blank | ⟨u, listed, inside⟩
            · exact Or.inl blank
            · exact Or.inr ⟨u, List.mem_cons_of_mem _ listed, inside⟩

/-- A joined text ends with its last part. -/
theorem joinSpace_concat (parts : List String) (last : String) :
    ∃ stem, joinSpace (parts ++ [last]) = stem ++ last := by
  induction parts with
  | nil => exact ⟨"", (String.empty_append).symm⟩
  | cons s rest ih =>
      obtain ⟨stem, same⟩ := ih
      refine ⟨s ++ " " ++ stem, ?_⟩
      rw [String.append_assoc, ← same]
      cases rest with
      | nil => rfl
      | cons t rest => rfl

/-! ## Texts without a pattern -/

theorem not_contains_iff {s pat : String} : contains s pat = false ↔ ¬ pat.toList <:+: s.toList := by
  rw [← Bool.not_eq_true, contains_iff]

/-- A pattern with a character that a text lacks is not in the text. -/
theorem not_contains_of_not_mem {s pat : String} {c : Char} (needed : c ∈ pat.toList)
    (absent : c ∉ s.toList) : contains s pat = false :=
  not_contains_iff.2 fun inside => absent (inside.subset needed)

/-- A text without a part of the pattern is without the pattern. -/
theorem not_contains_of_part {s pat : String} (part : String) (within : contains pat part = true)
    (absent : contains s part = false) : contains s pat = false := by
  rw [not_contains_iff] at absent ⊢
  exact fun inside => absent ((contains_iff.1 within).trans inside)

/-- A pattern without the separator lies on one side of it. -/
theorem infix_sep {α : Type} {c : α} {p a b : List α} (clear : c ∉ p) :
    p <:+: a ++ c :: b ↔ p <:+: a ∨ p <:+: b := by
  constructor
  · intro inside
    rcases List.infix_append_iff.1 inside with left | right | ⟨l₁, l₂, rfl, suffix, pre⟩
    · exact Or.inl left
    · rcases List.infix_cons_iff.1 right with pre | later
      · cases p with
        | nil => exact Or.inl List.nil_infix
        | cons x xs =>
            obtain ⟨rfl, -⟩ := List.cons_prefix_cons.1 pre
            exact absurd List.mem_cons_self clear
      · exact Or.inr later
    · cases l₂ with
      | nil => exact Or.inl (by simpa using suffix.isInfix)
      | cons x xs =>
          obtain ⟨rfl, -⟩ := List.cons_prefix_cons.1 pre
          exact absurd (List.mem_append_right _ List.mem_cons_self) clear
  · rintro (⟨x, y, rfl⟩ | ⟨x, y, rfl⟩)
    · exact ⟨x, y ++ c :: b, by simp⟩
    · exact ⟨a ++ c :: x, y, by simp⟩

/-- Neither side of a separator has a pattern without it, nor has the whole. -/
theorem not_contains_sep {s t pat : String} {c : Char} (clear : c ∉ pat.toList)
    (left : contains s pat = false) (right : contains t pat = false) :
    contains (s ++ String.singleton c ++ t) pat = false := by
  rw [not_contains_iff] at left right ⊢
  rw [String.toList_append, String.toList_append, String.toList_singleton, List.append_assoc,
    List.singleton_append, infix_sep clear, not_or]
  exact ⟨left, right⟩

theorem not_contains_space {s t pat : String} (clear : ' ' ∉ pat.toList)
    (left : contains s pat = false) (right : contains t pat = false) :
    contains (s ++ " " ++ t) pat = false := by
  have blank : " " = String.singleton ' ' := toList_injective (by rw [String.toList_singleton]; decide)
  rw [blank]
  exact not_contains_sep clear left right

/-- A joined text has each of its parts. -/
theorem contains_joinSpace {s : String} {parts : List String} (listed : s ∈ parts) :
    contains (joinSpace parts) s = true := by
  rw [contains_iff]
  induction parts with
  | nil => cases listed
  | cons first rest ih =>
      cases rest with
      | nil =>
          rw [List.mem_singleton.1 listed]
          exact List.infix_rfl
      | cons second rest =>
          simp only [joinSpace, String.toList_append]
          rcases List.mem_cons.1 listed with rfl | later
          · rw [List.append_assoc]
            exact (List.prefix_append _ _).isInfix
          · exact (ih later).trans (List.suffix_append _ _).isInfix

/-- A joined text starts with its first part. -/
theorem startsWith_joinSpace (s : String) (parts : List String) :
    startsWith (joinSpace (s :: parts)) s = true := by
  rw [startsWith_iff]
  cases parts with
  | nil => exact List.prefix_rfl
  | cons t rest =>
      simp only [joinSpace, String.toList_append]
      rw [List.append_assoc]
      exact List.prefix_append _ _

theorem not_contains_joinSpace {pat : String} (clear : ' ' ∉ pat.toList) (some : pat.toList ≠ [])
    (parts : List String) (all : ∀ s ∈ parts, contains s pat = false) :
    contains (joinSpace parts) pat = false := by
  induction parts with
  | nil =>
      rw [not_contains_iff]
      exact fun inside => some (List.infix_nil.1 inside)
  | cons s rest ih =>
      obtain ⟨here, later⟩ := List.forall_mem_cons.1 all
      cases rest with
      | nil => exact here
      | cons t rest => exact not_contains_space clear here (ih later)

/-- `str::to_ascii_lowercase`. -/
def toAsciiLowercase (s : String) : String :=
  String.ofList (s.toList.map fun c =>
    if 'A' ≤ c ∧ c ≤ 'Z' then Char.ofNat (c.toNat + 32) else c)

/-! ## Literals

A string literal is `String.ofList` of its characters by definition, while
evaluating `toList` of it decodes bytes.  These lemmas take the characters
directly, so that a check of a long literal stays cheap. -/

theorem not_mem_literal {s : String} {cs : List Char} {c : Char} (literal : s = String.ofList cs)
    (clear : cs.contains c = false) : c ∉ s.toList := by
  subst literal
  simpa using clear

/-- A text without any of the listed characters, from a check that runs. -/
theorem not_mem_of_all {cs : List Char} {s : String}
    (clear : (cs.all fun c => !s.toList.contains c) = true) : ∀ c ∈ cs, c ∉ s.toList := by
  intro c listed inside
  have absent := List.all_eq_true.1 clear c listed
  rw [List.contains_iff_mem.2 inside] at absent
  cases absent

theorem not_contains_literal {s pat : String} {cs ps : List Char} (literal : s = String.ofList cs)
    (pattern : pat = String.ofList ps)
    (clear : (cs.tails.any fun rest => ps.isPrefixOf rest) = false) : contains s pat = false := by
  subst literal pattern
  simpa [contains] using clear

theorem append_literal {s t whole : String} {a b : List Char} (left : s = String.ofList a)
    (right : t = String.ofList b) (literal : whole = String.ofList (a ++ b)) : whole = s ++ t := by
  subst left right literal
  exact String.ofList_append

/-! ## Numbers -/

/-- Whether a character is an ASCII digit. -/
def isDigit (c : Char) : Bool := '0' ≤ c && c ≤ '9'

/-- The value of a digit string, most significant digit first. -/
def digitsValue (cs : List Char) : Nat :=
  cs.foldl (fun n c => 10 * n + (c.toNat - '0'.toNat)) 0

/-- `str::parse` at an unsigned integer type of the given size: an optional plus
sign, then at least one digit, and a value that fits. -/
def parseUnsigned (bound : Nat) (s : String) : Option Nat :=
  let digits := match s.toList with
    | '+' :: rest => rest
    | cs => cs
  if digits ≠ [] ∧ digits.all isDigit ∧ digitsValue digits < bound then some (digitsValue digits)
  else none

def parseU32 : String → Option Nat := parseUnsigned (2 ^ 32)

def parseU64 : String → Option Nat := parseUnsigned (2 ^ 64)

example : parseU32 "0017" = some 17 ∧ parseU32 "+" = none ∧ parseU32 "4294967296" = none := by decide

theorem digit_value {c : Char} (digit : isDigit c = true) : c.toNat - '0'.toNat ≤ 9 := by
  simp only [isDigit, Bool.and_eq_true, decide_eq_true_eq] at digit
  have high : c.toNat ≤ '9'.toNat := digit.2
  have nine : '9'.toNat = 57 := by decide
  have zero : '0'.toNat = 48 := by decide
  omega

theorem digitsValue_lt (cs : List Char) (digits : ∀ c ∈ cs, isDigit c = true) :
    digitsValue cs < 10 ^ cs.length := by
  have general : ∀ n, cs.foldl (fun n c => 10 * n + (c.toNat - '0'.toNat)) n <
      (n + 1) * 10 ^ cs.length := by
    induction cs with
    | nil => intro n; simp
    | cons c rest ih =>
        intro n
        obtain ⟨digit, others⟩ := List.forall_mem_cons.1 digits
        have small := digit_value digit
        have step := ih others (10 * n + (c.toNat - '0'.toNat))
        have room : (10 * n + (c.toNat - '0'.toNat) + 1) * 10 ^ rest.length ≤
            (10 * (n + 1)) * 10 ^ rest.length := Nat.mul_le_mul_right _ (by omega)
        rw [List.foldl_cons, List.length_cons, Nat.pow_succ]
        calc _ < _ := step
          _ ≤ _ := room
          _ = (n + 1) * (10 ^ rest.length * 10) := by ring
  simpa [digitsValue] using general 0

/-- A nonempty string of ASCII digits. -/
def Digits (s : String) : Prop :=
  s.toList ≠ [] ∧ ∀ c ∈ s.toList, isDigit c = true

theorem Digits.ne {s : String} (digits : Digits s) {c : Char} (other : isDigit c = false) :
    c ∉ s.toList := by
  intro found
  rw [digits.2 c found] at other
  cases other

theorem isDigit_of_mem_toDigits {n : Nat} {c : Char} (found : c ∈ Nat.toDigits 10 n) :
    isDigit c = true := by
  have digit := Nat.isDigit_of_mem_toDigits (by omega) (le_refl 10) found
  simp only [Char.isDigit, ge_iff_le, Bool.and_eq_true, decide_eq_true_eq] at digit
  simp only [isDigit, Bool.and_eq_true, decide_eq_true_eq]
  exact digit

/-- A rendered natural number. -/
theorem digits_toString (n : Nat) : Digits (toString n) := by
  rw [Nat.toString_eq_repr]
  exact ⟨by rw [Nat.toList_repr]; exact Nat.toDigits_ne_nil,
    fun c found => isDigit_of_mem_toDigits (by rwa [Nat.toList_repr] at found)⟩

/-- Digits parse to their value, if it fits. -/
theorem parseUnsigned_of_digits {s : String} (digits : Digits s) (bound : Nat) :
    parseUnsigned bound s =
      if digitsValue s.toList < bound then some (digitsValue s.toList) else none := by
  obtain ⟨nonempty, all⟩ := digits
  have unsigned : (match s.toList with | '+' :: rest => rest | cs => cs) = s.toList := by
    split
    · rename_i rest same
      have plus : isDigit '+' = true := all '+' (by rw [same]; exact List.mem_cons_self)
      exact absurd plus (by decide)
    · rfl
  have each : s.toList.all isDigit = true := List.all_eq_true.2 all
  simp only [parseUnsigned, unsigned, each, ne_eq, nonempty, not_false_eq_true, true_and]

/-- Up to nineteen digits always parse. -/
theorem parseU64_digits {s : String} (digits : Digits s) (short : s.toList.length ≤ 19) :
    parseU64 s = some (digitsValue s.toList) := by
  have bound := digitsValue_lt s.toList digits.2
  have fits : (10 : Nat) ^ s.toList.length ≤ 10 ^ 19 := Nat.pow_le_pow_right (by omega) short
  rw [parseU64, parseUnsigned_of_digits digits, if_pos (by omega)]

/-! ## Whitespace -/

/-- The Unicode `White_Space` characters, which `str::trim` removes. -/
def isWhitespace (c : Char) : Bool :=
  let n := c.toNat
  (9 ≤ n && n ≤ 13) || n == 0x20 || n == 0x85 || n == 0xA0 || n == 0x1680 ||
    (0x2000 ≤ n && n ≤ 0x200A) || n == 0x2028 || n == 0x2029 || n == 0x202F || n == 0x205F ||
    n == 0x3000

/-- `str::trim`. -/
def trim (s : String) : String :=
  String.ofList ((s.toList.dropWhile isWhitespace).reverse.dropWhile isWhitespace).reverse

/-- `str::trim_end_matches` of a character. -/
def trimEndMatches (s : String) (c : Char) : String :=
  String.ofList (s.toList.reverse.dropWhile (· == c)).reverse

/-- Trimming a character that does not end the text. -/
theorem trimEndMatches_of_last {s : String} {c : Char} (last : s.toList.getLast? ≠ some c) :
    trimEndMatches s c = s := by
  have stops : s.toList.reverse.dropWhile (· == c) = s.toList.reverse := by
    rw [List.getLast?_eq_head?_reverse] at last
    cases reversed : s.toList.reverse with
    | nil => rfl
    | cons x xs =>
        rw [reversed] at last
        have different : (x == c) = false := by
          rw [beq_eq_false_iff_ne]
          exact fun same => last (by rw [same]; rfl)
        rw [List.dropWhile_cons, different]
        rfl
  rw [trimEndMatches, stops, List.reverse_reverse, String.ofList_toList]

/-- Trimming twice is trimming once. -/
theorem trimEndMatches_trimmed (s : String) (c : Char) :
    trimEndMatches (trimEndMatches s c) c = trimEndMatches s c := by
  simp only [trimEndMatches, String.toList_ofList, List.reverse_reverse, List.dropWhile_idempotent _]

theorem trimEndMatches_prefix (s : String) (c : Char) :
    (trimEndMatches s c).toList <+: s.toList := by
  rw [trimEndMatches, String.toList_ofList]
  have suffix : s.toList.reverse.dropWhile (· == c) <:+ s.toList.reverse := List.dropWhile_suffix _
  have back := List.reverse_prefix.2 suffix
  rw [List.reverse_reverse] at back
  exact back

theorem trimEndMatches_digits {s : String} (digits : Digits s) (c : Char)
    (nonempty : (trimEndMatches s c).toList ≠ []) :
    Digits (trimEndMatches s c) ∧ (trimEndMatches s c).toList.length ≤ s.toList.length := by
  have kept := trimEndMatches_prefix s c
  exact ⟨⟨nonempty, fun x found => digits.2 x (kept.subset found)⟩, kept.length_le⟩

/-- Trimming the trailing zeros of a decimal, and its point when nothing follows. -/
theorem trim_decimal {whole fraction : String} (w : Digits whole) (f : Digits fraction) :
    (trimEndMatches fraction '0' = "" ∧
        trimEndMatches (trimEndMatches (whole ++ "." ++ fraction) '0') '.' = whole) ∨
      ∃ kept, trimEndMatches fraction '0' = kept ∧ Digits kept ∧
        kept.toList.length ≤ fraction.toList.length ∧
        trimEndMatches (trimEndMatches (whole ++ "." ++ fraction) '0') '.' = whole ++ "." ++ kept := by
  have point : ".".toList = ['.'] := by decide
  have whole_last : whole.toList.getLast? ≠ some '.' := fun last =>
    w.ne (c := '.') (by decide) (List.mem_of_getLast? last)
  cases kept : fraction.toList.reverse.dropWhile (· == '0') with
  | nil =>
      left
      have first : trimEndMatches (whole ++ "." ++ fraction) '0' = whole ++ "." := by
        apply toList_injective
        simp only [trimEndMatches, String.toList_ofList, String.toList_append, point,
          List.reverse_append, List.dropWhile_append, kept]
        simp
      have drops : (whole ++ ".").toList.reverse.dropWhile (· == '.') =
          whole.toList.reverse.dropWhile (· == '.') := by
        simp [String.toList_append, point]
      refine ⟨?_, ?_⟩
      · rw [trimEndMatches, kept]
        rfl
      · rw [first, trimEndMatches, drops]
        exact trimEndMatches_of_last whole_last
  | cons x xs =>
      right
      have some : (trimEndMatches fraction '0').toList ≠ [] := by
        rw [trimEndMatches, kept]
        simp
      obtain ⟨digits, short⟩ := trimEndMatches_digits f '0' some
      refine ⟨trimEndMatches fraction '0', rfl, digits, short, ?_⟩
      have first : trimEndMatches (whole ++ "." ++ fraction) '0' =
          whole ++ "." ++ trimEndMatches fraction '0' := by
        apply toList_injective
        simp only [trimEndMatches, String.toList_ofList, String.toList_append, point,
          List.reverse_append, List.dropWhile_append, kept]
        simp
      rw [first]
      refine trimEndMatches_of_last fun last => ?_
      rw [String.toList_append, List.getLast?_append_of_ne_nil _ some] at last
      exact digits.ne (c := '.') (by decide) (List.mem_of_getLast? last)

example : trim " a b \n" = "a b" ∧ trimEndMatches "inverter//" '/' = "inverter" := by decide

end InverterGateway.Theory.Text

/-
# Gateway.NumberWords — Russian number words read back

A grammar of Russian numerals, written from the language and not from the
speller: a group is hundreds, tens and ones or a teen, a period is a positive
group with its noun in the form the group requires, and a spoken decimal is a
whole number with tenths or hundredths.  `hear` reads words one by one and makes
the grammar unambiguous; the spelled words are in the grammar, so they read back
to the number they were made from.
-/
import InverterGateway.Gateway.AllClear
import InverterGateway.Theory.Fields
import Mathlib.Data.Rat.Cast.Order
import Mathlib.Tactic.Linarith

namespace InverterGateway.Gateway.Russian

open InverterGateway.Theory

set_option autoImplicit false

/-! ## The grammar -/

def hundredWords : List (String × Nat) :=
  [("сто", 100), ("двести", 200), ("триста", 300), ("четыреста", 400), ("пятьсот", 500),
    ("шестьсот", 600), ("семьсот", 700), ("восемьсот", 800), ("девятьсот", 900)]

def tenWords : List (String × Nat) :=
  [("двадцать", 20), ("тридцать", 30), ("сорок", 40), ("пятьдесят", 50), ("шестьдесят", 60),
    ("семьдесят", 70), ("восемьдесят", 80), ("девяносто", 90)]

def teenWords : List (String × Nat) :=
  [("десять", 10), ("одиннадцать", 11), ("двенадцать", 12), ("тринадцать", 13),
    ("четырнадцать", 14), ("пятнадцать", 15), ("шестнадцать", 16), ("семнадцать", 17),
    ("восемнадцать", 18), ("девятнадцать", 19)]

/-- Only one and two have a gender. -/
def oneWords (feminine : Bool) : List (String × Nat) :=
  (if feminine then [("одна", 1), ("две", 2)] else [("один", 1), ("два", 2)]) ++
    [("три", 3), ("четыре", 4), ("пять", 5), ("шесть", 6), ("семь", 7), ("восемь", 8),
      ("девять", 9)]

/-- The words of a noun after one, after two to four, and after five and more. -/
structure Noun where
  singular : String
  paucal : String
  plural : String

/-- The word a count requires: the last digit decides, except after ten. -/
inductive Noun.Agrees (noun : Noun) (count : Nat) : String → Prop
  | singular : count % 10 = 1 → count % 100 ≠ 11 → noun.Agrees count noun.singular
  | paucal : count % 10 ∈ [2, 3, 4] → count % 100 ∉ [12, 13, 14] → noun.Agrees count noun.paucal
  | plural : (count % 10 ∈ [0, 5, 6, 7, 8, 9] ∨ count % 100 ∈ [11, 12, 13, 14]) →
      noun.Agrees count noun.plural

/-- A power of one thousand, with its noun and its gender. -/
structure Period where
  size : Nat
  noun : Noun
  feminine : Bool

def billions : Period := ⟨10 ^ 9, ⟨"миллиард", "миллиарда", "миллиардов"⟩, false⟩

def millions : Period := ⟨10 ^ 6, ⟨"миллион", "миллиона", "миллионов"⟩, false⟩

def thousands : Period := ⟨10 ^ 3, ⟨"тысяча", "тысячи", "тысяч"⟩, true⟩

/-- At most one word of a list. -/
inductive AtMost (words : List (String × Nat)) : List String → Nat → Prop
  | none : AtMost words [] 0
  | one {word : String} {n : Nat} : (word, n) ∈ words → AtMost words [word] n

/-- The words below one hundred. -/
inductive Tail (feminine : Bool) : List String → Nat → Prop
  | teen {word : String} {n : Nat} : (word, n) ∈ teenWords → Tail feminine [word] n
  | plain {ten one : List String} {m n : Nat} : AtMost tenWords ten m →
      AtMost (oneWords feminine) one n → Tail feminine (ten ++ one) (m + n)

/-- The words below one thousand. -/
inductive Group (feminine : Bool) : List String → Nat → Prop
  | mk {hundred tail : List String} {m n : Nat} : AtMost hundredWords hundred m →
      Tail feminine tail n → Group feminine (hundred ++ tail) (m + n)

/-- A period of a numeral: nothing, or a positive group with its noun. -/
inductive Period.Said (period : Period) : List String → Nat → Prop
  | none : period.Said [] 0
  | some {words : List String} {n : Nat} {noun : String} : Group period.feminine words n → 0 < n →
      period.noun.Agrees n noun → period.Said (words ++ [noun]) (n * period.size)

/-- The numerals below a trillion, in a gender. -/
inductive Numeral (feminine : Bool) : List String → Nat → Prop
  | zero : Numeral feminine ["ноль"] 0
  | periods {a b c d : List String} {i j k n : Nat} : billions.Said a i → millions.Said b j →
      thousands.Said c k → Group feminine d n → 0 < i + j + k + n →
      Numeral feminine (a ++ b ++ c ++ d) (i + j + k + n)

/-- The nouns of the parts of a decimal. -/
def wholes : Noun := ⟨"целая", "целых", "целых"⟩

def tenths : Noun := ⟨"десятая", "десятых", "десятых"⟩

def hundredths : Noun := ⟨"сотая", "сотых", "сотых"⟩

/-- Decimals: a masculine numeral, or a feminine one of wholes with a feminine
one of tenths or of hundredths. -/
inductive SpokenDecimal : List String → ℚ → Prop
  | whole {words : List String} {n : Nat} : Numeral false words n → SpokenDecimal words n
  | tenths {words part : List String} {n k : Nat} {whole noun : String} : Numeral true words n →
      wholes.Agrees n whole → Numeral true part k → tenths.Agrees k noun →
      SpokenDecimal (words ++ [whole] ++ part ++ [noun]) (n + k / 10)
  | hundredths {words part : List String} {n k : Nat} {whole noun : String} :
      Numeral true words n → wholes.Agrees n whole → Numeral true part k →
      hundredths.Agrees k noun → SpokenDecimal (words ++ [whole] ++ part ++ [noun]) (n + k / 100)

/-! ## Reading word by word -/

/-- What a word does to a number that is being heard. -/
inductive Effect
  | count (n : Nat)
  | period (size : Nat)
  | part (size : Nat)
  deriving DecidableEq

def Noun.words (noun : Noun) : List String := [noun.singular, noun.paucal, noun.plural]

/-- Every word of the grammar with its effect. -/
def effects : List (String × Effect) :=
  (("ноль", 0) :: hundredWords ++ tenWords ++ teenWords ++ oneWords false ++ oneWords true).map
      (fun entry => (entry.1, .count entry.2)) ++
    [billions, millions, thousands].flatMap (fun period =>
      period.noun.words.map fun word => (word, .period period.size)) ++
    [(wholes, 1), (tenths, 10), (hundredths, 100)].flatMap fun entry =>
      entry.1.words.map fun word => (word, .part entry.2)

/-- The parts heard, the periods since, and the group since. -/
structure Heard where
  parts : ℚ
  periods : Nat
  group : Nat

def Heard.number (heard : Heard) : ℚ := heard.parts + (heard.periods + heard.group : Nat)

/-- Hear one more word. -/
def hear (heard : Heard) (word : String) : Heard :=
  match effects.lookup word with
  | some (.count n) => { heard with group := heard.group + n }
  | some (.period size) => { heard with periods := heard.periods + heard.group * size, group := 0 }
  | some (.part size) =>
      ⟨heard.parts + ((heard.periods + heard.group : Nat) : ℚ) / size, 0, 0⟩
  | none => heard

theorem hear_count {word : String} {n : Nat} (effect : effects.lookup word = some (.count n))
    (q : ℚ) (t g : Nat) : hear ⟨q, t, g⟩ word = ⟨q, t, g + n⟩ := by
  simp only [hear, effect]

theorem hear_period {word : String} {size : Nat}
    (effect : effects.lookup word = some (.period size)) (q : ℚ) (t g : Nat) :
    hear ⟨q, t, g⟩ word = ⟨q, t + g * size, 0⟩ := by
  simp only [hear, effect]

theorem hear_part {word : String} {size : Nat} (effect : effects.lookup word = some (.part size))
    (q : ℚ) (t g : Nat) : hear ⟨q, t, g⟩ word = ⟨q + ((t + g : Nat) : ℚ) / size, 0, 0⟩ := by
  simp only [hear, effect]

/-- A list of number words, each with its number for an effect. -/
def Counted (words : List (String × Nat)) : Prop :=
  ∀ entry ∈ words, effects.lookup entry.1 = some (.count entry.2)

instance (words : List (String × Nat)) : Decidable (Counted words) :=
  inferInstanceAs (Decidable (∀ entry ∈ words, effects.lookup entry.1 = some (.count entry.2)))

theorem counted_hundreds : Counted hundredWords := by decide +kernel

theorem counted_tens : Counted tenWords := by decide +kernel

theorem counted_teens : Counted teenWords := by decide +kernel

theorem counted_ones (feminine : Bool) : Counted (oneWords feminine) := by
  cases feminine <;> decide +kernel

theorem hear_atMost {words : List (String × Nat)} (counted : Counted words) {ws : List String}
    {n : Nat} (said : AtMost words ws n) (q : ℚ) (t g : Nat) :
    ws.foldl hear ⟨q, t, g⟩ = ⟨q, t, g + n⟩ := by
  cases said with
  | none => rfl
  | one listed => exact hear_count (counted _ listed) q t g

theorem hear_tail {feminine : Bool} {ws : List String} {n : Nat} (said : Tail feminine ws n)
    (q : ℚ) (t g : Nat) : ws.foldl hear ⟨q, t, g⟩ = ⟨q, t, g + n⟩ := by
  cases said with
  | teen listed => exact hear_count (counted_teens _ listed) q t g
  | plain ten one =>
      rw [List.foldl_append, hear_atMost counted_tens ten, hear_atMost (counted_ones _) one,
        Nat.add_assoc]

theorem hear_group {feminine : Bool} {ws : List String} {n : Nat} (said : Group feminine ws n)
    (q : ℚ) (t g : Nat) : ws.foldl hear ⟨q, t, g⟩ = ⟨q, t, g + n⟩ := by
  obtain ⟨hundred, tail⟩ := said
  rw [List.foldl_append, hear_atMost counted_hundreds hundred, hear_tail tail, Nat.add_assoc]

theorem Noun.Agrees.mem {noun : Noun} {count : Nat} {word : String} (agrees : noun.Agrees count word) :
    word ∈ noun.words := by
  cases agrees with
  | singular => exact List.mem_cons_self
  | paucal => exact List.mem_cons_of_mem _ List.mem_cons_self
  | plural => exact List.mem_cons_of_mem _ (List.mem_cons_of_mem _ List.mem_cons_self)

/-- A period whose nouns are heard as its size. -/
def Period.Heeded (period : Period) : Prop :=
  ∀ word ∈ period.noun.words, effects.lookup word = some (.period period.size)

instance (period : Period) : Decidable period.Heeded :=
  inferInstanceAs (Decidable (∀ word ∈ period.noun.words, _))

theorem heeded_billions : billions.Heeded := by decide +kernel

theorem heeded_millions : millions.Heeded := by decide +kernel

theorem heeded_thousands : thousands.Heeded := by decide +kernel

theorem hear_period_said {period : Period} (heeded : period.Heeded) {ws : List String} {n : Nat}
    (said : period.Said ws n) (q : ℚ) (t : Nat) : ws.foldl hear ⟨q, t, 0⟩ = ⟨q, t + n, 0⟩ := by
  cases said with
  | none => rfl
  | some group positive agrees =>
      rw [List.foldl_append, hear_group group, List.foldl_cons, List.foldl_nil,
        hear_period (heeded _ agrees.mem), Nat.zero_add]

/-- A numeral is heard as its number, after whatever parts. -/
theorem hear_numeral {feminine : Bool} {ws : List String} {n : Nat} (said : Numeral feminine ws n)
    (q : ℚ) : ∃ t g, ws.foldl hear ⟨q, 0, 0⟩ = ⟨q, t, g⟩ ∧ t + g = n := by
  cases said with
  | zero =>
      have effect : effects.lookup "ноль" = some (.count 0) := by decide +kernel
      exact ⟨0, 0, hear_count effect q 0 0, rfl⟩
  | periods a b c d positive =>
      refine ⟨_, _, ?_, rfl⟩
      rw [List.foldl_append, List.foldl_append, List.foldl_append,
        hear_period_said heeded_billions a, hear_period_said heeded_millions b,
        hear_period_said heeded_thousands c, hear_group d]
      simp only [Nat.zero_add]

/-- **A numeral has one number.** -/
theorem Numeral.unique {feminine other : Bool} {ws : List String} {m n : Nat}
    (left : Numeral feminine ws m) (right : Numeral other ws n) : m = n := by
  obtain ⟨t, g, first, rfl⟩ := hear_numeral left 0
  obtain ⟨t', g', second, rfl⟩ := hear_numeral right 0
  rw [first, Heard.mk.injEq] at second
  obtain ⟨-, rfl, rfl⟩ := second
  rfl

/-- A noun of parts. -/
def Noun.Divides (noun : Noun) (size : Nat) : Prop :=
  ∀ word ∈ noun.words, effects.lookup word = some (.part size)

instance (noun : Noun) (size : Nat) : Decidable (noun.Divides size) :=
  inferInstanceAs (Decidable (∀ word ∈ noun.words, _))

theorem wholes_divides : wholes.Divides 1 := by decide +kernel

theorem tenths_divides : tenths.Divides 10 := by decide +kernel

theorem hundredths_divides : hundredths.Divides 100 := by decide +kernel

theorem hear_parts {noun : Noun} {size : Nat} (divides : noun.Divides size) {feminine : Bool}
    {ws : List String} {word : String} {n : Nat} (said : Numeral feminine ws n)
    (agrees : noun.Agrees n word) (q : ℚ) :
    (ws ++ [word]).foldl hear ⟨q, 0, 0⟩ = ⟨q + n / size, 0, 0⟩ := by
  obtain ⟨t, g, heard, rfl⟩ := hear_numeral said q
  rw [List.foldl_append, heard, List.foldl_cons, List.foldl_nil, hear_part (divides _ agrees.mem)]

theorem hear_decimal {ws : List String} {x : ℚ} (said : SpokenDecimal ws x) :
    (ws.foldl hear ⟨0, 0, 0⟩).number = x := by
  have whole : ∀ {size : Nat} {noun : Noun}, noun.Divides size → ∀ {words part : List String}
      {n k : Nat} {one other : String}, Numeral true words n → wholes.Agrees n one →
      Numeral true part k → noun.Agrees k other →
      ((words ++ [one] ++ part ++ [other]).foldl hear ⟨0, 0, 0⟩).number = n + k / size := by
    intro size noun divides words part n k one other number agrees parts agrees'
    rw [List.append_assoc _ part, List.foldl_append,
      hear_parts wholes_divides number agrees, hear_parts divides parts agrees']
    simp [Heard.number]
  cases said with
  | whole said =>
      obtain ⟨t, g, heard, rfl⟩ := hear_numeral said 0
      rw [heard, Heard.number, zero_add]
  | tenths number agrees parts agrees' =>
      exact whole tenths_divides number agrees parts agrees'
  | hundredths number agrees parts agrees' =>
      exact whole hundredths_divides number agrees parts agrees'

/-- **A spoken decimal has one value.** -/
theorem SpokenDecimal.unique {ws : List String} {x y : ℚ} (left : SpokenDecimal ws x)
    (right : SpokenDecimal ws y) : x = y :=
  (hear_decimal left).symm.trans (hear_decimal right)

/-! ## The spelled words are in the grammar -/

/-- A word with an effect. -/
def Known (word : String) : Prop := (effects.lookup word).isSome = true

theorem Known.solid {word : String} (known : Known word) : ' ' ∉ word.toList := by
  obtain ⟨effect, found⟩ := Option.isSome_iff_exists.1 known
  obtain ⟨before, after, same, -⟩ := List.lookup_eq_some_iff.1 found
  have solid : ∀ entry ∈ effects, ' ' ∉ entry.1.toList := by decide +kernel
  exact solid (word, effect) (by rw [same]; simp)

theorem split_known {words : List String} (known : ∀ word ∈ words, Known word) :
    (words.flatMap fun word => Text.split word ' ') = words := by
  induction words with
  | nil => rfl
  | cons word rest ih =>
      obtain ⟨first, others⟩ := List.forall_mem_cons.1 known
      rw [List.flatMap_cons, Text.split_of_not_mem first.solid, ih others, List.singleton_append]

theorem AtMost.known {words : List (String × Nat)} (counted : Counted words) {ws : List String}
    {n : Nat} (said : AtMost words ws n) : ∀ word ∈ ws, Known word := by
  intro word listed
  cases said with
  | none => cases listed
  | one entry =>
      rw [List.mem_singleton.1 listed, Known, counted _ entry]
      rfl

theorem Group.known {feminine : Bool} {ws : List String} {n : Nat} (said : Group feminine ws n) :
    ∀ word ∈ ws, Known word := by
  obtain ⟨hundred, tail⟩ := said
  intro word listed
  rcases List.mem_append.1 listed with first | rest
  · exact hundred.known counted_hundreds word first
  · cases tail with
    | teen entry => exact (AtMost.one entry).known counted_teens word rest
    | plain ten one =>
        rcases List.mem_append.1 rest with second | third
        · exact ten.known counted_tens word second
        · exact one.known (counted_ones _) word third

/-- The words that `underThousand` joins. -/
def groupList (value : Nat) (feminine : Bool) : List String :=
  let tail := value % 100
  (if 100 ≤ value then [hundreds.getD (value / 100) ""] else []) ++
    if 10 ≤ tail ∧ tail < 20 then [teens.getD (tail - 10) ""]
    else
      (if 20 ≤ tail then [tens.getD (tail / 10) ""] else []) ++
      if tail % 10 ≠ 0 then [(ones feminine).getD (tail % 10) ""] else []

theorem underThousand_eq (value : Nat) (feminine : Bool) :
    underThousand value feminine = Text.joinSpace (groupList value feminine) := rfl

theorem groupList_hundred {value : Nat} (small : value < 1000) :
    AtMost hundredWords (if 100 ≤ value then [hundreds.getD (value / 100) ""] else [])
      (value / 100 * 100) := by
  have table : ∀ d < 10, 0 < d → (hundreds.getD d "", d * 100) ∈ hundredWords := by decide +kernel
  by_cases large : 100 ≤ value
  · rw [if_pos large]
    exact .one (table _ (by omega) (by omega))
  · rw [if_neg large, show value / 100 * 100 = 0 by omega]
    exact .none

theorem groupList_tail (feminine : Bool) {tail : Nat} (small : tail < 100) :
    Tail feminine (if 10 ≤ tail ∧ tail < 20 then [teens.getD (tail - 10) ""]
      else
        (if 20 ≤ tail then [tens.getD (tail / 10) ""] else []) ++
        if tail % 10 ≠ 0 then [(ones feminine).getD (tail % 10) ""] else []) tail := by
  have teenTable : ∀ d < 10, (teens.getD d "", d + 10) ∈ teenWords := by decide +kernel
  have tenTable : ∀ d < 10, 1 < d → (tens.getD d "", d * 10) ∈ tenWords := by decide +kernel
  have oneTable : ∀ d < 10, 0 < d → ((ones feminine).getD d "", d) ∈ oneWords feminine := by
    cases feminine <;> decide +kernel
  by_cases teen : 10 ≤ tail ∧ tail < 20
  · rw [if_pos teen]
    have entry := teenTable (tail - 10) (by omega)
    rw [Nat.sub_add_cancel teen.1] at entry
    exact .teen entry
  · rw [if_neg teen]
    have sum : tail / 10 * 10 + tail % 10 = tail := by omega
    have ten : AtMost tenWords (if 20 ≤ tail then [tens.getD (tail / 10) ""] else []) (tail / 10 * 10) := by
      by_cases large : 20 ≤ tail
      · rw [if_pos large]
        exact .one (tenTable _ (by omega) (by omega))
      · rw [if_neg large, show tail / 10 * 10 = 0 by omega]
        exact .none
    have one : AtMost (oneWords feminine)
        (if tail % 10 ≠ 0 then [(ones feminine).getD (tail % 10) ""] else []) (tail % 10) := by
      by_cases last : tail % 10 = 0
      · rw [if_neg (not_not.2 last), last]
        exact .none
      · rw [if_pos last]
        exact .one (oneTable _ (by omega) (by omega))
    have both := Tail.plain ten one
    rwa [sum] at both

theorem groupList_said (feminine : Bool) {value : Nat} (small : value < 1000) :
    Group feminine (groupList value feminine) value := by
  have said := Group.mk (groupList_hundred small)
    (groupList_tail feminine (Nat.mod_lt value (by omega : 0 < 100)))
  rwa [show value / 100 * 100 + value % 100 = value by omega] at said

theorem groupList_ne_nil (feminine : Bool) {value : Nat} (positive : 0 < value) :
    groupList value feminine ≠ [] := by
  unfold groupList
  dsimp only
  by_cases large : 100 ≤ value
  · simp [large]
  · by_cases teen : 10 ≤ value % 100 ∧ value % 100 < 20
    · simp [teen]
    · by_cases ten : 20 ≤ value % 100
      · simp [large, teen, ten]
      · have last : value % 10 ≠ 0 := by omega
        simp [large, teen, ten, last]

theorem split_underThousand (feminine : Bool) {value : Nat} (positive : 0 < value)
    (small : value < 1000) : Text.split (underThousand value feminine) ' ' = groupList value feminine := by
  rw [underThousand_eq, Text.split_joinSpace (groupList_ne_nil feminine positive),
    split_known (groupList_said feminine small).known]

/-- The word that `form` takes. -/
def Noun.spoken (noun : Noun) (count : Nat) : String :=
  form count noun.singular noun.paucal noun.plural

/-- `form` is the agreement of the grammar. -/
theorem spoken_agrees (noun : Noun) (count : Nat) : noun.Agrees count (noun.spoken count) := by
  unfold Noun.spoken form
  by_cases teen : 11 ≤ count % 100 ∧ count % 100 ≤ 14
  · rw [if_pos teen]
    refine .plural (Or.inr ?_)
    simp only [List.mem_cons, List.not_mem_nil, or_false]
    omega
  · rw [if_neg teen]
    have apart : count % 100 ∉ [11, 12, 13, 14] := by
      simp only [List.mem_cons, List.not_mem_nil, or_false]
      omega
    split
    · rename_i one
      exact .singular one (fun eleven => apart (by simp [eleven]))
    · rename_i two
      exact .paucal (by simp [two]) (fun inside => apart (List.mem_cons_of_mem _ inside))
    · rename_i three
      exact .paucal (by simp [three]) (fun inside => apart (List.mem_cons_of_mem _ inside))
    · rename_i four
      exact .paucal (by simp [four]) (fun inside => apart (List.mem_cons_of_mem _ inside))
    · rename_i one two three four
      refine .plural (Or.inl ?_)
      have digit : count % 10 < 10 := Nat.mod_lt _ (by omega)
      have one' : count % 10 ≠ 1 := one
      have two' : count % 10 ≠ 2 := two
      have three' : count % 10 ≠ 3 := three
      have four' : count % 10 ≠ 4 := four
      simp only [List.mem_cons, List.not_mem_nil, or_false]
      omega

/-- The scale of the source that spells a period. -/
def Period.scale (period : Period) : Scale :=
  ⟨period.size, period.noun.singular, period.noun.paucal, period.noun.plural, period.feminine⟩

theorem scales_eq : scales = [billions.scale, millions.scale, thousands.scale] := rfl

theorem groupWords_scale (value : Nat) (period : Period) :
    groupWords value period.scale =
      if 0 < value / period.size % 1000 then
        [underThousand (value / period.size % 1000) period.feminine,
          period.noun.spoken (value / period.size % 1000)]
      else [] := rfl

theorem split_groupWords {period : Period} (heeded : period.Heeded) (value : Nat) :
    period.Said ((groupWords value period.scale).flatMap fun part => Text.split part ' ')
      (value / period.size % 1000 * period.size) := by
  have small : value / period.size % 1000 < 1000 := Nat.mod_lt _ (by omega)
  rw [groupWords_scale]
  by_cases some : 0 < value / period.size % 1000
  · have agrees := spoken_agrees period.noun (value / period.size % 1000)
    have known : Known (period.noun.spoken (value / period.size % 1000)) := by
      rw [Known, heeded _ agrees.mem]
      rfl
    rw [if_pos some, List.flatMap_cons, List.flatMap_singleton, split_underThousand _ some small,
      Text.split_of_not_mem known.solid]
    exact .some (groupList_said _ small) some agrees
  · rw [if_neg some, List.flatMap_nil, show value / period.size % 1000 = 0 by omega, Nat.zero_mul]
    exact .none

/-- **The words of a number are a numeral of that number.** -/
theorem integerWords_said (feminine : Bool) {value : Nat} (small : value < 10 ^ 12) :
    Numeral feminine (Text.split (integerWords value feminine) ' ') value := by
  unfold integerWords
  by_cases zero : value = 0
  · rw [if_pos zero, zero, Text.split_of_not_mem (by decide)]
    exact .zero
  · rw [if_neg zero]
    have rest : value % 1000 < 1000 := Nat.mod_lt _ (by omega)
    have units : Group feminine
        ((if value % 1000 ≠ 0 then [underThousand (value % 1000) feminine] else []).flatMap
          fun part => Text.split part ' ') (value % 1000) := by
      by_cases none : value % 1000 = 0
      · rw [if_neg (not_not.2 none), none]
        exact groupList_said feminine (by omega : 0 < 1000)
      · rw [if_pos none, List.flatMap_singleton,
          split_underThousand _ (Nat.pos_of_ne_zero none) rest]
        exact groupList_said feminine rest
    have b := split_groupWords heeded_billions value
    have m := split_groupWords heeded_millions value
    have t := split_groupWords heeded_thousands value
    have sum : value / 10 ^ 9 % 1000 * 10 ^ 9 + value / 10 ^ 6 % 1000 * 10 ^ 6 +
        value / 10 ^ 3 % 1000 * 10 ^ 3 + value % 1000 = value := by omega
    have said := Numeral.periods b m t units (by
      show 0 < value / 10 ^ 9 % 1000 * 10 ^ 9 + value / 10 ^ 6 % 1000 * 10 ^ 6 +
        value / 10 ^ 3 % 1000 * 10 ^ 3 + value % 1000
      omega)
    have whole : value / billions.size % 1000 * billions.size +
        value / millions.size % 1000 * millions.size +
        value / thousands.size % 1000 * thousands.size + value % 1000 = value := sum
    rw [whole] at said
    have words : Numeral feminine ((scales.flatMap (groupWords value) ++
        if value % 1000 ≠ 0 then [underThousand (value % 1000) feminine] else []).flatMap
          fun part => Text.split part ' ') value := by
      rw [scales_eq]
      simpa only [List.flatMap_cons, List.flatMap_nil, List.flatMap_append, List.append_nil,
        List.append_assoc] using said
    rw [Text.split_joinSpace]
    · exact words
    · intro none
      rw [none, List.flatMap_nil] at words
      obtain ⟨t, g, heard, sum⟩ := hear_numeral words 0
      cases heard
      exact zero sum.symm

/-! ## Decimals -/

/-- A text of decimal digits with at most two after a point, and its number. -/
inductive Denotes : String → ℚ → Prop
  | whole {whole : String} : Text.Digits whole → Text.digitsValue whole.toList < 10 ^ 12 →
      Denotes whole (Text.digitsValue whole.toList)
  | point {whole fraction : String} : Text.Digits whole →
      Text.digitsValue whole.toList < 10 ^ 12 → (∀ c ∈ fraction.toList, Text.isDigit c = true) →
      fraction.toList.length ≤ 2 → Denotes (whole ++ "." ++ fraction)
        (Text.digitsValue whole.toList +
          Text.digitsValue fraction.toList / 10 ^ fraction.toList.length)

/-- What is left of a fraction of `h` hundredths without its trailing zeros. -/
def Trimmed (fraction : String) (h : Nat) : Prop :=
  let rest := Text.trimEndMatches fraction '0'
  (rest = "" ∧ h = 0) ∨
    (rest ≠ "" ∧ rest.utf8ByteSize = 1 ∧ Text.parseU64 rest = some (h / 10) ∧ h ≠ 0 ∧ h % 10 = 0) ∨
    (rest ≠ "" ∧ rest.utf8ByteSize ≠ 1 ∧ Text.parseU64 rest = some h ∧ h % 10 ≠ 0)

instance (fraction : String) (h : Nat) : Decidable (Trimmed fraction h) := by
  unfold Trimmed
  infer_instance

theorem digit_char {c : Char} (digit : Text.isDigit c = true) :
    ∃ i < 10, c = Nat.digitChar i ∧ c.toNat - '0'.toNat = i :=
  ⟨_, by have := Text.digit_value digit; omega, (Text.digitChar_value digit).symm, rfl⟩

/-- A fraction of at most two digits is a number of hundredths. -/
theorem trimmed_of_digits {fraction : String} (digits : ∀ c ∈ fraction.toList, Text.isDigit c = true)
    (short : fraction.toList.length ≤ 2) : ∃ h < 100, Trimmed fraction h ∧
      (Text.digitsValue fraction.toList : ℚ) / 10 ^ fraction.toList.length = h / 100 := by
  obtain ⟨cs, rfl⟩ : ∃ cs, fraction = String.ofList cs := ⟨_, String.ofList_toList.symm⟩
  rw [String.toList_ofList] at digits short ⊢
  match cs, digits, short with
  | [], _, _ => exact ⟨0, by omega, by decide, by simp [Text.digitsValue]⟩
  | [a], digits, _ =>
      obtain ⟨i, small, rfl, value⟩ := digit_char (digits a List.mem_cons_self)
      have table : ∀ i < 10, Trimmed (String.ofList [Nat.digitChar i]) (10 * i) := by decide +kernel
      refine ⟨10 * i, by omega, table i small, ?_⟩
      simp only [Text.digitsValue, List.foldl_cons, List.foldl_nil, value, List.length_singleton]
      push_cast
      ring
  | [a, b], digits, _ =>
      obtain ⟨i, small, rfl, value⟩ := digit_char (digits a List.mem_cons_self)
      obtain ⟨j, small', rfl, value'⟩ := digit_char (digits b (List.mem_cons_of_mem _ List.mem_cons_self))
      have table : ∀ i < 10, ∀ j < 10,
          Trimmed (String.ofList [Nat.digitChar i, Nat.digitChar j]) (10 * i + j) := by
        decide +kernel
      refine ⟨10 * i + j, by omega, table i small j small', ?_⟩
      simp only [Text.digitsValue, List.foldl_cons, List.foldl_nil, value, value', List.length_cons,
        List.length_nil]
      push_cast
      ring

/-- The words of a number of hundredths. -/
def wordsOf (n h : Nat) : String :=
  if h = 0 then integerWords n false
  else if h % 10 = 0 then
    Text.joinSpace [integerWords n true, wholes.spoken n, integerWords (h / 10) true,
      tenths.spoken (h / 10)]
  else
    Text.joinSpace [integerWords n true, wholes.spoken n, integerWords h true, hundredths.spoken h]

theorem parseU64_whole {whole : String} (digits : Text.Digits whole)
    (small : Text.digitsValue whole.toList < 10 ^ 12) :
    Text.parseU64 whole = some (Text.digitsValue whole.toList) := by
  rw [Text.parseU64, Text.parseUnsigned_of_digits digits, if_pos (by omega)]

theorem decimalWords_whole {whole : String} (digits : Text.Digits whole)
    (small : Text.digitsValue whole.toList < 10 ^ 12) :
    decimalWords whole = some (wordsOf (Text.digitsValue whole.toList) 0) := by
  have unsplit : Text.splitOnce whole '.' = none :=
    Text.splitOnce_eq_none.2 (digits.ne (by decide))
  have nothing : Text.trimEndMatches "" '0' = "" := by decide
  simp [decimalWords, wordsOf, unsplit, parseU64_whole digits small, nothing]

theorem decimalWords_point {whole fraction : String} (digits : Text.Digits whole)
    (small : Text.digitsValue whole.toList < 10 ^ 12)
    (fractionDigits : ∀ c ∈ fraction.toList, Text.isDigit c = true)
    (short : fraction.toList.length ≤ 2) :
    ∃ h : Nat, h < 100 ∧
      (Text.digitsValue fraction.toList : ℚ) / 10 ^ fraction.toList.length = h / 100 ∧
      decimalWords (whole ++ "." ++ fraction) =
        some (wordsOf (Text.digitsValue whole.toList) h) := by
  have parts : Text.splitOnce (whole ++ "." ++ fraction) '.' = some (whole, fraction) := by
    have point : ".".toList = ['.'] := by decide
    rw [Text.splitOnce_eq_some]
    refine ⟨?_, digits.ne (by decide)⟩
    rw [String.toList_append, String.toList_append, point, List.append_assoc]
    rfl
  obtain ⟨h, hundred, trimmed, value⟩ := trimmed_of_digits fractionDigits short
  refine ⟨h, hundred, value, ?_⟩
  rcases trimmed with ⟨empty, none⟩ | ⟨some, single, parsed, positive, tenth⟩ | ⟨some, double, parsed, last⟩
  · simp only [decimalWords, wordsOf, parts, parseU64_whole digits small, empty, none,
      Option.getD_some, Option.bind_eq_bind, Option.bind_some, if_true]
  · simp only [decimalWords, wordsOf, parts, parseU64_whole digits small, some, single, parsed,
      positive, tenth, Option.getD_some, Option.bind_eq_bind, Option.bind_some, if_true, if_false]
    simp only [Text.joinSpace, Noun.spoken, wholes, tenths, String.append_assoc]
  · have positive : h ≠ 0 := by omega
    simp only [decimalWords, wordsOf, parts, parseU64_whole digits small, some, double, parsed,
      positive, last, Option.getD_some, Option.bind_eq_bind, Option.bind_some, if_false]
    simp only [Text.joinSpace, Noun.spoken, wholes, hundredths, String.append_assoc]

/-- The words of a decimal are those of its number. -/
theorem decimalWords_wordsOf {text : String} {x : ℚ} (denotes : Denotes text x) :
    ∃ n h : Nat, n < 10 ^ 12 ∧ h < 100 ∧ x = n + h / 100 ∧ decimalWords text = some (wordsOf n h) := by
  cases denotes with
  | whole digits small => exact ⟨_, 0, small, by omega, by simp, decimalWords_whole digits small⟩
  | @point whole fraction digits small fractionDigits short =>
      obtain ⟨h, hundred, value, words⟩ := decimalWords_point digits small fractionDigits short
      exact ⟨_, h, small, hundred, by rw [value], words⟩

theorem split_noun {noun : Noun} {size : Nat} (divides : noun.Divides size) {count : Nat}
    {word : String} (agrees : noun.Agrees count word) : Text.split word ' ' = [word] := by
  apply Text.split_of_not_mem
  apply Known.solid
  rw [Known, divides _ agrees.mem]
  rfl

/-- **The words of a decimal are a spoken decimal of its number.** -/
theorem wordsOf_said {n h : Nat} (small : n < 10 ^ 12) (hundred : h < 100) :
    SpokenDecimal (Text.split (wordsOf n h) ' ') (n + h / 100) := by
  have whole := spoken_agrees wholes n
  unfold wordsOf
  by_cases none : h = 0
  · have said := SpokenDecimal.whole (integerWords_said false small)
    simpa [none] using said
  · rw [if_neg none]
    by_cases tenth : h % 10 = 0
    · have noun := spoken_agrees tenths (h / 10)
      have said := SpokenDecimal.tenths (integerWords_said true small) whole
        (integerWords_said true (by omega : h / 10 < 10 ^ 12)) noun
      have value : (n : ℚ) + (h / 10 : Nat) / 10 = n + h / 100 := by
        obtain ⟨k, rfl⟩ := Nat.dvd_of_mod_eq_zero tenth
        rw [Nat.mul_div_cancel_left k (by omega)]
        push_cast
        ring
      rw [value] at said
      rw [if_pos tenth, Text.split_joinSpace (List.cons_ne_nil _ _)]
      simp only [List.flatMap_cons, List.flatMap_nil, List.append_nil]
      rw [split_noun wholes_divides whole, split_noun tenths_divides noun]
      simpa only [List.append_assoc] using said
    · have noun := spoken_agrees hundredths h
      have said := SpokenDecimal.hundredths (integerWords_said true small) whole
        (integerWords_said true (by omega : h < 10 ^ 12)) noun
      rw [if_neg tenth, Text.split_joinSpace (List.cons_ne_nil _ _)]
      simp only [List.flatMap_cons, List.flatMap_nil, List.append_nil]
      rw [split_noun wholes_divides whole, split_noun hundredths_divides noun]
      simpa only [List.append_assoc] using said

/-- **Russian number words are faithful.**  The words of a number read back to
exactly that number in either gender, and the words of a decimal read back to
exactly its number, so two decimals sound the same only if they are the same. -/
theorem number_words_faithful :
    (∀ value < 10 ^ 12, ∀ feminine n,
      Numeral feminine (Text.split (integerWords value feminine) ' ') n ↔ n = value) ∧
    (∀ text x, Denotes text x → ∃ words, decimalWords text = some words ∧
      ∀ y, SpokenDecimal (Text.split words ' ') y ↔ y = x) ∧
    ∀ text other x y, Denotes text x → Denotes other y →
      (decimalWords text = decimalWords other ↔ x = y) := by
  have spoken : ∀ text x, Denotes text x → ∃ words, decimalWords text = some words ∧
      ∀ y, SpokenDecimal (Text.split words ' ') y ↔ y = x := by
    intro text x denotes
    obtain ⟨n, h, small, hundred, rfl, words⟩ := decimalWords_wordsOf denotes
    have said := wordsOf_said small hundred
    refine ⟨_, words, fun y => ⟨fun also => also.unique said, ?_⟩⟩
    rintro rfl
    exact said
  refine ⟨fun value small feminine n => ?_, spoken, fun text other x y left right => ?_⟩
  · have said := integerWords_said feminine small
    constructor
    · exact fun also => also.unique said
    · rintro rfl
      exact said
  · constructor
    · intro same
      obtain ⟨words, first, reads⟩ := spoken text x left
      obtain ⟨words', second, reads'⟩ := spoken other y right
      rw [first, second, Option.some.injEq] at same
      subst same
      exact (reads' x).1 ((reads x).2 rfl)
    · intro same
      obtain ⟨n, h, -, hundred, value, words⟩ := decimalWords_wordsOf left
      obtain ⟨n', h', -, hundred', value', words'⟩ := decimalWords_wordsOf right
      have total : n * 100 + h = n' * 100 + h' := by
        rw [value, value'] at same
        have cast : ((n * 100 + h : Nat) : ℚ) = (n' * 100 + h' : Nat) := by
          push_cast
          linarith
        exact_mod_cast cast
      rw [words, words', show n = n' by omega, show h = h' by omega]

/-- Three and five hundredths does not sound like three and a half. -/
theorem number_words_faithful_hundredths : decimalWords "3.05" ≠ decimalWords "3.5" := by
  have digits : "3".toList.all Text.isDigit = true ∧ "05".toList.all Text.isDigit = true ∧
      "5".toList.all Text.isDigit = true := by decide
  have three : Text.Digits "3" := ⟨by decide, List.all_eq_true.1 digits.1⟩
  have small : Text.digitsValue "3".toList < 10 ^ 12 := by decide
  have five : Denotes ("3" ++ "." ++ "05") _ :=
    Denotes.point three small (List.all_eq_true.1 digits.2.1) (by decide)
  have half : Denotes ("3" ++ "." ++ "5") _ :=
    Denotes.point three small (List.all_eq_true.1 digits.2.2) (by decide)
  have texts : "3" ++ "." ++ "05" = "3.05" ∧ "3" ++ "." ++ "5" = "3.5" := by decide
  rw [texts.1] at five
  rw [texts.2] at half
  intro same
  have equal := (number_words_faithful.2.2 _ _ _ _ five half).1 same
  have values : Text.digitsValue "05".toList = 5 ∧ Text.digitsValue "5".toList = 5 := by decide
  have lengths : "05".toList.length = 2 ∧ "5".toList.length = 1 := by decide
  rw [values.1, values.2, lengths.1, lengths.2] at equal
  norm_num at equal

end InverterGateway.Gateway.Russian

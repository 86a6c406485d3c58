/-
# Gateway.AllClear — when the all-clear sentence is spoken

The Russian counterparts of the quiet-text lemmas, and the result over both
locales.  `Plain` texts have no full stop, so they cannot hold `ет.` and a
sentence is clean as soon as its last word with the stop is.  Every expected
parse of the Russian amounts succeeds, because the formats they parse are digit
strings of bounded length.
-/
import InverterGateway.Gateway.Russian

namespace InverterGateway.Gateway.Russian

open InverterGateway.Theory

set_option autoImplicit false

/-! ## Plain and clean texts -/

/-- A text without a full stop. -/
def Plain (s : String) : Prop := '.' ∉ s.toList

instance (s : String) : Decidable (Plain s) := inferInstanceAs (Decidable ('.' ∉ s.toList))

/-- A text without the end of the all-clear sentence. -/
def Clean (s : String) : Prop := Text.contains s "ет." = false

instance (s : String) : Decidable (Clean s) :=
  inferInstanceAs (Decidable (Text.contains s "ет." = false))

@[simp] theorem plain_append {s t : String} : Plain (s ++ t) ↔ Plain s ∧ Plain t := by
  simp [Plain, String.toList_append, not_or]

theorem Plain.clean {s : String} (plain : Plain s) : Clean s :=
  Text.not_contains_of_not_mem (c := '.') (by decide) plain

theorem plain_literal {s : String} {cs : List Char} (literal : s = String.ofList cs)
    (clear : cs.contains '.' = false) : Plain s :=
  Text.not_mem_literal literal clear

theorem clean_literal {s : String} {cs : List Char} (literal : s = String.ofList cs)
    (clear : (cs.tails.any fun rest => ['е', 'т', '.'].isPrefixOf rest) = false) : Clean s :=
  have pattern : "ет." = String.ofList ['е', 'т', '.'] := rfl
  Text.not_contains_literal literal pattern clear

theorem clean_append_literal {s t : String} {a b : List Char} (left : s = String.ofList a)
    (right : t = String.ofList b)
    (clear : ((a ++ b).tails.any fun rest => ['е', 'т', '.'].isPrefixOf rest) = false) :
    Clean (s ++ t) :=
  clean_literal (Text.append_literal left right rfl).symm clear

/-- A plain literal stays clean before a full stop unless it ends in `ет`. -/
theorem clean_stop {s : String} {cs : List Char} (literal : s = String.ofList cs)
    (clear : cs.contains '.' = false) (ending : ['е', 'т'].isSuffixOf cs = false) :
    Clean (s ++ ".") := by
  have plain := plain_literal literal clear
  subst literal
  have point : ".".toList = ['.'] := by decide
  have pattern : "ет.".toList = ['е', 'т'] ++ ['.'] := by decide
  rw [Clean, Text.not_contains_iff, pattern, String.toList_append, String.toList_ofList, point]
  intro inside
  rcases List.infix_concat_iff.1 inside with suffix | earlier
  · have tail : ['е', 'т'] <:+ cs := by
      obtain ⟨front, same⟩ := suffix
      rw [← List.append_assoc] at same
      exact ⟨front, List.append_cancel_right same⟩
    rw [List.isSuffixOf_iff_suffix.2 tail] at ending
    cases ending
  · refine plain ?_
    rw [String.toList_ofList]
    exact earlier.subset (by simp)

theorem Clean.space {s t : String} (left : Clean s) (right : Clean t) : Clean (s ++ " " ++ t) :=
  Text.not_contains_space (by decide) left right

theorem clean_joinSpace {parts : List String} (all : ∀ s ∈ parts, Clean s) :
    Clean (Text.joinSpace parts) :=
  Text.not_contains_joinSpace (by decide) (by decide) parts all

/-! ## Words are spelled with letters -/

/-- The letters of the number words and of the units, the space and the hyphen. -/
def wordLetters : List Char := [' ', '-', 'а', 'в', 'д', 'е', 'ж', 'и', 'к', 'л', 'м', 'н', 'о', 'п',
  'р', 'с', 'т', 'у', 'х', 'ц', 'ч', 'ш', 'ы', 'ь', 'я']

/-- A text of these letters only. -/
def Spelled (s : String) : Prop := ∀ c ∈ s.toList, c ∈ wordLetters

@[simp] theorem spelled_append {s t : String} : Spelled (s ++ t) ↔ Spelled s ∧ Spelled t := by
  simp only [Spelled, String.toList_append, List.forall_mem_append]

theorem spelled_literal {s : String} {cs : List Char} (literal : s = String.ofList cs)
    (letters : (cs.all fun c => wordLetters.contains c) = true) : Spelled s := by
  subst literal
  simpa [Spelled] using letters

/-- A spelled text has no other letters. -/
theorem Spelled.ne {s : String} (spelled : Spelled s) {c : Char} (other : c ∉ wordLetters) :
    c ∉ s.toList :=
  fun found => other (spelled c found)

theorem Spelled.plain {s : String} (spelled : Spelled s) : Plain s :=
  spelled.ne (by decide)

theorem spelled_joinSpace {parts : List String} (all : ∀ s ∈ parts, Spelled s) :
    Spelled (Text.joinSpace parts) := by
  intro c found
  rcases Text.mem_joinSpace parts found with rfl | ⟨s, listed, inside⟩
  · decide
  · exact all s listed c inside

theorem form_cases (value : Nat) (one few many : String) :
    form value one few many ∈ [one, few, many] := by
  unfold form
  split
  · simp
  · split <;> simp

theorem spelled_getD {table : List String} (all : ∀ s ∈ table, Spelled s) (i : Nat) :
    Spelled (table.getD i "") := by
  rw [List.getD_eq_getElem?_getD]
  cases found : table[i]? with
  | none => exact spelled_literal rfl rfl
  | some s => exact all s (List.mem_of_getElem? found)

theorem spelled_underThousand (value : Nat) (feminine : Bool) :
    Spelled (underThousand value feminine) := by
  have h : ∀ s ∈ hundreds, Spelled s := by
    simp only [hundreds, List.forall_mem_cons]
    repeat' apply And.intro
    all_goals first | exact spelled_literal rfl rfl | exact fun _ found => absurd found List.not_mem_nil
  have t : ∀ s ∈ tens, Spelled s := by
    simp only [tens, List.forall_mem_cons]
    repeat' apply And.intro
    all_goals first | exact spelled_literal rfl rfl | exact fun _ found => absurd found List.not_mem_nil
  have e : ∀ s ∈ teens, Spelled s := by
    simp only [teens, List.forall_mem_cons]
    repeat' apply And.intro
    all_goals first | exact spelled_literal rfl rfl | exact fun _ found => absurd found List.not_mem_nil
  have o : ∀ s ∈ ones feminine, Spelled s := by
    cases feminine <;> simp only [ones, List.forall_mem_cons] <;> repeat' apply And.intro
    all_goals first | exact spelled_literal rfl rfl | exact fun _ found => absurd found List.not_mem_nil
  apply spelled_joinSpace
  intro s found
  rw [List.mem_append] at found
  rcases found with hundred | tail
  · split at hundred
    · rw [List.mem_singleton.1 hundred]
      exact spelled_getD h _
    · cases hundred
  · split at tail
    · rw [List.mem_singleton.1 tail]
      exact spelled_getD e _
    · rw [List.mem_append] at tail
      rcases tail with ten | one
      · split at ten
        · rw [List.mem_singleton.1 ten]
          exact spelled_getD t _
        · cases ten
      · split at one
        · rw [List.mem_singleton.1 one]
          exact spelled_getD o _
        · cases one

theorem spelled_integerWords (value : Nat) (feminine : Bool) : Spelled (integerWords value feminine) := by
  have nouns : ∀ scale ∈ scales, ∀ s ∈ [scale.one, scale.few, scale.many], Spelled s := by
    simp only [scales, List.forall_mem_cons]
    repeat' apply And.intro
    all_goals first | exact spelled_literal rfl rfl | exact fun _ found => absurd found List.not_mem_nil
  unfold integerWords
  split
  · exact spelled_literal rfl rfl
  · apply spelled_joinSpace
    intro s found
    rw [List.mem_append] at found
    rcases found with group | rest
    · obtain ⟨scale, listed, inside⟩ := List.mem_flatMap.1 group
      unfold groupWords at inside
      dsimp only at inside
      split at inside
      · rw [List.mem_cons, List.mem_singleton] at inside
        rcases inside with rfl | rfl
        · exact spelled_underThousand _ _
        · exact nouns scale listed _ (form_cases _ _ _ _)
      · cases inside
    · split at rest
      · rw [List.mem_singleton.1 rest]
        exact spelled_underThousand _ _
      · cases rest

/-! ## Parses that succeed -/

/-- A decimal of at most ten whole and two fraction digits. -/
def DecimalText (text : String) : Prop :=
  ∃ whole, Text.Digits whole ∧ whole.toList.length ≤ 10 ∧
    (text = whole ∨ ∃ fraction, Text.Digits fraction ∧ fraction.toList.length ≤ 2 ∧
      text = whole ++ "." ++ fraction)

/-- A decimal has digits and points only. -/
theorem DecimalText.ne {text : String} (decimal : DecimalText text) {c : Char}
    (notDigit : Text.isDigit c = false) (notPoint : c ≠ '.') : c ∉ text.toList := by
  obtain ⟨whole, digits, -, shape⟩ := decimal
  have point : ".".toList = ['.'] := by decide
  rcases shape with rfl | ⟨fraction, fractionDigits, -, rfl⟩
  · exact digits.ne notDigit
  · simp only [String.toList_append, point, List.mem_append, List.mem_singleton, not_or]
    exact ⟨⟨digits.ne notDigit, notPoint⟩, fractionDigits.ne notDigit⟩

theorem decimalWords_eq {text : String} (decimal : DecimalText text) :
    ∃ words, decimalWords text = some words ∧ Spelled words := by
  obtain ⟨whole, digits, short, shape⟩ := decimal
  have parsed := Text.parseU64_digits digits (by omega)
  have point : ".".toList = ['.'] := by decide
  rcases shape with rfl | ⟨fraction, fractionDigits, fractionShort, rfl⟩
  · have unsplit : Text.splitOnce text '.' = none :=
      Text.splitOnce_eq_none.2 (digits.ne (by decide))
    have nothing : Text.trimEndMatches "" '0' = "" := by decide
    refine ⟨integerWords (Text.digitsValue text.toList) false, ?_, spelled_integerWords _ _⟩
    simp [decimalWords, unsplit, parsed, nothing]
  · have parts : Text.splitOnce (whole ++ "." ++ fraction) '.' = some (whole, fraction) := by
      rw [Text.splitOnce_eq_some]
      refine ⟨?_, digits.ne (by decide)⟩
      rw [String.toList_append, String.toList_append, point, List.append_assoc]
      rfl
    by_cases empty : Text.trimEndMatches fraction '0' = ""
    · refine ⟨integerWords (Text.digitsValue whole.toList) false, ?_, spelled_integerWords _ _⟩
      simp [decimalWords, parts, parsed, empty]
    · have nonempty : (Text.trimEndMatches fraction '0').toList ≠ [] := by
        rw [ne_eq, String.toList_eq_nil_iff]
        exact empty
      obtain ⟨trimmedDigits, trimmedShort⟩ := Text.trimEndMatches_digits fractionDigits '0' nonempty
      have numerator := Text.parseU64_digits trimmedDigits (by omega)
      refine ⟨_, by
        simp only [decimalWords, parts, parsed, empty, numerator, Option.getD_some,
          Option.bind_eq_bind, Option.bind_some, if_false]
        rfl, ?_⟩
      have wholeForms : ∀ s ∈ ["целая", "целых", "целых"], Spelled s :=
        forall_mem_three (spelled_literal rfl rfl) (spelled_literal rfl rfl) (spelled_literal rfl rfl)
      have tenths : ∀ s ∈ ["десятая", "десятых", "десятых"], Spelled s :=
        forall_mem_three (spelled_literal rfl rfl) (spelled_literal rfl rfl) (spelled_literal rfl rfl)
      have hundredths : ∀ s ∈ ["сотая", "сотых", "сотых"], Spelled s :=
        forall_mem_three (spelled_literal rfl rfl) (spelled_literal rfl rfl) (spelled_literal rfl rfl)
      simp only [spelled_append, spelled_integerWords, true_and, and_true]
      refine ⟨⟨⟨⟨spelled_literal rfl rfl, wholeForms _ (form_cases _ _ _ _)⟩, spelled_literal rfl rfl⟩,
        spelled_literal rfl rfl⟩, ?_⟩
      split
      · exact tenths _ (form_cases _ _ _ _)
      · exact hundredths _ (form_cases _ _ _ _)

/-- Numbers that end in one are spoken with the masculine word last. -/
theorem underThousand_one {value : Nat} (one : value % 10 = 1) (notEleven : value % 100 ≠ 11) :
    ∃ stem, underThousand value false = stem ++ "один" := by
  have digit : value % 100 % 10 = 1 := by omega
  have notTeen : ¬(10 ≤ value % 100 ∧ value % 100 < 20) := by omega
  have word : (ones false).getD 1 "" = "один" := rfl
  have some : ¬ (1 : Nat) = 0 := by omega
  unfold underThousand
  simp only [notTeen, if_false, digit, word, ne_eq, some, not_false_eq_true, if_true,
    ← List.append_assoc]
  exact Text.joinSpace_concat _ _

theorem neuterWords_eq (value : Nat) : ∃ words, neuterWords value = some words ∧ Spelled words := by
  unfold neuterWords
  dsimp only
  split
  · rename_i one
    have notZero : ¬ value = 0 := by omega
    have rest : value % 1000 ≠ 0 := by omega
    obtain ⟨stem, tail⟩ : ∃ stem, underThousand (value % 1000) false = stem ++ "один" :=
      underThousand_one (by omega) (by omega)
    obtain ⟨front, whole⟩ := Text.joinSpace_concat (scales.flatMap (groupWords value))
      (underThousand (value % 1000) false)
    have ends : integerWords value false = (front ++ stem) ++ "один" := by
      rw [integerWords, if_neg notZero, if_pos rest, whole, tail, String.append_assoc]
    have plain := spelled_integerWords value false
    rw [ends] at plain ⊢
    rw [Text.stripSuffix_append]
    rw [spelled_append] at plain
    refine ⟨front ++ stem ++ "одно", rfl, ?_⟩
    rw [spelled_append]
    exact ⟨plain.1, spelled_literal rfl rfl⟩
  · exact ⟨_, rfl, spelled_integerWords _ _⟩

/-! ## Amounts -/

section Speech

variable {F : Type} [Binary64 F] [Binary64.Lawful F]

/-- The words a unit can take. -/
def unitWords : List String :=
  ["процент", "процента", "процентов", "киловатт", "киловатта", "ватт", "ватта", "киловатт-час",
    "киловатт-часа", "киловатт-часов"]

theorem scaled_spec {value : F} (finite : Binary64.isFinite value = true)
    (unsigned : Binary64.Unsigned value) (unit : String) :
    Binary64.isFinite (scaled value unit).value = true ∧
      Binary64.Unsigned (scaled value unit).value ∧ (scaled value unit).digits ≤ 2 ∧
      ∀ s ∈ [(scaled value unit).one, (scaled value unit).few, (scaled value unit).many],
        s ∈ unitWords := by
  have percent : ∀ s ∈ ["процент", "процента", "процентов"], s ∈ unitWords := by
    simp [unitWords]
  have kilowatt : ∀ s ∈ ["киловатт", "киловатта", "киловатт"], s ∈ unitWords := by
    simp [unitWords]
  have watt : ∀ s ∈ ["ватт", "ватта", "ватт"], s ∈ unitWords := by
    simp [unitWords]
  have hour : ∀ s ∈ ["киловатт-час", "киловатт-часа", "киловатт-часов"], s ∈ unitWords := by
    simp [unitWords]
  unfold scaled
  split
  · exact ⟨finite, unsigned, Nat.le_succ 1, percent⟩
  · split
    · rename_i large
      obtain ⟨quotientFinite, pos⟩ := Binary64.Lawful.div_thousand value finite large
      exact ⟨quotientFinite, Or.inr pos, le_rfl, kilowatt⟩
    · exact ⟨finite, unsigned, Nat.zero_le 2, watt⟩
  · exact ⟨finite, unsigned, le_rfl, hour⟩

theorem decimalText_append {whole fraction : String} (digits : Text.Digits whole)
    (short : whole.toList.length ≤ 10) {n : Nat} (few : n ≤ 2)
    (shape : Binary64.FractionText n fraction) : DecimalText (whole ++ fraction) := by
  refine ⟨whole, digits, short, ?_⟩
  unfold Binary64.FractionText at shape
  split at shape
  · subst shape
    exact Or.inl String.append_empty
  · obtain ⟨tail, rfl, tailDigits, length⟩ := shape
    exact Or.inr ⟨tail, tailDigits, by omega, (String.append_assoc).symm⟩

/-- A trimmed fixed-point text is a decimal, and without a point a whole number. -/
theorem trimDecimal_decimal {whole fraction : String} (digits : Text.Digits whole)
    (short : whole.toList.length ≤ 10) {n : Nat} (few : n ≤ 2)
    (shape : Binary64.FractionText n fraction) :
    DecimalText (trimDecimal (whole ++ fraction)) ∧
      (Text.containsChar (trimDecimal (whole ++ fraction)) '.' = false →
        (Text.parseU64 (trimDecimal (whole ++ fraction))).isSome = true) := by
  have point : ".".toList = ['.'] := by decide
  have wholeParses : (Text.parseU64 whole).isSome = true := by
    rw [Text.parseU64_digits digits (by omega)]
    rfl
  unfold Binary64.FractionText at shape
  split at shape
  · subst shape
    have noPoint : Text.containsChar whole '.' = false := by
      rw [← Bool.not_eq_true, Text.containsChar_iff]
      exact digits.ne (by decide)
    rw [String.append_empty, trimDecimal, noPoint]
    exact ⟨⟨whole, digits, short, Or.inl rfl⟩, fun _ => wholeParses⟩
  · obtain ⟨tail, rfl, tailDigits, length⟩ := shape
    have hasPoint : Text.containsChar (whole ++ ("." ++ tail)) '.' = true := by
      rw [Text.containsChar_iff]
      simp [String.toList_append, point]
    rw [trimDecimal, hasPoint, if_pos rfl, ← String.append_assoc]
    rcases Text.trim_decimal digits tailDigits with ⟨-, whole'⟩ | ⟨kept, -, keptDigits, keptShort, same⟩
    · rw [whole']
      exact ⟨⟨whole, digits, short, Or.inl rfl⟩, fun _ => wholeParses⟩
    · rw [same]
      refine ⟨⟨whole, digits, short, Or.inr ⟨kept, keptDigits, by omega, rfl⟩⟩, fun noPoint => ?_⟩
      have point' : Text.containsChar (whole ++ "." ++ kept) '.' = true := by
        rw [Text.containsChar_iff]
        simp [String.toList_append, point]
      rw [point'] at noPoint
      cases noPoint

/-- **Every amount of a response is spoken**, with its unit last. -/
theorem amount_eq {value : F} (present : Binary64.Presentable value) (unit : String) :
    ∃ words last, amount value unit = some (words ++ " " ++ last) ∧ Spelled words ∧
      last ∈ unitWords := by
  obtain ⟨finite, unsigned⟩ := present.normalizeZero
  obtain ⟨scaledFinite, scaledUnsigned, few, units⟩ := scaled_spec finite unsigned unit
  generalize same : scaled (Binary64.normalizeZero value) unit = spoken at *
  unfold amount
  simp only [same]
  cases large : Binary64.le (Binary64.ofNat 1000000000) spoken.value with
  | true =>
      obtain ⟨lead, fraction, exponent, whole, leadDigits, leadShort, shape, powerDigits, powerShort⟩ :=
        Binary64.Lawful.scientific_text spoken.value spoken.digits scaledFinite large
      have coefficient : DecimalText (lead ++ fraction) :=
        decimalText_append leadDigits (by omega) few shape
      obtain ⟨words, spokenWords, plain⟩ := decimalWords_eq coefficient
      have letter : "e".toList = ['e'] := by decide
      have parts : Text.splitOnce (Binary64.scientific spoken.value spoken.digits) 'e' =
          some (lead ++ fraction, exponent) := by
        rw [whole, Text.splitOnce_eq_some]
        refine ⟨by simp [String.toList_append, letter], coefficient.ne (by decide) (by decide)⟩
      have power := Text.parseU64_digits powerDigits (by omega)
      refine ⟨words ++ " умножить на десять в степени " ++
        integerWords (Text.digitsValue exponent.toList) false, spoken.many, ?_, ?_, ?_⟩
      · simp [parts, spokenWords, power]
      · simp only [spelled_append, spelled_integerWords, and_true]
        exact ⟨plain, spelled_literal rfl rfl⟩
      · exact units _ (by simp)
  | false =>
      obtain ⟨whole, fraction, text, wholeDigits, short, shape⟩ :=
        Binary64.Lawful.fixed_text spoken.value spoken.digits scaledFinite scaledUnsigned large
      obtain ⟨decimal, parses⟩ := trimDecimal_decimal wholeDigits short few shape
      rw [← text] at decimal parses
      obtain ⟨words, spokenWords, plain⟩ := decimalWords_eq decimal
      cases pointed : Text.containsChar (trimDecimal (Binary64.fixed spoken.value spoken.digits)) '.' with
      | true =>
          refine ⟨words, spoken.few, ?_, plain, units _ (by simp)⟩
          simp [spokenWords]
      | false =>
          obtain ⟨n, number⟩ := Option.isSome_iff_exists.1 (parses pointed)
          refine ⟨words, form n spoken.one spoken.few spoken.many, ?_, plain,
            units _ (form_cases _ _ _ _)⟩
          simp [spokenWords, number]

/-! ## Clean sentences -/

omit [Binary64 F] [Binary64.Lawful F] in
theorem clean_sentence {label text : String} (rest : String) (plain : Plain label)
    (parts : text = ": " ++ rest) (clean : Clean rest) : Clean (label ++ text) := by
  have colon : (": " : String) = ":" ++ " " := Text.append_literal rfl rfl rfl
  have whole : label ++ text = label ++ ":" ++ " " ++ rest := by
    rw [parts, colon]
    simp only [String.append_assoc]
  rw [whole]
  exact Clean.space (Plain.clean (plain_append.2 ⟨plain, plain_literal rfl rfl⟩)) clean

theorem amount_clean {value : F} (present : Binary64.Presentable value) (unit : String) :
    ∃ spoken, amount value unit = some spoken ∧ Clean (spoken ++ ".") := by
  have stops : ∀ last ∈ unitWords, Clean (last ++ ".") := by
    simp only [unitWords, List.forall_mem_cons]
    repeat' apply And.intro
    all_goals first | exact clean_stop rfl rfl rfl | exact fun _ found => absurd found List.not_mem_nil
  obtain ⟨words, last, same, spelled, listed⟩ := amount_eq present unit
  refine ⟨_, same, ?_⟩
  rw [String.append_assoc]
  exact spelled.plain.clean.space (stops last listed)

theorem metricReport_eq {m : Metric F} (present : ∀ v, m.value = some v → Binary64.Presentable v)
    (label : String) (plain : Plain label) (connected : Bool) :
    ∃ text, metricReport m label connected = some text ∧ Clean text := by
  unfold metricReport
  split
  · rename_i value _ shown
    obtain ⟨spoken, same, clean⟩ := amount_clean (present value shown) m.unit
    refine ⟨label ++ ": " ++ spoken ++ ".", by rw [same]; rfl, ?_⟩
    rw [String.append_assoc, String.append_assoc]
    exact clean_sentence _ plain rfl clean
  · exact ⟨_, rfl, clean_sentence "источник не настроен." plain
      (Text.append_literal rfl rfl rfl)
      (clean_literal rfl rfl)⟩
  · exact ⟨_, rfl, clean_sentence "данные устарели, дождитесь обновления телеметрии." plain
      (Text.append_literal rfl rfl rfl)
      (clean_literal rfl rfl)⟩
  · split
    · exact ⟨_, rfl, clean_sentence "данные недоступны, нет связи с Cerbo GX." plain
        (Text.append_literal rfl rfl rfl)
      (clean_literal rfl rfl)⟩
    · exact ⟨_, rfl, clean_sentence "текущие данные отсутствуют или некорректны." plain
        (Text.append_literal rfl rfl rfl)
      (clean_literal rfl rfl)⟩

theorem directionalReport_some {m : Metric F}
    (finite : ∀ v, m.value = some v → Binary64.isFinite v = true) (grid : Bool) :
    ∃ text, directionalReport m grid = some text := by
  unfold directionalReport
  dsimp only
  split
  · rename_i value _ shown
    cases zero : Binary64.eq value (Binary64.ofNat 0) with
    | true => exact ⟨_, rfl⟩
    | false =>
        obtain ⟨absFinite, pos⟩ := Binary64.Lawful.abs_pos value (finite value shown) zero
        obtain ⟨spoken, same, -⟩ := amount_clean ⟨absFinite, Or.inr pos⟩ "W"
        obtain ⟨power, known⟩ : ∃ power,
            (if Binary64.lt (Binary64.abs value) (Binary64.ofNat 1) then some "меньше одного ватта"
              else amount (Binary64.abs value) "W") = some power := by
          split
          · exact ⟨_, rfl⟩
          · exact ⟨_, same⟩
        simp only [Bool.false_eq_true, if_false, known]
        exact ⟨_, rfl⟩
  · rename_i mute
    unfold metricReport
    split
    · rename_i value status shown
      exact absurd shown (mute value status)
    · exact ⟨_, rfl⟩
    · exact ⟨_, rfl⟩
    · exact ⟨_, rfl⟩

end Speech

/-! ## The alarm report -/

theorem alarmLabel_clean (source : String) : Clean (alarmLabel source ++ ".") := by
  have table : ∀ entry ∈ labels, Plain entry.2 ∧ Clean (entry.2 ++ ".") := by
    simp only [labels, List.forall_mem_cons]
    repeat' apply And.intro
    all_goals first
      | exact plain_literal rfl rfl
      | exact clean_stop rfl rfl rfl
      | exact fun _ found => absurd found List.not_mem_nil
  have generic : Plain genericLabel ∧ Clean (genericLabel ++ ".") :=
    ⟨plain_literal rfl rfl, clean_stop rfl rfl rfl⟩
  have label : ∀ key, Plain ((labels.lookup key).getD genericLabel) ∧
      Clean ((labels.lookup key).getD genericLabel ++ ".") := by
    intro key
    cases found : labels.lookup key with
    | none => exact generic
    | some text =>
        obtain ⟨before, after, same, -⟩ := List.lookup_eq_some_iff.1 found
        exact table (key, text) (by rw [same]; simp)
  have words : ∀ phase, Clean (phaseWord phase ++ ".") := by
    intro phase
    unfold phaseWord
    split <;> exact clean_stop rfl rfl rfl
  unfold alarmLabel
  dsimp only
  split
  · exact generic.2
  · split
    · rename_i phase _
      have blank : (", фаза " : String) = ", фаза" ++ " " := Text.append_literal rfl rfl rfl
      rw [blank, ← String.append_assoc, String.append_assoc]
      refine Clean.space (Plain.clean (plain_append.2 ⟨(label _).1, plain_literal rfl rfl⟩)) (words phase)
    · exact (label _).2

/-- The Russian all-clear sentence. -/
def allClear : String := "В контролируемых источниках активных аварий нет."

set_option maxRecDepth 2000 in
theorem coverage_clean {status : Status} {active : List ActiveAlarm} (connected : Bool)
    (wrong : ¬(status = .fresh ∧ active = [])) :
    ∀ s ∈ (coverage status connected active).toList, Clean s := by
  intro s found
  cases status with
  | unconfigured =>
      obtain rfl := List.mem_singleton.1 found
      exact clean_literal rfl rfl
  | unavailable =>
      cases connected with
      | true =>
          obtain rfl := List.mem_singleton.1 found
          exact clean_literal rfl rfl
      | false =>
          obtain rfl := List.mem_singleton.1 found
          exact clean_literal rfl rfl
  | stale =>
      obtain rfl := List.mem_singleton.1 found
      exact clean_literal rfl rfl
  | fresh =>
      cases active with
      | nil => exact absurd ⟨rfl, rfl⟩ wrong
      | cons _ _ => exact absurd found List.not_mem_nil

theorem alarmReport_clear {alarms : Alarms} (connected : Bool) (fresh : alarms.status = .fresh)
    (none : alarms.active = []) : alarmReport alarms connected = some allClear := by
  simp [alarmReport, fresh, none, coverage, Alarms.spoken, spokenAlarmLimit, Text.joinSpace,
    allClear]

theorem alarmReport_clean {alarms : Alarms} (connected : Bool)
    (stops : ∀ alarm ∈ alarms.active, Clean (alarm.label ++ "."))
    (wrong : ¬(alarms.status = .fresh ∧ alarms.active = [])) :
    ∃ text, alarmReport alarms connected = some text ∧ Clean text := by
  have messages : ∀ alarm ∈ Alarms.spoken alarms.active, ∀ severity, Plain severity →
      Clean (severity ++ ": " ++ alarm.label ++ ".") := by
    intro alarm spoken severity plain
    rw [String.append_assoc, String.append_assoc]
    exact clean_sentence _ plain rfl (stops alarm (Alarms.mem_spoken spoken))
  have covered := coverage_clean connected wrong
  by_cases summarized : spokenAlarmLimit < alarms.active.length
  · obtain ⟨warningWords, same, spelled⟩ := neuterWords_eq
      (alarms.active.length - (alarms.active.filter fun alarm => alarm.severity == .alarm).length)
    have nouns : ∀ s ∈ ["предупреждение", "предупреждения", "предупреждений"], Clean (s ++ ".") :=
      forall_mem_three (P := fun s => Clean (s ++ ".")) (clean_stop rfl rfl rfl) (clean_stop rfl rfl rfl)
        (clean_stop rfl rfl rfl)
    have accidents : ∀ s ∈ ["авария", "аварии", "аварий"], Plain s :=
      forall_mem_three (plain_literal rfl rfl) (plain_literal rfl rfl) (plain_literal rfl rfl)
    have signals : ∀ s ∈ ["активный сигнал", "активных сигнала", "активных сигналов"],
        Clean (s ++ ". Полный список доступен в шлюзе.") :=
      forall_mem_three (P := fun s => Clean (s ++ ". Полный список доступен в шлюзе."))
        (clean_append_literal rfl rfl rfl) (clean_append_literal rfl rfl rfl)
        (clean_append_literal rfl rfl rfl)
    refine ⟨_, by simp only [alarmReport, summarized, if_true, same]; rfl, ?_⟩
    apply clean_joinSpace
    intro s found
    simp only [List.mem_append, List.mem_singleton] at found
    rcases found with ((rfl | message) | rfl) | coverage
    · have rest : Clean (form (alarms.active.length - (alarms.active.filter fun alarm =>
          alarm.severity == .alarm).length) "предупреждение" "предупреждения" "предупреждений" ++
          ".") := nouns _ (form_cases _ _ _ _)
      rw [String.append_assoc]
      refine Clean.space (Plain.clean ?_) rest
      have number := (spelled_integerWords (alarms.active.filter fun alarm =>
        alarm.severity == .alarm).length true).plain
      simp only [plain_append, number, spelled.plain, and_true]
      exact ⟨⟨⟨plain_literal rfl rfl, plain_literal rfl rfl⟩, accidents _ (form_cases _ _ _ _)⟩,
        plain_literal rfl rfl⟩
    · obtain ⟨alarm, spoken, rfl⟩ := List.mem_map.1 message
      refine messages alarm spoken _ ?_
      cases alarm.severity <;> exact plain_literal rfl rfl
    · have rest : Clean (form (alarms.active.length - spokenAlarmLimit) "активный сигнал"
          "активных сигнала" "активных сигналов" ++ ". Полный список доступен в шлюзе.") :=
        signals _ (form_cases _ _ _ _)
      rw [String.append_assoc]
      refine Clean.space (Plain.clean ?_) rest
      have number := (spelled_integerWords (alarms.active.length - spokenAlarmLimit) false).plain
      simp only [plain_append, number, and_true]
      exact plain_literal rfl rfl
    · exact covered s coverage
  · refine ⟨_, by simp only [alarmReport, summarized, if_false]; rfl, ?_⟩
    apply clean_joinSpace
    intro s found
    simp only [List.nil_append, List.append_nil, List.mem_append] at found
    rcases found with message | coverage
    · obtain ⟨alarm, spoken, rfl⟩ := List.mem_map.1 message
      refine messages alarm spoken _ ?_
      cases alarm.severity <;> exact plain_literal rfl rfl
    · exact covered s coverage

/-! ## The localized response -/

section Localize

variable {F : Type} [Binary64 F] [Binary64.Lawful F]

/-- Every number of a response can be spoken. -/
structure Spoken (metrics : Metrics F) : Prop where
  battery : ∀ v, metrics.batterySoc.value = some v → Binary64.Presentable v
  solar : ∀ v, metrics.solarPower.value = some v → Binary64.Presentable v
  today : ∀ v, metrics.solarToday.value = some v → Binary64.Presentable v
  load : ∀ m, metrics.loadPower = some m → ∀ v, m.value = some v → Binary64.Presentable v
  grid : ∀ m, metrics.gridPower = some m → ∀ v, m.value = some v → Binary64.isFinite v = true
  flow : ∀ m, metrics.batteryPower = some m → ∀ v, m.value = some v → Binary64.isFinite v = true

theorem spoken_build (cfg : EnergyConfig) (connected : Bool) (readings : Table (Reading F))
    (now : Instant) : Spoken (Metrics.build cfg connected readings now) where
  battery _ shown := metric_presentable shown
  solar _ shown := metric_presentable shown
  today _ shown := metric_presentable shown
  load m found v shown := by
    simp only [Metrics.build] at found
    split at found
    · obtain rfl := Option.some.inj found
      exact metric_presentable shown
    · cases found
  grid m found v shown := by
    simp only [Metrics.build] at found
    split at found
    · obtain rfl := Option.some.inj found
      exact (collectMetric_value shown).1
    · cases found
  flow m found v shown := by
    simp only [Metrics.build] at found
    split at found
    · obtain rfl := Option.some.inj found
      exact (collectMetric_value shown).1
    · cases found

theorem flowText_some {metrics : Metrics F} (spoken : Spoken metrics) (connected : Bool)
    (flow : Option Report) : ∃ text, flowText metrics connected flow = some text := by
  unfold flowText
  split
  · rename_i report load grid battery hasLoad hasGrid hasBattery
    split
    · obtain ⟨loadText, loadSame, -⟩ := metricReport_eq (spoken.load load hasLoad)
        "Выбранные нагрузки переменного тока" (plain_literal rfl rfl) true
      obtain ⟨gridText, gridSame⟩ := directionalReport_some (spoken.grid grid hasGrid) true
      obtain ⟨batteryText, batterySame⟩ := directionalReport_some (spoken.flow battery hasBattery) false
      exact ⟨_, by simp only [loadSame, gridSame, batterySame]; rfl⟩
    · exact ⟨_, rfl⟩
  · exact ⟨_, rfl⟩

/-- **The Russian texts**: always there, clean unless nothing is wrong, and then
the all-clear sentence. -/
theorem localize_eq (response : EnergyResponse F) (spoken : Spoken response.metrics) :
    ∃ localized, localize response = some localized ∧
      (response.alarms.status = .fresh ∧ response.alarms.active = [] →
        localized.reports.alarms.text = allClear) ∧
      (¬(response.alarms.status = .fresh ∧ response.alarms.active = []) →
        Clean localized.reports.alarms.text ∧ Clean localized.reports.status.text ∧
          ∀ brief, localized.reports.status.briefText = some brief → Clean brief) := by
  have dailyPlain : ∀ chargers : Bool, Plain (if chargers then
      "Выработка солнечных контроллеров сегодня" else "Солнечная выработка сегодня") := by
    intro chargers
    cases chargers <;> exact plain_literal rfl rfl
  have shortPlain : ∀ chargers : Bool, Plain (if chargers then
      "Солнечные контроллеры сегодня" else "Солнце сегодня") := by
    intro chargers
    cases chargers <;> exact plain_literal rfl rfl
  obtain ⟨battery, batterySame, batteryClean⟩ := metricReport_eq spoken.battery
    "Заряд аккумулятора" (plain_literal rfl rfl) response.mqttConnected
  obtain ⟨solar, solarSame, solarClean⟩ := metricReport_eq spoken.solar
    "Солнечная мощность" (plain_literal rfl rfl) response.mqttConnected
  obtain ⟨today, todaySame, todayClean⟩ := metricReport_eq spoken.today
    _ (dailyPlain (chargersOnly response.metrics.solarToday.sources)) response.mqttConnected
  obtain ⟨batteryBrief, batteryBriefSame, batteryBriefClean⟩ := metricReport_eq spoken.battery
    "Аккумулятор" (plain_literal rfl rfl) response.mqttConnected
  obtain ⟨solarBrief, solarBriefSame, solarBriefClean⟩ := metricReport_eq spoken.solar
    "Солнце" (plain_literal rfl rfl) response.mqttConnected
  obtain ⟨todayBrief, todayBriefSame, todayBriefClean⟩ := metricReport_eq spoken.today
    _ (shortPlain (chargersOnly response.metrics.solarToday.sources)) response.mqttConnected
  obtain ⟨flow, flowSame⟩ := flowText_some spoken response.mqttConnected response.reports.flow
  let alarms : Alarms := { response.alarms with
    active := response.alarms.active.map fun alarm => { alarm with label := alarmLabel alarm.source } }
  have stops : ∀ alarm ∈ alarms.active, Clean (alarm.label ++ ".") := by
    intro alarm found
    obtain ⟨original, -, rfl⟩ := List.mem_map.1 found
    exact alarmLabel_clean original.source
  have same : (response.alarms.status = .fresh ∧ response.alarms.active = []) ↔
      (alarms.status = .fresh ∧ alarms.active = []) := by
    show _ ↔ response.alarms.status = .fresh ∧ response.alarms.active.map _ = []
    rw [List.map_eq_nil_iff]
  rw [same]
  obtain ⟨alarmText, alarmSame, whenClear, whenWrong⟩ : ∃ text,
      alarmReport alarms response.mqttConnected = some text ∧
        (alarms.status = .fresh ∧ alarms.active = [] → text = allClear) ∧
        (¬(alarms.status = .fresh ∧ alarms.active = []) → Clean text) := by
    by_cases clear : alarms.status = .fresh ∧ alarms.active = []
    · exact ⟨_, alarmReport_clear _ clear.1 clear.2, fun _ => rfl, fun wrong => absurd clear wrong⟩
    · obtain ⟨text, spokenText, clean⟩ := alarmReport_clean response.mqttConnected stops clear
      exact ⟨text, spokenText, fun h => absurd h clear, fun _ => clean⟩
  refine ⟨_, by
    simp only [localize, batterySame, solarSame, todaySame, batteryBriefSame, solarBriefSame,
      todayBriefSame, flowSame, Option.bind_eq_bind, Option.bind_some]
    rw [show alarmReport _ response.mqttConnected = some alarmText from alarmSame]
    rfl, whenClear, fun wrong => ⟨whenWrong wrong, ?_, fun brief shown => ?_⟩⟩
  · show Clean (if response.mqttConnected then _ else disconnectedText)
    split
    · exact clean_joinSpace (List.forall_mem_cons.2 ⟨batteryClean, forall_mem_three solarClean
        todayClean (whenWrong wrong)⟩)
    · exact clean_literal rfl rfl
  · have text : brief = if response.mqttConnected then _ else disconnectedText :=
      (Option.some.inj shown).symm
    rw [text]
    have parts := forall_mem_three batteryBriefClean solarBriefClean todayBriefClean
    split
    · apply clean_joinSpace
      split
      · exact fun s found => (List.mem_append.1 found).elim (parts s) fun last => by
          rw [List.mem_singleton.1 last]
          exact whenWrong wrong
      · exact List.forall_mem_cons.2 ⟨whenWrong wrong, parts⟩
    · exact clean_literal rfl rfl

end Localize

end InverterGateway.Gateway.Russian

namespace InverterGateway.Gateway

open InverterGateway.Theory

/-- The all-clear sentence of a locale. -/
def allClear : EnergyLocale → String
  | .en => Alarms.allClear
  | .ru => Russian.allClear

section

variable {F : Type} [Binary64 F] [Binary64.Lawful F]

/-- Connected, with sources to monitor, all of which read zero and are recent. -/
def AllClear (cfg : EnergyConfig) (connected : Bool) (readings : Table (Reading F))
    (now : Instant) : Prop :=
  connected = true ∧ cfg.alarmSources ≠ [] ∧
    ∀ source ∈ cfg.alarmSources, ClearSource readings now cfg.maxAge source

theorem quiet_no_all_clear {s : String} (quiet : Quiet s) :
    Text.contains s (allClear .en) = false :=
  Text.not_contains_of_not_mem (c := 'N') (by decide) quiet

theorem clean_no_all_clear {s : String} (clean : Russian.Clean s) :
    Text.contains s (allClear .ru) = false := by
  refine Text.not_contains_of_part "ет." ?_ clean
  have ends : allClear .ru = "В контролируемых источниках активных аварий н" ++ "ет." :=
    Text.append_literal rfl rfl rfl
  rw [Text.contains_iff, ends, String.toList_append]
  exact List.infix_append_right

/-- **No false all-clear.**  In either locale the response exists, and its alarm
report is the all-clear sentence exactly when nothing is wrong; otherwise the
sentence is in none of the alarm report, the status report and its brief form. -/
theorem all_clear_iff (cfg : EnergyConfig) (connected : Bool) (readings : Table (Reading F))
    (now : Instant) (generatedAt : Nat) (locale : EnergyLocale) :
    ∃ response, (EnergyResponse.build cfg connected readings now generatedAt).localized locale =
        some response ∧
      (response.reports.alarms.text = allClear locale ↔ AllClear cfg connected readings now) ∧
      (¬ AllClear cfg connected readings now →
        Text.contains response.reports.alarms.text (allClear locale) = false ∧
        Text.contains response.reports.status.text (allClear locale) = false ∧
        ∀ brief, response.reports.status.briefText = some brief →
          Text.contains brief (allClear locale) = false) := by
  have clear := Alarms.build_clear_iff cfg connected readings now
  have itself : ∀ s : String, Text.contains s s = true := fun s =>
    Text.contains_iff.2 List.infix_rfl
  suffices spoken : ∃ response,
      (EnergyResponse.build cfg connected readings now generatedAt).localized locale =
        some response ∧
      (AllClear cfg connected readings now →
        response.reports.alarms.text = allClear locale) ∧
      (¬ AllClear cfg connected readings now →
        Text.contains response.reports.alarms.text (allClear locale) = false ∧
        Text.contains response.reports.status.text (allClear locale) = false ∧
        ∀ brief, response.reports.status.briefText = some brief →
          Text.contains brief (allClear locale) = false) by
    obtain ⟨response, same, whenClear, whenWrong⟩ := spoken
    refine ⟨response, same, ⟨fun text => ?_, whenClear⟩, whenWrong⟩
    by_contra wrong
    have absent := (whenWrong wrong).1
    rw [text, itself] at absent
    cases absent
  cases locale with
  | en =>
      refine ⟨_, rfl, fun right => ?_, fun wrong => ?_⟩
      · obtain ⟨fresh, none⟩ := clear.2 right
        exact Alarms.report_clear connected fresh none
      · obtain ⟨alarms, status, brief⟩ := EnergyResponse.build_quiet cfg connected readings now
          generatedAt (mt clear.1 wrong)
        exact ⟨quiet_no_all_clear alarms, quiet_no_all_clear status, fun text shown =>
          quiet_no_all_clear (brief text shown)⟩
  | ru =>
      obtain ⟨response, same, whenClear, whenWrong⟩ := Russian.localize_eq
        { EnergyResponse.build cfg connected readings now generatedAt with locale := .ru }
        (Russian.spoken_build cfg connected readings now)
      refine ⟨response, same, fun right => whenClear (clear.2 right), fun wrong => ?_⟩
      obtain ⟨alarms, status, brief⟩ := whenWrong (mt clear.1 wrong)
      exact ⟨clean_no_all_clear alarms, clean_no_all_clear status, fun text shown =>
        clean_no_all_clear (brief text shown)⟩

end

/-- Two alarm sources of which one was never read: no Russian all-clear. -/
theorem all_clear_iff_missing :
    ∃ response, (EnergyResponse.build (F := Int)
        { alarmSources := ["battery/512/Alarms/LowVoltage", "vebus/0/Alarms/Ripple"] } true
        (Table.empty.insert "vebus/0/Alarms/Ripple" ⟨.number (.posInt 0), 0⟩) (secs 1) 0).localized
        .ru = some response ∧
      Text.contains response.reports.status.text (allClear .ru) = false := by
  obtain ⟨response, same, -, absent⟩ := all_clear_iff (F := Int)
    { alarmSources := ["battery/512/Alarms/LowVoltage", "vebus/0/Alarms/Ripple"] } true
    (Table.empty.insert "vebus/0/Alarms/Ripple" ⟨.number (.posInt 0), 0⟩) (secs 1) 0 .ru
  refine ⟨response, same, (absent ?_).2.1⟩
  rintro ⟨-, -, all⟩
  obtain ⟨reading, value, found, -⟩ := all "battery/512/Alarms/LowVoltage" (by simp)
  cases found

end InverterGateway.Gateway

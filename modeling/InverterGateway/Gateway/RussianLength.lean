/-
# Gateway.RussianLength — how long the Russian texts can be

Lengths follow the wording: the words of a group of digits, of a number, of an
amount, of a metric and of an alarm list.  The longest text is the status with
two ten-digit amounts and more than five alarms; it stays below the limit
because a list that names warnings has at most four alarms to count.
-/
import InverterGateway.Theory.Length
import InverterGateway.Gateway.NumberWords
import InverterGateway.Gateway.ActiveAlarms

set_option autoImplicit false

namespace InverterGateway.Gateway

open InverterGateway.Theory.Text (Fits)

/-- The alarm, status, brief and flow texts, of at most 1200 characters each. -/
structure Reports.Limited (reports : Reports) : Prop where
  alarms : Fits 1200 reports.alarms.text
  status : Fits 1200 reports.status.text
  brief : ∀ text, reports.status.briefText = some text → Fits 1200 text
  flow : ∀ report, reports.flow = some report → Fits 1200 report.text

end InverterGateway.Gateway

namespace InverterGateway.Gateway.Russian

open InverterGateway.Theory
open InverterGateway.Theory.Text (Fits fits_literal room)

/-! ## The words of a number -/

theorem hundreds_fit : ∀ s ∈ hundreds, Fits 9 s := by
  simp only [hundreds, List.forall_mem_cons]
  repeat' apply And.intro
  all_goals first | exact fits_literal rfl rfl | exact fun _ found => absurd found List.not_mem_nil

theorem tens_fit : ∀ s ∈ tens, Fits 11 s := by
  simp only [tens, List.forall_mem_cons]
  repeat' apply And.intro
  all_goals first | exact fits_literal rfl rfl | exact fun _ found => absurd found List.not_mem_nil

theorem teens_fit : ∀ s ∈ teens, Fits 12 s := by
  simp only [teens, List.forall_mem_cons]
  repeat' apply And.intro
  all_goals first | exact fits_literal rfl rfl | exact fun _ found => absurd found List.not_mem_nil

theorem ones_fit (feminine : Bool) : ∀ s ∈ ones feminine, Fits 6 s := by
  cases feminine <;> simp only [ones, List.forall_mem_cons] <;> repeat' apply And.intro
  all_goals first | exact fits_literal rfl rfl | exact fun _ found => absurd found List.not_mem_nil

theorem fits_form {n : Nat} {one few many : String} (all : ∀ s ∈ [one, few, many], Fits n s)
    (value : Nat) : Fits n (form value one few many) :=
  all _ (form_cases value one few many)

theorem underThousand_room (value : Nat) (feminine : Bool) :
    room (groupList value feminine) ≤
      (if 100 ≤ value then 10 else 0) + if 10 ≤ value % 100 then 19 else 7 := by
  have h : (hundreds.getD (value / 100) "").length ≤ 9 := Text.fits_getD hundreds_fit _
  have t : (tens.getD (value % 100 / 10) "").length ≤ 11 := Text.fits_getD tens_fit _
  have e : (teens.getD (value % 100 - 10) "").length ≤ 12 := Text.fits_getD teens_fit _
  have o : ((ones feminine).getD (value % 100 % 10) "").length ≤ 6 :=
    Text.fits_getD (ones_fit feminine) _
  unfold groupList
  dsimp only
  rw [Text.room_append]
  have first : room (if 100 ≤ value then [hundreds.getD (value / 100) ""] else []) ≤
      if 100 ≤ value then 10 else 0 := by
    split
    · rw [Text.room_cons, Text.room_nil]
      omega
    · exact Nat.le_refl 0
  have last : room (if value % 100 % 10 ≠ 0 then [(ones feminine).getD (value % 100 % 10) ""] else []) ≤
      7 := by
    split
    · rw [Text.room_cons, Text.room_nil]
      omega
    · exact Nat.zero_le _
  by_cases teen : 10 ≤ value % 100 ∧ value % 100 < 20
  · rw [if_pos teen, if_pos teen.1, Text.room_cons, Text.room_nil]
    omega
  · rw [if_neg teen, Text.room_append]
    by_cases ten : 20 ≤ value % 100
    · rw [if_pos ten, if_pos (by omega : 10 ≤ value % 100), Text.room_cons, Text.room_nil]
      omega
    · rw [if_neg ten, if_neg (by omega : ¬ 10 ≤ value % 100), Text.room_nil]
      omega

theorem underThousand_fits {value : Nat} (feminine : Bool) : Fits 28 (underThousand value feminine) := by
  rw [underThousand_eq]
  refine (Text.fits_joinSpace _).mono ?_
  have taken := underThousand_room value feminine
  split at taken <;> split at taken <;> omega

theorem underThousand_digit {value : Nat} (digit : value < 10) (feminine : Bool) :
    Fits 6 (underThousand value feminine) := by
  rw [underThousand_eq]
  refine (Text.fits_joinSpace _).mono ?_
  have taken := underThousand_room value feminine
  rw [if_neg (by omega : ¬ 100 ≤ value), if_neg (by omega : ¬ 10 ≤ value % 100)] at taken
  omega

theorem underThousand_tail {value : Nat} (small : value < 100) (feminine : Bool) :
    Fits 18 (underThousand value feminine) := by
  rw [underThousand_eq]
  refine (Text.fits_joinSpace _).mono ?_
  have taken := underThousand_room value feminine
  rw [if_neg (by omega : ¬ 100 ≤ value)] at taken
  split at taken <;> omega

/-- The words of one group of three digits. -/
theorem groupWords_room (period : Period) {g n : Nat} (value : Nat)
    (group : Fits g (underThousand (value / period.size % 1000) period.feminine))
    (nouns : ∀ s ∈ [period.noun.singular, period.noun.paucal, period.noun.plural], Fits n s) :
    room (groupWords value period.scale) ≤
      if value / period.size % 1000 = 0 then 0 else g + n + 2 := by
  have noun : (period.noun.spoken (value / period.size % 1000)).length ≤ n := fits_form nouns _
  unfold Fits at group
  rw [groupWords_scale]
  by_cases none : value / period.size % 1000 = 0
  · rw [if_neg (by omega), if_pos none, Text.room_nil]
  · rw [if_pos (by omega), if_neg none, Text.room_cons, Text.room_cons, Text.room_nil]
    omega

theorem billions_fit : ∀ s ∈ ["миллиард", "миллиарда", "миллиардов"], Fits 10 s :=
  Text.fits_three (fits_literal rfl rfl) (fits_literal rfl rfl) (fits_literal rfl rfl)

theorem millions_fit : ∀ s ∈ ["миллион", "миллиона", "миллионов"], Fits 9 s :=
  Text.fits_three (fits_literal rfl rfl) (fits_literal rfl rfl) (fits_literal rfl rfl)

theorem thousands_fit : ∀ s ∈ ["тысяча", "тысячи", "тысяч"], Fits 6 s :=
  Text.fits_three (fits_literal rfl rfl) (fits_literal rfl rfl) (fits_literal rfl rfl)

/-- The words of a number of at most ten digits, group by group. -/
theorem integerWords_room {value u : Nat} {feminine : Bool} (small : value < 10 ^ 10)
    (units : Fits u (underThousand (value % 1000) feminine)) (zero : 4 ≤ u) :
    Fits ((if value / 10 ^ 9 % 1000 = 0 then 0 else 18) +
      (if value / 10 ^ 6 % 1000 = 0 then 0 else 39) +
      (if value / 10 ^ 3 % 1000 = 0 then 0 else 36) + u) (integerWords value feminine) := by
  unfold integerWords
  by_cases none : value = 0
  · have nought : Fits 4 "ноль" := fits_literal rfl rfl
    rw [if_pos none]
    exact nought.mono (by omega)
  · rw [if_neg none, scales_eq]
    refine (Text.fits_joinSpace _).mono ?_
    have digit : value / billions.size % 1000 < 10 := by
      show value / 10 ^ 9 % 1000 < 10
      omega
    have b : room (groupWords value billions.scale) ≤ if value / 10 ^ 9 % 1000 = 0 then 0 else 18 :=
      groupWords_room billions value (underThousand_digit digit _) billions_fit
    have m : room (groupWords value millions.scale) ≤ if value / 10 ^ 6 % 1000 = 0 then 0 else 39 :=
      groupWords_room millions value (underThousand_fits _) millions_fit
    have t : room (groupWords value thousands.scale) ≤ if value / 10 ^ 3 % 1000 = 0 then 0 else 36 :=
      groupWords_room thousands value (underThousand_fits _) thousands_fit
    have last : room (if value % 1000 ≠ 0 then [underThousand (value % 1000) feminine] else []) ≤
        u + 1 := by
      unfold Fits at units
      split
      · rw [Text.room_cons, Text.room_nil]
        omega
      · exact Nat.zero_le _
    simp only [List.flatMap_cons, List.flatMap_nil, List.append_nil, Text.room_append]
    omega

theorem integerWords_fits {value : Nat} (small : value < 10 ^ 10) (feminine : Bool) :
    Fits 121 (integerWords value feminine) := by
  refine (integerWords_room small (underThousand_fits feminine) (by omega)).mono ?_
  split <;> split <;> split <;> omega

theorem integerWords_count {value : Nat} (small : value < 10 ^ 6) (feminine : Bool) :
    Fits 64 (integerWords value feminine) := by
  refine (integerWords_room (by omega) (underThousand_fits feminine) (by omega)).mono ?_
  rw [if_pos (by omega), if_pos (by omega)]
  split <;> omega

theorem integerWords_group {value : Nat} (small : value < 10 ^ 3) (feminine : Bool) :
    Fits 28 (integerWords value feminine) := by
  refine (integerWords_room (by omega) (underThousand_fits feminine) (by omega)).mono ?_
  rw [if_pos (by omega), if_pos (by omega), if_pos (by omega)]

theorem integerWords_tail {value : Nat} (small : value < 100) (feminine : Bool) :
    Fits 18 (integerWords value feminine) := by
  refine (integerWords_room (by omega) (underThousand_tail (by omega) feminine) (by omega)).mono ?_
  rw [if_pos (by omega), if_pos (by omega), if_pos (by omega)]

theorem integerWords_digit {value : Nat} (small : value < 10) (feminine : Bool) :
    Fits 6 (integerWords value feminine) := by
  refine (integerWords_room (by omega) (underThousand_digit (by omega) feminine) (by omega)).mono ?_
  rw [if_pos (by omega), if_pos (by omega), if_pos (by omega)]

theorem neuterWords_fits {value : Nat} (small : value < 10 ^ 6) :
    ∃ words, neuterWords value = some words ∧ Fits 64 words := by
  have masculine := integerWords_count small false
  obtain ⟨words, known, -⟩ := neuterWords_eq value
  refine ⟨words, known, ?_⟩
  unfold neuterWords at known
  dsimp only at known
  split at known
  · obtain ⟨stem, stripped, rfl⟩ := Option.map_eq_some_iff.1 known
    have neuter : "одно".length = "один".length := by decide
    rw [Text.stripSuffix_eq_some.1 stripped, Fits, String.length_append, ← neuter,
      ← String.length_append] at masculine
    exact masculine
  · cases known
    exact masculine

/-- The words of a number of hundredths. -/
theorem wordsOf_fits {n h w : Nat} (whole : ∀ feminine, Fits w (integerWords n feminine))
    (hundred : h < 100) : Fits (w + 31) (wordsOf n h) := by
  have wholeNoun : Fits 5 (wholes.spoken n) :=
    fits_form (Text.fits_three (fits_literal rfl rfl) (fits_literal rfl rfl) (fits_literal rfl rfl)) n
  have tenthNoun : Fits 7 (tenths.spoken (h / 10)) :=
    fits_form (Text.fits_three (fits_literal rfl rfl) (fits_literal rfl rfl) (fits_literal rfl rfl)) _
  have hundredthNoun : Fits 5 (hundredths.spoken h) :=
    fits_form (Text.fits_three (fits_literal rfl rfl) (fits_literal rfl rfl) (fits_literal rfl rfl)) _
  have numerator := integerWords_digit (by omega : h / 10 < 10) true
  have numerator' := integerWords_tail hundred true
  have words := whole true
  unfold wordsOf
  split
  · exact (whole false).mono (by omega)
  · split
    · refine (Text.fits_joinSpace _).mono ?_
      unfold Fits at words wholeNoun tenthNoun numerator
      simp only [Text.room_cons, Text.room_nil]
      omega
    · refine (Text.fits_joinSpace _).mono ?_
      unfold Fits at words wholeNoun hundredthNoun numerator'
      simp only [Text.room_cons, Text.room_nil]
      omega

/-! ## Amounts -/

/-- The number of a text of at most `k` digits. -/
theorem digitsValue_small {whole : String} (digits : Text.Digits whole) {k : Nat}
    (short : whole.toList.length ≤ k) : Text.digitsValue whole.toList < 10 ^ k :=
  Nat.lt_of_lt_of_le (Text.digitsValue_lt _ digits.2) (Nat.pow_le_pow_right (by omega) short)

/-- The words of a decimal with at most two fraction digits. -/
theorem decimalWords_fits {whole fraction : String} (digits : Text.Digits whole)
    (short : whole.toList.length ≤ 10) {n w : Nat} (few : n ≤ 2)
    (shape : Binary64.FractionText n fraction)
    (words : ∀ feminine, Fits w (integerWords (Text.digitsValue whole.toList) feminine)) :
    ∃ spoken, decimalWords (whole ++ fraction) = some spoken ∧ Fits (w + 31) spoken := by
  have small := digitsValue_small digits short
  unfold Binary64.FractionText at shape
  split at shape
  · subst shape
    rw [String.append_empty]
    exact ⟨_, decimalWords_whole digits (by omega), (words false).mono (by omega)⟩
  · obtain ⟨tail, rfl, tailDigits, length⟩ := shape
    rw [← String.append_assoc]
    obtain ⟨h, hundred, -, spoken⟩ :=
      decimalWords_point digits (by omega) tailDigits.2 (by omega)
    exact ⟨_, spoken, wordsOf_fits words hundred⟩

/-- The words of a trimmed fixed-point text, with a fraction or without. -/
theorem trimDecimal_fits {whole fraction : String} (digits : Text.Digits whole)
    (short : whole.toList.length ≤ 10) {n w : Nat} (few : n ≤ 2)
    (shape : Binary64.FractionText n fraction)
    (words : ∀ feminine, Fits w (integerWords (Text.digitsValue whole.toList) feminine)) :
    ∃ spoken, decimalWords (trimDecimal (whole ++ fraction)) = some spoken ∧
      Fits (w + 31) spoken ∧
      (Text.containsChar (trimDecimal (whole ++ fraction)) '.' = false → Fits w spoken) := by
  have small := digitsValue_small digits short
  have point : ".".toList = ['.'] := by decide
  have alone : ∃ spoken, decimalWords whole = some spoken ∧ Fits (w + 31) spoken ∧
      (Text.containsChar whole '.' = false → Fits w spoken) :=
    ⟨_, decimalWords_whole digits (by omega), (words false).mono (by omega), fun _ => words false⟩
  unfold Binary64.FractionText at shape
  split at shape
  · subst shape
    have noPoint : Text.containsChar whole '.' = false := by
      rw [← Bool.not_eq_true, Text.containsChar_iff]
      exact digits.ne (by decide)
    rw [String.append_empty, trimDecimal, noPoint]
    exact alone
  · obtain ⟨tail, rfl, tailDigits, length⟩ := shape
    have hasPoint : Text.containsChar (whole ++ ("." ++ tail)) '.' = true := by
      rw [Text.containsChar_iff]
      simp [String.toList_append, point]
    rw [trimDecimal, hasPoint, if_pos rfl, ← String.append_assoc]
    rcases Text.trim_decimal digits tailDigits with ⟨-, whole'⟩ | ⟨kept, -, keptDigits, keptShort, same⟩
    · rw [whole']
      exact alone
    · rw [same]
      obtain ⟨h, hundred, -, spoken⟩ :=
        decimalWords_point digits (by omega) keptDigits.2 (by omega)
      refine ⟨_, spoken, wordsOf_fits words hundred, fun noPoint => ?_⟩
      have point' : Text.containsChar (whole ++ "." ++ kept) '.' = true := by
        rw [Text.containsChar_iff]
        simp [String.toList_append, point]
      rw [point'] at noPoint
      cases noPoint

section Speech

variable {F : Type} [Binary64 F] [Binary64.Lawful F]

/-- The fixed-point texts of a number have whole digits that are spoken in `w` characters. -/
def WholeFits (w : Nat) (x : F) (digits : Nat) : Prop :=
  ∃ whole fraction, Binary64.fixed x digits = whole ++ fraction ∧ Text.Digits whole ∧
    whole.toList.length ≤ 10 ∧ Binary64.FractionText digits fraction ∧
    ∀ feminine, Fits w (integerWords (Text.digitsValue whole.toList) feminine)

/-- An amount, from the words of its whole part and the length of its unit. -/
theorem amount_fits {value : F} (present : Binary64.Presentable value) {unit : String} {w u : Nat}
    (few : Fits u (scaled (Binary64.normalizeZero value) unit).few)
    (unitWords : ∀ s ∈ [(scaled (Binary64.normalizeZero value) unit).one,
      (scaled (Binary64.normalizeZero value) unit).few,
      (scaled (Binary64.normalizeZero value) unit).many], Fits (u + 1) s)
    (small : Binary64.le (Binary64.ofNat 1000000000)
        (scaled (Binary64.normalizeZero value) unit).value = false →
      WholeFits w (scaled (Binary64.normalizeZero value) unit).value
        (scaled (Binary64.normalizeZero value) unit).digits)
    (large : Binary64.le (Binary64.ofNat 1000000000)
        (scaled (Binary64.normalizeZero value) unit).value = true → 65 ≤ w) :
    ∃ spoken, amount value unit = some spoken ∧ Fits (w + 32 + u) spoken := by
  obtain ⟨finite, unsigned⟩ := present.normalizeZero
  obtain ⟨scaledFinite, -, digits, -⟩ := scaled_spec finite unsigned unit
  have space : Fits 1 " " := fits_literal rfl rfl
  unfold amount
  generalize scaled (Binary64.normalizeZero value) unit = spoken at *
  dsimp only
  cases size : Binary64.le (Binary64.ofNat 1000000000) spoken.value with
  | true =>
      obtain ⟨lead, fraction, exponent, whole, leadDigits, leadShort, shape, powerDigits, powerShort⟩ :=
        Binary64.Lawful.scientific_text spoken.value spoken.digits scaledFinite size
      have times : Fits 30 " умножить на десять в степени " := fits_literal rfl rfl
      have power := Text.parseU64_digits powerDigits (by omega)
      have powerWords := integerWords_group (digitsValue_small powerDigits powerShort) false
      have many : Fits (u + 1) spoken.many := unitWords _ (by simp)
      obtain ⟨said, known, long⟩ := decimalWords_fits leadDigits (by omega) digits shape
        (fun feminine => integerWords_digit (digitsValue_small leadDigits (le_of_eq leadShort)) feminine)
      have letter : "e".toList = ['e'] := by decide
      have parts : Text.splitOnce (Binary64.scientific spoken.value spoken.digits) 'e' =
          some (lead ++ fraction, exponent) := by
        rw [whole, Text.splitOnce_eq_some]
        refine ⟨by simp [String.toList_append, letter], ?_⟩
        exact (decimalText_append leadDigits (by omega) digits shape).ne (by decide) (by decide)
      have enough := large size
      refine ⟨said ++ " умножить на десять в степени " ++
        integerWords (Text.digitsValue exponent.toList) false ++ " " ++ spoken.many,
        by simp [parts, known, power], ?_⟩
      exact ((((long.append times).append powerWords).append space).append many).mono (by omega)
  | false =>
      obtain ⟨whole, fraction, text, wholeDigits, short, shape, words⟩ := small size
      obtain ⟨said, known, long, unpointed⟩ := trimDecimal_fits wholeDigits short digits shape words
      obtain ⟨-, parses⟩ := trimDecimal_decimal wholeDigits short digits shape
      rw [← text] at known unpointed parses
      cases pointed : Text.containsChar (trimDecimal (Binary64.fixed spoken.value spoken.digits)) '.' with
      | true =>
          refine ⟨said ++ " " ++ spoken.few, by simp [known], ?_⟩
          exact ((long.append space).append few).mono (by omega)
      | false =>
          obtain ⟨n, number⟩ := Option.isSome_iff_exists.1 (parses pointed)
          refine ⟨said ++ " " ++ form n spoken.one spoken.few spoken.many, by simp [known, number], ?_⟩
          exact (((unpointed pointed).append space).append (fits_form unitWords n)).mono (by omega)

/-- Ten whole digits, of a number below a thousand million. -/
theorem wholeFits_of_small {x : F} (finite : Binary64.isFinite x = true)
    (unsigned : Binary64.Unsigned x) (digits : Nat)
    (small : Binary64.le (Binary64.ofNat 1000000000) x = false) : WholeFits 121 x digits := by
  obtain ⟨whole, fraction, text, wholeDigits, short, shape⟩ :=
    Binary64.Lawful.fixed_text x digits finite unsigned small
  exact ⟨whole, fraction, text, wholeDigits, short, shape,
    integerWords_fits (digitsValue_small wholeDigits short)⟩

theorem watts_fit {value : F} (present : Binary64.Presentable value) :
    ∃ spoken, amount value "W" = some spoken ∧ Fits 162 spoken := by
  obtain ⟨finite, unsigned⟩ := present.normalizeZero
  obtain ⟨scaledFinite, scaledUnsigned, -, -⟩ := scaled_spec finite unsigned "W"
  have units : Fits 9 (scaled (Binary64.normalizeZero value) "W").few ∧
      ∀ s ∈ [(scaled (Binary64.normalizeZero value) "W").one,
        (scaled (Binary64.normalizeZero value) "W").few,
        (scaled (Binary64.normalizeZero value) "W").many], Fits (9 + 1) s := by
    show Fits 9 (ite _ _ _ : Scaled F).few ∧ ∀ s ∈ [(ite _ _ _ : Scaled F).one,
      (ite _ _ _ : Scaled F).few, (ite _ _ _ : Scaled F).many], Fits 10 s
    split
    · exact ⟨fits_literal rfl rfl,
        Text.fits_three (fits_literal rfl rfl) (fits_literal rfl rfl) (fits_literal rfl rfl)⟩
    · exact ⟨fits_literal rfl rfl,
        Text.fits_three (fits_literal rfl rfl) (fits_literal rfl rfl) (fits_literal rfl rfl)⟩
  exact amount_fits present units.1 units.2 (wholeFits_of_small scaledFinite scaledUnsigned _)
    fun _ => by omega

theorem hours_fit {value : F} (present : Binary64.Presentable value) :
    ∃ spoken, amount value "kWh" = some spoken ∧ Fits 166 spoken := by
  obtain ⟨finite, unsigned⟩ := present.normalizeZero
  obtain ⟨scaledFinite, scaledUnsigned, -, -⟩ := scaled_spec finite unsigned "kWh"
  have few : Fits 13 (scaled (Binary64.normalizeZero value) "kWh").few := fits_literal rfl rfl
  exact amount_fits present few
    (Text.fits_three (fits_literal rfl rfl) (fits_literal rfl rfl) (fits_literal rfl rfl))
    (wholeFits_of_small scaledFinite scaledUnsigned _) fun _ => by omega

theorem percent_fit [Binary64.Hundred F] {value : F} (present : Binary64.Presentable value)
    (most : Binary64.le value (Binary64.ofNat 100) = true) :
    ∃ spoken, amount value "%" = some spoken ∧ Fits 68 spoken := by
  obtain ⟨finite, unsigned⟩ := present.normalizeZero
  have most' : Binary64.le (Binary64.normalizeZero value) (Binary64.ofNat 100) = true := by
    unfold Binary64.normalizeZero
    split
    · exact Binary64.Hundred.zero_le_hundred
    · exact most
  have few : Fits 8 (scaled (Binary64.normalizeZero value) "%").few := fits_literal rfl rfl
  have wholeFits : WholeFits 28 (Binary64.normalizeZero value) 1 := by
    obtain ⟨whole, fraction, text, wholeDigits, short, shape⟩ :=
      Binary64.Hundred.fixed_hundred (Binary64.normalizeZero value) 1 finite unsigned most'
    exact ⟨whole, fraction, text, wholeDigits, by omega, shape,
      integerWords_group (digitsValue_small wholeDigits short)⟩
  refine amount_fits present few
    (Text.fits_three (fits_literal rfl rfl) (fits_literal rfl rfl) (fits_literal rfl rfl))
    (fun _ => wholeFits) fun large => ?_
  have notLarge := Binary64.Hundred.hundred_small (Binary64.normalizeZero value) most'
  rw [show (scaled (Binary64.normalizeZero value) "%").value = Binary64.normalizeZero value from rfl,
    notLarge] at large
  cases large

/-! ## Metrics -/

omit [Binary64.Lawful F] in
/-- A metric without a number to speak. -/
theorem metricReport_mute {m : Metric F} {label : String} {n : Nat} (named : Fits n label)
    (mute : ∀ v, m.status = .fresh → m.value = some v → False) (connected : Bool) :
    ∃ text, metricReport m label connected = some text ∧ Fits (n + 51) text := by
  unfold metricReport
  split
  · rename_i value fresh shown
    exact (mute value fresh shown).elim
  · exact ⟨_, rfl, named.append (fits_literal rfl rfl)⟩
  · exact ⟨_, rfl, named.append (fits_literal rfl rfl)⟩
  · split
    · exact ⟨_, rfl, named.append (fits_literal rfl rfl)⟩
    · exact ⟨_, rfl, named.append (fits_literal rfl rfl)⟩

omit [Binary64.Lawful F] in
theorem metricReport_fits {m : Metric F} {label : String} {n k : Nat} (named : Fits n label)
    (spoken : ∀ v, m.value = some v → ∃ s, amount v m.unit = some s ∧ Fits k s) (enough : 48 ≤ k)
    (connected : Bool) :
    ∃ text, metricReport m label connected = some text ∧ Fits (n + k + 3) text := by
  by_cases mute : ∀ v, m.status = .fresh → m.value = some v → False
  · obtain ⟨text, known, short⟩ := metricReport_mute named mute connected
    exact ⟨text, known, short.mono (by omega)⟩
  · simp only [not_forall, not_false_eq_true, exists_prop, and_true] at mute
    obtain ⟨v, fresh, shown⟩ := mute
    obtain ⟨s, known, short⟩ := spoken v shown
    have colon : Fits 2 ": " := fits_literal rfl rfl
    have stop : Fits 1 "." := fits_literal rfl rfl
    refine ⟨label ++ ": " ++ s ++ ".", ?_, ?_⟩
    · simp only [metricReport, fresh, shown, known, Option.map_some]
    · exact (((named.append colon).append short).append stop).mono (by omega)

theorem directionalReport_fits {m : Metric F}
    (finite : ∀ v, m.value = some v → Binary64.isFinite v = true) (grid : Bool) :
    ∃ text, directionalReport m grid = some text ∧ Fits 197 text := by
  have labels : Fits 32 (if grid then "Суммарная мощность сети" else "Мощность системного аккумулятора") :=
    Text.fits_ite (m := 23) (n := 32) (fits_literal rfl rfl) (fits_literal rfl rfl)
  unfold directionalReport
  dsimp only
  split
  · rename_i value _ shown
    cases zero : Binary64.eq value (Binary64.ofNat 0) with
    | true =>
        have nothing : Fits 12 ": ноль ватт." := fits_literal rfl rfl
        exact ⟨_, rfl, (labels.append nothing).mono (by omega)⟩
    | false =>
        obtain ⟨absFinite, pos⟩ := Binary64.Lawful.abs_pos value (finite value shown) zero
        obtain ⟨spoken, same, short⟩ := watts_fit ⟨absFinite, Or.inr pos⟩
        obtain ⟨power, known, fits⟩ : ∃ power,
            (if Binary64.lt (Binary64.abs value) (Binary64.ofNat 1) then some "меньше одного ватта"
              else amount (Binary64.abs value) "W") = some power ∧ Fits 162 power := by
          split
          · exact ⟨_, rfl, fits_literal rfl rfl⟩
          · exact ⟨_, same, short⟩
        have colon : Fits 2 ": " := fits_literal rfl rfl
        have stop : Fits 1 "." := fits_literal rfl rfl
        have sentence : ∀ {direction : String}, Fits 32 direction →
            Fits 197 (direction ++ ": " ++ power ++ ".") :=
          fun direction => ((direction.append colon).append fits).append stop
        simp only [Bool.false_eq_true, if_false, known, Option.map_some]
        refine ⟨_, rfl, sentence ?_⟩
        cases grid <;> cases Binary64.lt (Binary64.ofNat 0) value <;> exact fits_literal rfl rfl
  · rename_i mute
    obtain ⟨text, known, short⟩ := metricReport_mute labels (fun v fresh shown => mute v fresh shown) true
    exact ⟨text, known, short.mono (by omega)⟩

/-! ## The metrics of a response -/

/-- The metrics of a configuration with at most one battery source. -/
structure Bounded (metrics : Metrics F) : Prop extends Spoken metrics where
  percent : metrics.batterySoc.unit = "%"
  watts : metrics.solarPower.unit = "W"
  hours : metrics.solarToday.unit = "kWh"
  loadWatts : ∀ m, metrics.loadPower = some m → m.unit = "W"
  most : ∀ v, metrics.batterySoc.value = some v → Binary64.le v (Binary64.ofNat 100) = true

omit [Binary64.Lawful F] in
theorem collectMetric_unit (sources : List String) (unit : String) (connected : Bool)
    (readings : Table (Reading F)) (now : Instant) (maxAge : Duration) (signed : Bool) :
    (collectMetric sources unit connected readings now maxAge signed).unit = unit := by
  unfold collectMetric
  dsimp only
  split
  · rfl
  · split
    · rfl
    · split <;> rfl

omit [Binary64.Lawful F] in
/-- At most one source of a percentage: its sum is at most one hundred. -/
theorem metric_most [Binary64.Hundred F] {sources : List String} (one : sources.length ≤ 1)
    {connected : Bool} {readings : Table (Reading F)} {now : Instant} {maxAge : Duration} {v : F}
    (shown : (metric sources "%" connected readings now maxAge).value = some v) :
    Binary64.le v (Binary64.ofNat 100) = true := by
  obtain ⟨-, rfl⟩ := collectMetric_value shown
  have few : (sources.filterMap (sourceValue "%" readings false)).length ≤ 1 :=
    Nat.le_trans (List.length_filterMap_le _ _) one
  cases values : sources.filterMap (sourceValue "%" readings false) with
  | nil => exact Binary64.Hundred.zero_le_hundred
  | cons x rest =>
      rw [values, List.length_cons] at few
      have alone : rest = [] := List.eq_nil_of_length_eq_zero (by omega)
      subst alone
      obtain ⟨source, -, value⟩ := List.mem_filterMap.1 (values ▸ List.mem_cons_self :
        x ∈ sources.filterMap (sourceValue "%" readings false))
      obtain ⟨-, ok⟩ := Option.filter_eq_some_iff.1 value
      simp only [admits, Bool.and_eq_true, bne_self_eq_false, Bool.false_or] at ok
      exact Binary64.Hundred.zero_add_le x ok.1.1 ok.2

theorem bounded_build [Binary64.Hundred F] {cfg : EnergyConfig} (one : cfg.batterySources.length ≤ 1)
    (connected : Bool) (readings : Table (Reading F)) (now : Instant) :
    Bounded (Metrics.build cfg connected readings now) where
  toSpoken := spoken_build cfg connected readings now
  percent := collectMetric_unit ..
  watts := collectMetric_unit ..
  hours := collectMetric_unit ..
  loadWatts m found := by
    simp only [Metrics.build] at found
    split at found
    · obtain rfl := Option.some.inj found
      exact collectMetric_unit ..
    · cases found
  most _ shown := metric_most one shown

/-- The reports of the three metrics under labels of bounded length. -/
theorem battery_fits [Binary64.Hundred F] {metrics : Metrics F} (bounded : Bounded metrics)
    {label : String} {n : Nat} (named : Fits n label) (connected : Bool) :
    ∃ text, metricReport metrics.batterySoc label connected = some text ∧ Fits (n + 71) text := by
  refine metricReport_fits named (fun v shown => ?_) (by omega) connected
  rw [bounded.percent]
  exact percent_fit (bounded.battery v shown) (bounded.most v shown)

theorem solar_fits {metrics : Metrics F} (bounded : Bounded metrics) {label : String} {n : Nat}
    (named : Fits n label) (connected : Bool) :
    ∃ text, metricReport metrics.solarPower label connected = some text ∧ Fits (n + 165) text := by
  refine metricReport_fits named (fun v shown => ?_) (by omega) connected
  rw [bounded.watts]
  exact watts_fit (bounded.solar v shown)

theorem today_fits {metrics : Metrics F} (bounded : Bounded metrics) {label : String} {n : Nat}
    (named : Fits n label) (connected : Bool) :
    ∃ text, metricReport metrics.solarToday label connected = some text ∧ Fits (n + 169) text := by
  refine metricReport_fits named (fun v shown => ?_) (by omega) connected
  rw [bounded.hours]
  exact hours_fit (bounded.today v shown)

/-- The flow text, if it is replaced at all. -/
theorem flowText_fits {metrics : Metrics F} (bounded : Bounded metrics) {connected : Bool}
    {flow spoken : Option Report} (known : flowText metrics connected flow = some spoken)
    (english : ∀ report, flow = some report → Fits 1200 report.text) :
    ∀ report, spoken = some report → Fits 1200 report.text := by
  rintro report rfl
  unfold flowText at known
  split at known
  · rename_i original load grid battery hasLoad hasGrid hasBattery
    split at known
    · have label : Fits 35 "Выбранные нагрузки переменного тока" := fits_literal rfl rfl
      have space : Fits 1 " " := fits_literal rfl rfl
      obtain ⟨loadText, loadSame, loadFits⟩ := metricReport_fits (k := 162) label
        (fun v shown => by
          rw [bounded.loadWatts load hasLoad]
          exact watts_fit (bounded.load load hasLoad v shown)) (by omega) true
      obtain ⟨gridText, gridSame, gridFits⟩ := directionalReport_fits (bounded.grid grid hasGrid) true
      obtain ⟨batteryText, batterySame, batteryFits⟩ :=
        directionalReport_fits (bounded.flow battery hasBattery) false
      simp only [loadSame, gridSame, batterySame, Option.bind_eq_bind, Option.bind_some,
        Option.some.injEq] at known
      subst known
      exact ((((loadFits.append space).append gridFits).append space).append batteryFits).mono
        (by omega)
    · cases known
      have fits : Fits 70 "Данные о потоках энергии недоступны: нет связи с Cerbo GX." :=
        fits_literal rfl rfl
      exact fits.mono (by omega)
  · cases known
    exact english report rfl

end Speech

/-! ## Alarms -/

/-- Labels of the tables, and shorter ones where a phase may follow. -/
theorem labels_fit : ∀ entry ∈ labels, Fits 53 entry.2 ∧
    (entry.1.1 = "vebus" → entry.1.2 ∈ phaseAlarms → Fits 42 entry.2) := by
  simp only [labels, List.forall_mem_cons]
  repeat' apply And.intro
  all_goals first
    | exact fits_literal rfl rfl
    | exact fun _ _ => fits_literal rfl rfl
    | exact fun other => absurd other (by decide)
    | exact fun _ other => absurd other (by decide)
    | exact fun _ found => absurd found List.not_mem_nil

/-- The Russian label of a labelled source. -/
theorem alarmLabel_fits {source english : String} (labelled : sourceLabel source = some english) :
    Fits 53 (alarmLabel source) := by
  obtain ⟨service, alarm, base, word, phase, -, spoken, -, legal, -, russian⟩ :=
    labels_of_label labelled
  obtain ⟨before, after, same, -⟩ := List.lookup_eq_some_iff.1 spoken
  obtain ⟨all, phased⟩ := labels_fit ((service, alarm), word) (by rw [same]; simp)
  rw [russian]
  cases phase with
  | none =>
      rw [russianPhase, String.append_empty]
      exact all
  | some p =>
      obtain ⟨-, vebus, listed⟩ := legal p rfl
      have said : Fits 7 ", фаза " := fits_literal rfl rfl
      have number : Fits 4 (phaseWord p) := by
        unfold phaseWord
        split <;> exact fits_literal rfl rfl
      exact (phased vebus listed).append (said.append number)

set_option maxRecDepth 2000 in
theorem coverage_fits (status : Status) (connected : Bool) (active : List ActiveAlarm) :
    room (coverage status connected active).toList ≤ 79 := by
  have said : ∀ text ∈ (coverage status connected active).toList, Fits 78 text := by
    intro text found
    cases status with
    | unconfigured =>
        obtain rfl := List.mem_singleton.1 found
        exact fits_literal rfl rfl
    | unavailable =>
        cases connected <;> obtain rfl := List.mem_singleton.1 found <;> exact fits_literal rfl rfl
    | stale =>
        obtain rfl := List.mem_singleton.1 found
        exact fits_literal rfl rfl
    | fresh =>
        cases active with
        | nil =>
            obtain rfl := List.mem_singleton.1 found
            exact fits_literal rfl rfl
        | cons _ _ => cases found
  have one : (coverage status connected active).toList.length ≤ 1 := by
    cases coverage status connected active <;> simp
  have all := Text.room_le said
  omega

theorem russian_fits {alarm : ActiveAlarm} (label : Fits 53 alarm.label) : Fits 70 alarm.russian := by
  have colon : Fits 2 ": " := fits_literal rfl rfl
  have stop : Fits 1 "." := fits_literal rfl rfl
  unfold ActiveAlarm.russian
  cases alarm.severity with
  | warning =>
      have word : Fits 14 "Предупреждение" := fits_literal rfl rfl
      exact (((word.append colon).append label).append stop).mono (by omega)
  | alarm =>
      have word : Fits 6 "Авария" := fits_literal rfl rfl
      exact (((word.append colon).append label).append stop).mono (by omega)

theorem russian_alarm_fits {alarm : ActiveAlarm} (label : Fits 53 alarm.label)
    (severe : alarm.severity = .alarm) : Fits 62 alarm.russian := by
  have colon : Fits 2 ": " := fits_literal rfl rfl
  have stop : Fits 1 "." := fits_literal rfl rfl
  have word : Fits 6 "Авария" := fits_literal rfl rfl
  unfold ActiveAlarm.russian
  rw [severe]
  exact ((word.append colon).append label).append stop

/-- The counts of a list: short when the alarms are few. -/
theorem counts_fit {counts : Counts} (few : counts.alarms + counts.warnings < 10 ^ 6)
    {summary : String} (known : counts.russian = some summary) :
    Fits 183 summary ∧ (counts.alarms ≤ 4 → Fits 125 summary) := by
  obtain ⟨warnings, spoken, warningsFit⟩ := neuterWords_fits (by omega : counts.warnings < 10 ^ 6)
  rw [Counts.russian, spoken, Option.map_some, Option.some.injEq] at known
  subst known
  have opening : Fits 29 "В контролируемых источниках: " := fits_literal rfl rfl
  have space : Fits 1 " " := fits_literal rfl rfl
  have joint : Fits 3 " и " := fits_literal rfl rfl
  have stop : Fits 1 "." := fits_literal rfl rfl
  have alarmNoun : Fits 6 (form counts.alarms "авария" "аварии" "аварий") :=
    fits_form (Text.fits_three (fits_literal rfl rfl) (fits_literal rfl rfl) (fits_literal rfl rfl)) _
  have warningNoun : Fits 14
      (form counts.warnings "предупреждение" "предупреждения" "предупреждений") :=
    fits_form (Text.fits_three (fits_literal rfl rfl) (fits_literal rfl rfl) (fits_literal rfl rfl)) _
  have sentence : ∀ {n : Nat}, Fits n (integerWords counts.alarms true) → Fits (n + 119)
      ("В контролируемых источниках: " ++ integerWords counts.alarms true ++ " " ++
        form counts.alarms "авария" "аварии" "аварий" ++ " и " ++ warnings ++ " " ++
        form counts.warnings "предупреждение" "предупреждения" "предупреждений" ++ ".") :=
    fun number => ((((((((opening.append number).append space).append alarmNoun).append joint).append
      warningsFit).append space).append warningNoun).append stop).mono (by omega)
  refine ⟨sentence (integerWords_count (by omega) true), fun small => ?_⟩
  exact sentence (integerWords_digit (by omega) true)

theorem countsRest_fits {counts : Counts} (few : counts.remaining < 10 ^ 6) :
    Fits 119 counts.russianRest := by
  have opening : Fits 4 "Ещё " := fits_literal rfl rfl
  have space : Fits 1 " " := fits_literal rfl rfl
  have number := integerWords_count few false
  have noun : Fits 17
      (form counts.remaining "активный сигнал" "активных сигнала" "активных сигналов") :=
    fits_form (Text.fits_three (fits_literal rfl rfl) (fits_literal rfl rfl) (fits_literal rfl rfl)) _
  have closing : Fits 33 ". Полный список доступен в шлюзе." := fits_literal rfl rfl
  exact (((opening.append number).append space).append noun).append closing

/-- The messages of a list: longer ones only for warnings. -/
theorem messages_room {named : List ActiveAlarm} (labels : ∀ alarm ∈ named, Fits 53 alarm.label) :
    room (named.map ActiveAlarm.russian) ≤ named.length * 71 ∧
      ((∀ alarm ∈ named, alarm.severity = .alarm) →
        room (named.map ActiveAlarm.russian) ≤ named.length * 63) := by
  have all : ∀ text ∈ named.map ActiveAlarm.russian, Fits 70 text := by
    intro text found
    obtain ⟨alarm, listed, rfl⟩ := List.mem_map.1 found
    exact russian_fits (labels alarm listed)
  refine ⟨?_, fun severe => ?_⟩
  · have taken := Text.room_le all
    rwa [List.length_map] at taken
  · have short : ∀ text ∈ named.map ActiveAlarm.russian, Fits 62 text := by
      intro text found
      obtain ⟨alarm, listed, rfl⟩ := List.mem_map.1 found
      exact russian_alarm_fits (labels alarm listed) (severe alarm listed)
    have taken := Text.room_le short
    rwa [List.length_map] at taken

/-- **The Russian alarm report.** -/
theorem alarmReport_fits {alarms : Alarms} (few : alarms.active.length < 10 ^ 6)
    (labels : ∀ alarm ∈ alarms.active, Fits 53 alarm.label) (connected : Bool) :
    ∃ text, alarmReport alarms connected = some text ∧ Fits 697 text := by
  obtain ⟨summary, known, text⟩ := alarmReport_announced alarms connected
  have announced := announces alarms connected
  have covered := coverage_fits alarms.status connected alarms.active
  have spokenLabels : ∀ alarm ∈ Alarms.spoken alarms.active, Fits 53 alarm.label :=
    fun alarm spoken => labels alarm (Alarms.mem_spoken spoken)
  obtain ⟨messages, severe⟩ := messages_room spokenLabels
  refine ⟨_, text, (Text.fits_joinSpace _).mono ?_⟩
  simp only [Text.room_append]
  by_cases long : spokenAlarmLimit < alarms.active.length
  · obtain ⟨five, -, -, warned, counts, stated, alarmCount, -, total, remaining⟩ := announced.long long
    have limit : spokenAlarmLimit = 5 := rfl
    rw [stated] at known ⊢
    obtain ⟨sentence, rfl, same⟩ : ∃ sentence, summary = [sentence] ∧
        counts.russian = some sentence := by
      obtain ⟨sentence, spoken⟩ := counts_russian counts
      rw [Option.map_some, spoken] at known
      have same : summary.map some = [sentence].map some := known
      exact ⟨sentence, List.map_injective_iff.2 (Option.some_injective _) same, spoken⟩
    obtain ⟨counted, countedFew⟩ := counts_fit (by omega) same
    have rest : counts.russianRest.length ≤ 119 := countsRest_fits (by omega)
    rw [Option.map_some, Option.toList_some, Text.room_cons, Text.room_cons, Text.room_nil]
    rw [five, limit] at messages severe
    by_cases warning : ∃ alarm ∈ Alarms.spoken alarms.active, alarm.severity = .warning
    · -- a warning among the five leaves at most four alarms to count
      have kept := warned warning
      have fewer : (ofSeverity .alarm (Alarms.spoken alarms.active)).length ≤ 4 := by
        obtain ⟨alarm, listed, severity⟩ := warning
        have one : 0 < (ofSeverity .warning (Alarms.spoken alarms.active)).length :=
          List.length_pos_of_mem (List.mem_filter.2 ⟨listed, by rw [severity]; rfl⟩)
        have sum := length_ofSeverity (Alarms.spoken alarms.active)
        omega
      have short : sentence.length ≤ 125 := countedFew (by rw [alarmCount, ← kept]; exact fewer)
      omega
    · have every : ∀ alarm ∈ Alarms.spoken alarms.active, alarm.severity = .alarm := by
        intro alarm listed
        cases severity : alarm.severity with
        | warning => exact absurd ⟨alarm, listed, severity⟩ warning
        | alarm => rfl
      have short := severe every
      unfold Fits at counted
      omega
  · obtain ⟨all, none⟩ := announced.short (by omega)
    rw [none] at known ⊢
    have empty : summary = [] := List.map_eq_nil_iff.1 known
    have limit : spokenAlarmLimit = 5 := rfl
    rw [all] at messages ⊢
    rw [empty, Option.map_none, Option.toList_none, Text.room_nil]
    omega

/-! ## The Russian response -/

section Localize

variable {F : Type} [Binary64 F] [Binary64.Lawful F] [Binary64.Hundred F]

theorem localize_fits {response : EnergyResponse F} (bounded : Bounded response.metrics)
    (few : response.alarms.active.length < 10 ^ 6)
    (labels : ∀ alarm ∈ response.alarms.active, sourceLabel alarm.source = some alarm.label)
    (flow : ∀ report, response.reports.flow = some report → Fits 1200 report.text)
    {russian : EnergyResponse F} (localized : localize response = some russian) :
    russian.reports.Limited := by
  have relabelled : ∀ alarm ∈ (response.alarms.relabel alarmLabel).active, Fits 53 alarm.label := by
    intro alarm found
    obtain ⟨original, listed, rfl⟩ := List.mem_map.1 found
    exact alarmLabel_fits (labels original listed)
  have length : (response.alarms.relabel alarmLabel).active.length = response.alarms.active.length :=
    List.length_map _
  obtain ⟨alarm, alarmSame, alarmFits⟩ :=
    alarmReport_fits (by omega) relabelled response.mqttConnected
  obtain ⟨battery, batterySame, batteryFits⟩ := battery_fits bounded
    (fits_literal rfl rfl : Fits 18 "Заряд аккумулятора") response.mqttConnected
  obtain ⟨solar, solarSame, solarFits⟩ := solar_fits bounded
    (fits_literal rfl rfl : Fits 18 "Солнечная мощность") response.mqttConnected
  have daily : ∀ chargers : Bool, Fits 40 (if chargers then
      "Выработка солнечных контроллеров сегодня" else "Солнечная выработка сегодня") := by
    intro chargers
    cases chargers <;> exact fits_literal rfl rfl
  have dailyShort : ∀ chargers : Bool, Fits 40 (if chargers then
      "Солнечные контроллеры сегодня" else "Солнце сегодня") := by
    intro chargers
    cases chargers <;> exact fits_literal rfl rfl
  obtain ⟨today, todaySame, todayFits⟩ := today_fits bounded
    (daily (chargersOnly response.metrics.solarToday.sources)) response.mqttConnected
  obtain ⟨batteryBrief, batteryBriefSame, batteryBriefFits⟩ := battery_fits bounded
    (fits_literal rfl rfl : Fits 18 "Аккумулятор") response.mqttConnected
  obtain ⟨solarBrief, solarBriefSame, solarBriefFits⟩ := solar_fits bounded
    (fits_literal rfl rfl : Fits 18 "Солнце") response.mqttConnected
  obtain ⟨todayBrief, todayBriefSame, todayBriefFits⟩ := today_fits bounded
    (dailyShort (chargersOnly response.metrics.solarToday.sources)) response.mqttConnected
  have alarmSame : alarmReport { response.alarms with
      active := response.alarms.active.map fun alarm =>
        { alarm with label := alarmLabel alarm.source } } response.mqttConnected = some alarm := alarmSame
  simp only [localize, batterySame, solarSame, todaySame, batteryBriefSame, solarBriefSame,
    todayBriefSame, alarmSame, Option.bind_eq_bind, Option.bind_some, Option.bind_eq_some_iff,
    Option.some.injEq] at localized
  obtain ⟨spokenFlow, flowSame, rfl⟩ := localized
  have disconnected : Fits 1200 disconnectedText :=
    (fits_literal rfl rfl : Fits 70 disconnectedText).mono (by omega)
  unfold Fits at alarmFits batteryFits solarFits todayFits batteryBriefFits solarBriefFits todayBriefFits
  refine ⟨Nat.le_trans alarmFits (by omega), ?_, ?_, flowText_fits bounded flowSame flow⟩
  · show Fits 1200 (if response.mqttConnected then _ else _)
    split
    · refine (Text.fits_joinSpace _).mono ?_
      simp only [Text.room_cons, Text.room_nil]
      omega
    · exact disconnected
  · rintro brief shown
    obtain rfl := Option.some.inj shown
    split
    · refine (Text.fits_joinSpace _).mono ?_
      split
      · simp only [Text.room_append, Text.room_cons, Text.room_nil]
        omega
      · simp only [Text.room_cons, Text.room_nil]
        omega
    · exact disconnected

end Localize

end InverterGateway.Gateway.Russian

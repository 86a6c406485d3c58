/-
# Theory.TopicFilter — the wildcard rules of MQTT topic filters

A filter and a topic are compared level by level: `+` takes one level, a last
`#` takes all the levels that remain, and a filter that starts with a wildcard
takes no topic that starts with a dollar sign.
-/
import InverterGateway.Theory.Fields

namespace InverterGateway.Theory.TopicFilter

set_option autoImplicit false

/-- The levels of a filter take the levels of a topic. -/
inductive Takes : List String → List String → Prop where
  | done : Takes [] []
  | rest (topic : List String) : Takes ["#"] topic
  | one {filter topic : List String} (level : String) (further : Takes filter topic) :
      Takes ("+" :: filter) (level :: topic)
  | same {filter topic : List String} (level : String) (further : Takes filter topic) :
      Takes (level :: filter) (level :: topic)

/-- A subscription to a filter takes a topic. -/
structure Accepts (filter topic : String) : Prop where
  levels : Takes (Text.split filter '/') (Text.split topic '/')
  dollar : Text.startsWith topic "$" = true →
    Text.startsWith filter "+" = false ∧ Text.startsWith filter "#" = false

theorem Takes.append (common : List String) {filter topic : List String} (further : Takes filter topic) :
    Takes (common ++ filter) (common ++ topic) := by
  induction common with
  | nil => exact further
  | cons level levels ih => exact .same level ih

/-- Texts that start with different characters. -/
theorem startsWith_apart {s sign sign' : String} {c d : Char} (single : sign.toList = [c])
    (single' : sign'.toList = [d]) (other : c ≠ d) (starts : Text.startsWith s sign = true) :
    Text.startsWith s sign' = false := by
  rw [Text.startsWith_iff, single] at starts
  rw [Bool.eq_false_iff, Ne, Text.startsWith_iff, single']
  intro also
  obtain ⟨rest, whole⟩ := starts
  obtain ⟨rest', whole'⟩ := also
  rw [← whole] at whole'
  exact other (List.cons.inj whole').1.symm

/-- What a stem puts in front of a text, up to its last separator, is split off alone. -/
theorem split_append (stem : String) (c : Char) : ∃ (common : List String) (last : String),
    c ∉ last.toList ∧ ∀ s, Text.split (stem ++ s) c = common ++ Text.split (last ++ s) c := by
  induction size : stem.toList.length using Nat.strongRecOn generalizing stem with
  | ind n ih =>
      cases parts : Text.splitOnce stem c with
      | none => exact ⟨[], stem, Text.splitOnce_eq_none.1 parts, fun _ => rfl⟩
      | some pair =>
          obtain ⟨first, rest⟩ := pair
          obtain ⟨whole, -⟩ := Text.splitOnce_eq_some.1 parts
          have shorter : rest.toList.length < n := by
            rw [← size, whole, List.length_append, List.length_cons]
            omega
          obtain ⟨common, last, plain, split⟩ := ih _ shorter rest rfl
          refine ⟨Text.split first c ++ common, last, plain, fun s => ?_⟩
          have same : stem ++ s = first ++ String.singleton c ++ (rest ++ s) := by
            apply Text.toList_injective
            simp [String.toList_append, whole]
          rw [same, Text.split_append_sep, split, List.append_assoc]

/-- Below any stem, a filter takes a topic when their first levels are the same
text and the filter's other levels take the topic's. -/
theorem accepts_below (stem : String) {first filter topic : String} {levels : List String}
    (some : first.toList ≠ []) (shape : Text.split filter '/' = levels) (further : Takes levels (Text.split topic '/')) :
    Accepts (stem ++ (first ++ "/" ++ filter)) (stem ++ first ++ "/" ++ topic) := by
  obtain ⟨common, last, clear, split⟩ := split_append stem '/'
  have slash : ("/" : String) = String.singleton '/' := rfl
  refine ⟨?_, fun dollar => ?_⟩
  · have left := split (first ++ String.singleton '/' ++ filter)
    have right := split (first ++ String.singleton '/' ++ topic)
    simp only [slash, String.append_assoc] at left right ⊢
    rw [left, right]
    simp only [← String.append_assoc]
    rw [Text.split_append_sep, Text.split_append_sep, shape]
    exact (further.append _).append common
  · obtain ⟨c, rest, chars⟩ := List.exists_cons_of_ne_nil (l := (stem ++ first).toList) (by
      rw [String.toList_append]
      exact fun none => some (List.append_eq_nil_iff.1 none).2)
    have dollar_sign : ("$" : String).toList = ['$'] := by decide
    have begins : ∀ tail : String,
        Text.startsWith (stem ++ first ++ tail) "$" = decide ('$' = c) := by
      intro tail
      rw [Text.startsWith, String.toList_append, chars, dollar_sign, List.cons_append,
        List.isPrefixOf_cons_cons, List.isPrefixOf_nil_left, Bool.and_true]
      rfl
    have opens : Text.startsWith (stem ++ (first ++ "/" ++ filter)) "$" = true := by
      have topic_opens := begins ("/" ++ topic)
      have filter_opens := begins ("/" ++ filter)
      simp only [String.append_assoc] at topic_opens filter_opens dollar ⊢
      rw [filter_opens, ← topic_opens]
      exact dollar
    have plus_sign : ("+" : String).toList = ['+'] := by decide
    have hash_sign : ("#" : String).toList = ['#'] := by decide
    exact ⟨startsWith_apart dollar_sign plus_sign (by decide) opens,
      startsWith_apart dollar_sign hash_sign (by decide) opens⟩

end InverterGateway.Theory.TopicFilter

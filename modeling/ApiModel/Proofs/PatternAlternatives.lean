import ApiModel.Compile.Primitive

/-! Patterns that list values. The values of an anchored alternation are read back as they were
written: parentheses around the whole are dropped once, so they may stand around it or, if the
values bring none themselves, be left out. A string that is given its values in this way has no
other pattern and keeps them whatever else its schema says. -/
namespace ApiModel

namespace Text

variable {sep : CodePoint}

theorem flatten_split (sep : CodePoint) (text : Text) :
    (split sep text).flatten = text.filter (· ≠ sep) := by
  induction text with
  | nil => rfl
  | cons c rest ih =>
    rw [split]
    split
    · rename_i same
      rw [List.flatten_cons, List.nil_append, ih, List.filter_cons_of_neg (by simp [same])]
    · rename_i other
      rw [List.filter_cons_of_pos (by simp [other]), ← ih]
      cases split sep rest <;> rfl

/-- Joined texts come apart again. Empty pieces are dropped, since no text at all is cut into
one. -/
theorem filter_split_join {texts : List Text} (legible : ∀ text ∈ texts, text ≠ [] ∧ sep ∉ text) :
    (split sep (join [sep] texts)).filter (!·.isEmpty) = texts := by
  cases texts with
  | nil => rfl
  | cons first rest =>
    rw [split_eq_splitOn, join_eq_intercalate, List.splitOn_intercalate sep
      (fun text listed => (legible text listed).2) (List.cons_ne_nil first rest),
      List.filter_eq_self]
    intro text listed
    simpa using (legible text listed).1

end Text

namespace Compile

/-- Whether a text has a parenthesis at either end. -/
def IsEnclosed (text : Text) : Prop := ("(" : Text) <+: text ∧ (")" : Text) <:+ text

instance (text : Text) : Decidable (IsEnclosed text) := inferInstanceAs (Decidable (_ ∧ _))

theorem isEnclosed_iff {text : Text} :
    IsEnclosed text ↔ ∃ body : Text, text = "(" ++ body ++ ")" := by
  constructor
  · rintro ⟨⟨rest, rfl⟩, front, same⟩
    cases front with
    | nil => exact absurd (List.cons.inj same).1 (by decide)
    | cons c body =>
      obtain ⟨rfl, rfl⟩ := List.cons.inj same
      exact ⟨body, rfl⟩
  · rintro ⟨body, rfl⟩
    exact ⟨⟨body ++ ")", (List.append_assoc ..).symm⟩, List.suffix_append _ _⟩

theorem dropParentheses_enclosed (body : Text) : dropParentheses ("(" ++ body ++ ")") = body := by
  have enclosed : ("(" ++ body ++ ")" : Text) = .char '(' :: (body ++ [.char ')']) := rfl
  simp only [enclosed, dropParentheses, List.reverse_concat, List.reverse_reverse]

theorem dropParentheses_of_not_isEnclosed {text : Text} (h : ¬ IsEnclosed text) :
    dropParentheses text = text := by
  unfold dropParentheses
  split
  · split
    · rename_i _ body closed
      refine absurd (isEnclosed_iff.2 ⟨body.reverse, ?_⟩) h
      rw [List.reverse_eq_cons_iff.1 closed]
      rfl
    · rfl
  · rfl

theorem patternAlternatives_anchored (body : Text) : patternAlternatives ("^" ++ body ++ "$") =
    some (((Text.split '|' (dropParentheses body)).filter (!·.isEmpty)).map enumerationValue) := by
  have anchored : ("^" ++ body ++ "$" : Text) = .char '^' :: (body ++ [.char '$']) := rfl
  simp only [anchored, patternAlternatives, anchoredBody?, List.reverse_concat,
    List.reverse_reverse, Option.map_some]

theorem stringField_of_alternatives {override : ModelOverride} {format : Option Text}
    {facets : TextFacets} {pattern : Text} {alternatives : List EnumerationValue}
    (asList : override.modelStringPatternsAreAlternativeList = true)
    (given : facets.pattern = some pattern)
    (read : patternAlternatives pattern = some alternatives) (nonempty : alternatives ≠ []) :
    stringField override format facets = .string none (textLength facets.length) alternatives := by
  have written : pattern ≠ [] := by
    rintro rfl
    cases read
  have taken : readAlternatives override facets.pattern = some alternatives := by
    simp [readAlternatives, given, asList, written, read]
  simp [stringField, taken, nonempty]

def enclosedList (values : List Text) : Text := "^(" ++ Text.join "|" values ++ ")$"

def bareList (values : List Text) : Text := "^" ++ Text.join "|" values ++ "$"

section Lists

variable {values : List Text} (legible : ∀ value ∈ values, value ≠ [] ∧ .char '|' ∉ value)

include legible

theorem patternAlternatives_enclosedList :
    patternAlternatives (enclosedList values) = some (values.map enumerationValue) := by
  have opening : ("^(" : Text) = "^" ++ "(" := rfl
  have closing : (")$" : Text) = ")" ++ "$" := rfl
  have anchored : enclosedList values = "^" ++ ("(" ++ Text.join "|" values ++ ")") ++ "$" := by
    simp only [enclosedList, opening, closing, List.append_assoc]
  have read : (Text.split '|' (Text.join "|" values)).filter (!·.isEmpty) = values :=
    Text.filter_split_join legible
  rw [anchored, patternAlternatives_anchored, dropParentheses_enclosed, read]

/-- Without parentheses of their own the values are lost exactly if the first begins with one and
the last ends with one: these are taken for the missing pair. -/
theorem patternAlternatives_bareList_iff :
    patternAlternatives (bareList values) = some (values.map enumerationValue) ↔
      ¬ IsEnclosed (Text.join "|" values) := by
  have distinct (text text' : Text) (same : enumerationValue text = enumerationValue text') :
      text = text' := by injection same
  have read : (Text.split '|' (Text.join "|" values)).filter (!·.isEmpty) = values :=
    Text.filter_split_join legible
  rw [bareList, patternAlternatives_anchored, Option.some_inj, List.map_inj_right distinct]
  constructor
  · intro same enclosed
    obtain ⟨body, joined⟩ := isEnclosed_iff.1 enclosed
    rw [joined, dropParentheses_enclosed] at same
    rw [joined] at read
    -- the values that are read lack the two parentheses that the given ones hold
    have lost := congrArg List.flatten (read.trans same.symm)
    rw [List.flatten_filter_not_isEmpty, List.flatten_filter_not_isEmpty, Text.flatten_split,
      Text.flatten_split, List.filter_append, List.filter_append] at lost
    have shorter := congrArg List.length lost
    have opening : (("(" : Text).filter (· ≠ .char '|')).length = 1 := by decide
    simp only [List.length_append, opening] at shorter
    omega
  · intro unenclosed
    rw [dropParentheses_of_not_isEnclosed unenclosed]
    exact read

/-- Values without `|` in them are read back from a pattern that lists them, in their order: always
if it lists them in parentheses, and without these exactly if they bring no such pair themselves.
Where patterns are to be read as lists, a string with such a pattern has these values and no
pattern, whatever its format and its enumeration say. -/
theorem listed_values_read :
    patternAlternatives (enclosedList values) = some (values.map enumerationValue) ∧
    (patternAlternatives (bareList values) = some (values.map enumerationValue) ↔
      ¬ IsEnclosed (Text.join "|" values)) ∧
    ∀ (override : ModelOverride) (format : Option Text) (facets : TextFacets),
      values ≠ [] → override.modelStringPatternsAreAlternativeList = true →
      (facets.pattern = some (enclosedList values) ∨
        facets.pattern = some (bareList values) ∧ ¬ IsEnclosed (Text.join "|" values)) →
      stringField override format facets =
        .string none (textLength facets.length) (values.map enumerationValue) := by
  have enclosed := patternAlternatives_enclosedList legible
  have bare := patternAlternatives_bareList_iff legible
  refine ⟨enclosed, bare, ?_⟩
  intro override format facets nonempty asList given
  have named : values.map enumerationValue ≠ [] := mt List.map_eq_nil_iff.1 nonempty
  rcases given with given | ⟨given, unenclosed⟩
  · exact stringField_of_alternatives asList given enclosed named
  · exact stringField_of_alternatives asList given (bare.2 unenclosed) named

end Lists

/-- Anchors and single parentheses among the values are read as they stand, also for a string that
would else be a time. -/
theorem listed_values_read_awkward :
    patternAlternatives "^((a|^|)|$)$" =
      some ((["(a", "^", ")", "$"] : List Text).map enumerationValue) ∧
      stringField { ModelOverride.empty with modelStringPatternsAreAlternativeList := true }
          (some "date-time") ⟨.unbounded, some "^(a|^|)|$$", some [.str "b"]⟩ =
        .string none .unbounded ((["(a", "^", ")", "$"] : List Text).map enumerationValue) := by
  have read := @listed_values_read ["(a", "^", ")", "$"] (by decide)
  exact ⟨read.1, read.2.2 _ _ _ (by decide) rfl (.inr ⟨rfl, by decide⟩)⟩

end Compile

end ApiModel

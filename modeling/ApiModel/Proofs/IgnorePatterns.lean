import ApiModel.Compile.Filter
import ApiModel.Text.Segment
import Mathlib.Data.List.Forall2
import Mathlib.Data.List.TakeWhile

/-! Ignore lists, pattern by pattern. A value is looked up in all its spellings, and no pattern is
ever taken apart; the outcome is the same as if each were cut at its dots and compared segment by
segment. -/
namespace ApiModel

namespace Text

/-- Cuts a text at its first separators, as many as given. The last piece may hold more of them. -/
def splitFirst (sep : CodePoint) : Nat → Text → List Text
  | 0, text => [text]
  | n + 1, text =>
    match text.dropWhile (· ≠ sep) with
    | [] => [text]
    | _ :: rest => text.takeWhile (· ≠ sep) :: splitFirst sep n rest

variable {sep : CodePoint} {front rest text : Text}

theorem splitFirst_of_not_mem (n : Nat) (absent : sep ∉ text) : splitFirst sep n text = [text] := by
  cases n with
  | zero => rfl
  | succ n =>
    have nothing : text.dropWhile (· ≠ sep) = [] := by
      rw [List.dropWhile_eq_nil_iff]
      intro c listed
      exact decide_eq_true fun same => absent (same ▸ listed)
    rw [splitFirst, nothing]

theorem splitFirst_append (n : Nat) (absent : sep ∉ front) :
    splitFirst sep (n + 1) (front ++ sep :: rest) = front :: splitFirst sep n rest := by
  have passed : ∀ c ∈ front, decide (c ≠ sep) = true :=
    fun c listed => decide_eq_true fun same => absent (same ▸ listed)
  have behind : (front ++ sep :: rest).dropWhile (· ≠ sep) = sep :: rest := by
    rw [List.dropWhile_append_of_pos passed, List.dropWhile_cons_of_neg (by simp)]
  have before : (front ++ sep :: rest).takeWhile (· ≠ sep) = front := by
    rw [List.takeWhile_append_of_pos passed, List.takeWhile_cons_of_neg (by simp), List.append_nil]
  rw [splitFirst, behind, before]

theorem splitFirst_ne_nil (n : Nat) (text : Text) : splitFirst sep n text ≠ [] := by
  cases n with
  | zero => exact List.cons_ne_nil _ _
  | succ n =>
    unfold splitFirst
    split
    · exact List.cons_ne_nil _ _
    · exact List.cons_ne_nil _ _

theorem join_splitFirst (n : Nat) (text : Text) : join [sep] (splitFirst sep n text) = text := by
  rw [join_eq_intercalate]
  induction n generalizing text with
  | zero => exact List.intercalate_singleton
  | succ n ih =>
    by_cases found : sep ∈ text
    · obtain ⟨front, rest, rfl, absent⟩ := List.eq_append_cons_of_mem found
      rw [splitFirst_append n absent,
        List.intercalate_cons_of_ne_nil (splitFirst_ne_nil n rest), ih,
        List.append_assoc, List.singleton_append]
    · rw [splitFirst_of_not_mem _ found, List.intercalate_singleton]

theorem splitFirst_join {pieces : List Text} (nonempty : pieces ≠ [])
    (absent : ∀ piece ∈ pieces.dropLast, sep ∉ piece) :
    splitFirst sep (pieces.length - 1) (join [sep] pieces) = pieces := by
  rw [join_eq_intercalate]
  induction pieces with
  | nil => exact absurd rfl nonempty
  | cons piece others ih =>
    cases others with
    | nil =>
      rw [List.intercalate_singleton]
      rfl
    | cons next later =>
      rw [List.dropLast_cons_cons, List.forall_mem_cons] at absent
      have apart := ih (List.cons_ne_nil next later) absent.2
      rw [List.intercalate_cons_cons, List.append_assoc, List.singleton_append, List.length_cons,
        Nat.add_sub_cancel, List.length_cons, splitFirst_append _ absent.1]
      exact congrArg _ apart

end Text

namespace Filter

/-- A piece of a pattern stands for a segment if it is that segment or a lone star. -/
def Fits (piece segment : Text) : Prop := piece = star ∨ piece = segment

instance (piece segment : Text) : Decidable (Fits piece segment) :=
  inferInstanceAs (Decidable (_ ∨ _))

variable {patterns segments spelling : List Text}

theorem mem_spellings : spelling ∈ spellings segments ↔ List.Forall₂ Fits spelling segments := by
  induction segments generalizing spelling with
  | nil => simp [spellings]
  | cons segment rest ih =>
    cases spelling with
    | nil => simp [spellings]
    | cons piece others =>
      simp only [spellings, List.mem_append, List.mem_map, List.cons.injEq,
        List.forall₂_cons, ih, Fits]
      grind

theorem matchesAny_iff_spelled : matchesAny patterns segments = true ↔
    ∃ spelling ∈ spellings segments, Text.join "." spelling ∈ patterns := by
  simp only [matchesAny, Bool.and_eq_true, Bool.not_eq_true', List.isEmpty_eq_false_iff,
    List.any_eq_true, List.contains_iff_mem, and_iff_right_iff_imp]
  rintro ⟨_, _, listed⟩
  exact List.ne_nil_of_mem listed

theorem dot_not_mem_of_fits (fits : List.Forall₂ Fits spelling segments)
    (undotted : ∀ segment ∈ segments, .char '.' ∉ segment) :
    ∀ piece ∈ spelling, .char '.' ∉ piece := by
  induction fits with
  | nil => simp
  | cons first _ ih =>
    rw [List.forall_mem_cons] at *
    refine ⟨?_, ih undotted.2⟩
    rcases first with rfl | rfl
    · decide
    · exact undotted.1

/-- A value whose last segment alone may hold dots matches a list exactly if one of its patterns,
cut at the first dots, has a piece for every segment and no more, each of them the segment or a lone
star. So a star inside a longer piece is a character like any other, and the last segment is
compared whole. -/
theorem matchesAny_iff_fits (nonempty : segments ≠ [])
    (undotted : ∀ segment ∈ segments.dropLast, .char '.' ∉ segment) :
    matchesAny patterns segments = true ↔ ∃ pattern ∈ patterns,
      List.Forall₂ Fits (Text.splitFirst '.' (segments.length - 1) pattern) segments := by
  have dot : ("." : Text) = [.char '.'] := rfl
  rw [matchesAny_iff_spelled, dot]
  constructor
  · rintro ⟨spelling, spelled, listed⟩
    have fits := mem_spellings.1 spelled
    have written : spelling ≠ [] := by
      rintro rfl
      exact nonempty (List.forall₂_nil_left_iff.1 fits)
    -- a star holds no dot either, so the pattern is cut where the spelling was joined
    have clear : ∀ piece ∈ spelling.dropLast, .char '.' ∉ piece := by
      have most := List.forall₂_take (segments.length - 1) fits
      rw [← List.dropLast_eq_take, ← fits.length_eq, ← List.dropLast_eq_take] at most
      exact dot_not_mem_of_fits most undotted
    refine ⟨_, listed, ?_⟩
    rw [← fits.length_eq, Text.splitFirst_join written clear]
    exact fits
  · rintro ⟨pattern, listed, fits⟩
    refine ⟨_, mem_spellings.2 fits, ?_⟩
    rw [Text.join_splitFirst]
    exact listed

/-- The dots in the name of a header are its own, and a star among other letters is a letter. -/
theorem matchesAny_dotted_header :
    matchesAny ["get*.404.X.Trace", "*.404.X.Trace"] ["getWidget", "404", "X.Trace"] = true ∧
      matchesAny ["get*.404.X.Trace", "*.404.X", "*"] ["getWidget", "404", "X.Trace"] = false := by
  have fits (patterns : List Text) :
      matchesAny patterns ["getWidget", "404", "X.Trace"] = true ↔ _ :=
    matchesAny_iff_fits (by decide) (by decide)
  rw [← Bool.not_eq_true, fits, fits]
  decide

end Filter

end ApiModel

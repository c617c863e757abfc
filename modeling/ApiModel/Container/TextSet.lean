import ApiModel.Text.Basic

/-! Finite sets of texts. A set is its members in strictly increasing order, so equal sets are equal
lists. -/
namespace ApiModel

/-- Puts a text into its place of an increasing list, unless it is there. -/
def insertSorted (text : Text) : List Text → List Text
  | [] => [text]
  | first :: rest =>
    if text < first then text :: first :: rest
    else if text = first then first :: rest
    else first :: insertSorted text rest

theorem mem_insertSorted {text other : Text} {l : List Text} :
    other ∈ insertSorted text l ↔ other = text ∨ other ∈ l := by
  induction l with
  | nil => simp [insertSorted]
  | cons first rest ih =>
    by_cases h : text < first
    · simp [insertSorted, h]
    · by_cases e : text = first
      · simp [insertSorted, e, Text.lt_irrefl]
      · simp only [insertSorted, h, e, if_false, List.mem_cons, ih]
        exact or_left_comm

theorem pairwise_insertSorted {text : Text} {l : List Text} (h : l.Pairwise (· < ·)) :
    (insertSorted text l).Pairwise (· < ·) := by
  induction l with
  | nil => simp [insertSorted]
  | cons first rest ih =>
    rw [List.pairwise_cons] at h
    by_cases less : text < first
    · simp only [insertSorted, less, if_true, List.pairwise_cons]
      refine ⟨fun other member => ?_, h.1, h.2⟩
      rcases List.mem_cons.1 member with rfl | member
      · exact less
      · exact Text.lt_trans less (h.1 other member)
    · by_cases e : text = first
      · simp only [insertSorted, e, Text.lt_irrefl, if_false, if_true, List.pairwise_cons]
        exact h
      · simp only [insertSorted, less, e, if_false, List.pairwise_cons]
        refine ⟨fun other member => ?_, ih h.2⟩
        rcases mem_insertSorted.1 member with rfl | member
        · exact Text.lt_of_not_lt_of_ne less e
        · exact h.1 other member

structure TextSet where
  members : List Text
  increasing : members.Pairwise (· < ·)
  deriving DecidableEq

namespace TextSet

def empty : TextSet := ⟨[], .nil⟩

instance : EmptyCollection TextSet := ⟨empty⟩

instance : Inhabited TextSet := ⟨empty⟩

instance : Membership Text TextSet := ⟨fun s text => text ∈ s.members⟩

def contains (s : TextSet) (text : Text) : Bool := s.members.contains text

def insert (s : TextSet) (text : Text) : TextSet :=
  ⟨insertSorted text s.members, pairwise_insertSorted s.increasing⟩

theorem mem_insert {s : TextSet} {text other : Text} :
    other ∈ s.insert text ↔ other = text ∨ other ∈ s :=
  mem_insertSorted

def ofList (texts : List Text) : TextSet :=
  texts.foldl insert empty

end TextSet

end ApiModel

import ApiModel.Text.Basic

/-! Sorting by insertion. Items of equal rank keep their order. -/
namespace ApiModel

variable {α : Type}

def insertBy (le : α → α → Bool) (a : α) : List α → List α
  | [] => [a]
  | b :: rest => if le a b then a :: b :: rest else b :: insertBy le a rest

def sortBy (le : α → α → Bool) : List α → List α
  | [] => []
  | a :: rest => insertBy le a (sortBy le rest)

theorem perm_insertBy (le : α → α → Bool) (a : α) (l : List α) :
    (insertBy le a l).Perm (a :: l) := by
  induction l with
  | nil => exact .refl _
  | cons b rest ih =>
    unfold insertBy
    split
    · exact .refl _
    · exact (ih.cons b).trans (.swap a b rest)

theorem perm_sortBy (le : α → α → Bool) (l : List α) : (sortBy le l).Perm l := by
  induction l with
  | nil => exact .refl _
  | cons a rest ih => exact (perm_insertBy le a _).trans (ih.cons a)

def sortTexts (texts : List Text) : List Text :=
  sortBy Text.isOrdered texts

def sortByKey (entries : List (Text × α)) : List (Text × α) :=
  sortBy (fun a b => a.1.isOrdered b.1) entries

theorem perm_sortByKey (entries : List (Text × α)) : (sortByKey entries).Perm entries :=
  perm_sortBy _ entries

end ApiModel

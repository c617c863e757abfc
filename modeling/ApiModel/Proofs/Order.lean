import ApiModel.Container.Sort
import Mathlib.Data.List.Nodup

/-! Sorted lists. Sorting orders a list and leaves an ordered one as it is; in a list of texts that
ascends, the rank of a text is its place. -/
namespace ApiModel

section Sorting

variable {α : Type} {le : α → α → Bool}

theorem pairwise_insertBy (total : ∀ a b, le a b = false → le b a = true)
    (trans : ∀ a b c, le a b = true → le b c = true → le a c = true) (a : α) {l : List α}
    (h : l.Pairwise fun x y => le x y = true) :
    (insertBy le a l).Pairwise fun x y => le x y = true := by
  induction l with
  | nil => simp [insertBy]
  | cons b rest ih =>
    rw [List.pairwise_cons] at h
    unfold insertBy
    by_cases ordered : le a b = true
    · rw [if_pos ordered, List.pairwise_cons, List.pairwise_cons]
      refine ⟨?_, h⟩
      intro other member
      rcases List.mem_cons.1 member with rfl | member
      · exact ordered
      · exact trans a b other ordered (h.1 other member)
    · rw [if_neg ordered, List.pairwise_cons]
      refine ⟨?_, ih h.2⟩
      intro other member
      rcases List.mem_cons.1 ((perm_insertBy le a rest).mem_iff.1 member) with rfl | member
      · exact total other b (Bool.eq_false_iff.2 ordered)
      · exact h.1 other member

theorem pairwise_sortBy (total : ∀ a b, le a b = false → le b a = true)
    (trans : ∀ a b c, le a b = true → le b c = true → le a c = true) (l : List α) :
    (sortBy le l).Pairwise fun x y => le x y = true := by
  induction l with
  | nil => exact .nil
  | cons a rest ih => exact pairwise_insertBy total trans a ih

theorem sortBy_of_pairwise {l : List α} (h : l.Pairwise fun x y => le x y = true) :
    sortBy le l = l := by
  induction l with
  | nil => rfl
  | cons a rest ih =>
    rw [List.pairwise_cons] at h
    unfold sortBy
    rw [ih h.2]
    cases rest with
    | nil => rfl
    | cons b others =>
      have first : le a b = true := h.1 b List.mem_cons_self
      simp [insertBy, first]

section Map

variable {β : Type} {le' : β → β → Bool} {g : α → β}

theorem insertBy_map (h : ∀ a b, le' (g a) (g b) = le a b) (a : α) (l : List α) :
    insertBy le' (g a) (l.map g) = (insertBy le a l).map g := by
  induction l with
  | nil => rfl
  | cons b rest ih =>
    simp only [List.map_cons, insertBy, h]
    split
    · rfl
    · rw [ih, List.map_cons]

theorem sortBy_map (h : ∀ a b, le' (g a) (g b) = le a b) (l : List α) :
    sortBy le' (l.map g) = (sortBy le l).map g := by
  induction l with
  | nil => rfl
  | cons a rest ih => rw [List.map_cons, sortBy, ih, insertBy_map h, sortBy]

end Map

end Sorting

namespace Text

theorem lt_asymm {a b : Text} (h : a < b) : ¬ b < a := by
  intro h'
  exact lt_irrefl a (lt_trans h h')

theorem isOrdered_iff {a b : Text} : a.isOrdered b = true ↔ ¬ b < a := by
  simp [isOrdered]

theorem isOrdered_total (a b : Text) (h : a.isOrdered b = false) : b.isOrdered a = true := by
  have less : b < a := by simpa [isOrdered] using h
  exact isOrdered_iff.2 (lt_asymm less)

theorem isOrdered_trans (a b c : Text) (h : a.isOrdered b = true) (h' : b.isOrdered c = true) :
    a.isOrdered c = true := by
  rw [isOrdered_iff] at *
  intro less
  by_cases same : b = c
  · exact h (same ▸ less)
  · exact h (lt_trans (lt_of_not_lt_of_ne h' fun e => same e.symm) less)

theorem lt_of_isOrdered {a b : Text} (h : a.isOrdered b = true) (ne : a ≠ b) : a < b :=
  lt_of_not_lt_of_ne (isOrdered_iff.1 h) fun e => ne e.symm

theorem nodup_of_pairwise_lt {texts : List Text} (h : texts.Pairwise (· < ·)) : texts.Nodup := by
  apply h.imp
  intro a b less same
  subst same
  exact lt_irrefl a less

theorem eq_of_ascending {texts texts' : List Text} (ascending : texts.Pairwise (· < ·))
    (ascending' : texts'.Pairwise (· < ·)) (same : ∀ text, text ∈ texts ↔ text ∈ texts') :
    texts = texts' := by
  have perm : texts.Perm texts' :=
    (List.perm_ext_iff_of_nodup (nodup_of_pairwise_lt ascending)
      (nodup_of_pairwise_lt ascending')).2 same
  exact perm.eq_of_pairwise (fun a b _ _ less more => absurd more (lt_asymm less)) ascending
    ascending'

end Text

theorem pairwise_sortTexts {texts : List Text} (nodup : texts.Nodup) :
    (sortTexts texts).Pairwise (· < ·) := by
  have distinct : (sortTexts texts).Nodup := (perm_sortBy _ texts).nodup_iff.2 nodup
  have ordered : (sortTexts texts).Pairwise fun a b => a.isOrdered b = true :=
    pairwise_sortBy Text.isOrdered_total Text.isOrdered_trans texts
  exact (ordered.and distinct).imp fun h => Text.lt_of_isOrdered h.1 h.2

theorem pairwise_keys_sortByKey {α : Type} {entries : List (Text × α)}
    (nodup : (entries.map Prod.fst).Nodup) :
    ((sortByKey entries).map Prod.fst).Pairwise (· < ·) := by
  have distinct : ((sortByKey entries).map Prod.fst).Nodup :=
    ((perm_sortByKey entries).map Prod.fst).nodup_iff.2 nodup
  have ordered : (sortByKey entries).Pairwise fun a b => a.1.isOrdered b.1 = true :=
    pairwise_sortBy (fun a b => Text.isOrdered_total a.1 b.1)
      (fun a b c => Text.isOrdered_trans a.1 b.1 c.1) entries
  have keys : ((sortByKey entries).map Prod.fst).Pairwise fun a b => a.isOrdered b = true :=
    List.pairwise_map.2 ordered
  exact (keys.and distinct).imp fun h => Text.lt_of_isOrdered h.1 h.2

theorem sortByKey_eq_of_perm {α : Type} {entries others : List (Text × α)}
    (perm : entries.Perm others) (nodup : (entries.map Prod.fst).Nodup) :
    sortByKey entries = sortByKey others := by
  have ascending {l : List (Text × α)} (nodup : (l.map Prod.fst).Nodup) :
      (sortByKey l).Pairwise fun a b => a.1 < b.1 :=
    List.pairwise_map.1 (pairwise_keys_sortByKey nodup)
  have sorted : (sortByKey entries).Perm (sortByKey others) :=
    ((perm_sortByKey entries).trans perm).trans (perm_sortByKey others).symm
  exact sorted.eq_of_pairwise (fun a b _ _ less more => absurd more (Text.lt_asymm less))
    (ascending nodup) (ascending ((perm.map Prod.fst).nodup_iff.1 nodup))

def rank (keys : List Text) (key : Text) : Nat :=
  keys.countP fun other => decide (other < key)

theorem rank_of_pairwise {keys : List Text} (h : keys.Pairwise (· < ·)) {i : Nat} {key : Text}
    (place : keys[i]? = some key) : rank keys key = i := by
  induction keys generalizing i with
  | nil => simp at place
  | cons first rest ih =>
    rw [List.pairwise_cons] at h
    unfold rank
    cases i with
    | zero =>
      simp only [List.getElem?_cons_zero, Option.some.injEq] at place
      subst place
      rw [List.countP_eq_zero]
      intro other member
      rcases List.mem_cons.1 member with rfl | member
      · simpa using Text.lt_irrefl other
      · simpa using Text.lt_asymm (h.1 other member)
    | succ i =>
      simp only [List.getElem?_cons_succ] at place
      have less : first < key := h.1 key (List.mem_of_getElem? place)
      rw [List.countP_cons_of_pos (by simpa using less)]
      exact congrArg (· + 1) (ih h.2 place)

end ApiModel

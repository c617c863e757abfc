import ApiModel.Compile.Progress
import ApiModel.Proofs.Bounds
import ApiModel.Proofs.OrderedMap
import Mathlib.Data.List.Perm.Subperm

/-! Descriptions that are the same. Fields are the same if all their parts are equal and their
bounds lie at the same points; structures are the same if they hold the same members in any
order. -/
namespace ApiModel

namespace NumericRange

def points (r : NumericRange) : Option Point × Option Point × Bool × Bool :=
  (r.minimum.map Bound.point, r.maximum.map Bound.point, r.exclusiveMinimum, r.exclusiveMaximum)

theorem sameOption_iff (a b : Option Bound) :
    sameOption Bound.same a b = true ↔ a.map Bound.point = b.map Bound.point := by
  cases a <;> cases b <;> simp [sameOption, Bound.same_iff]

theorem same_iff (r s : NumericRange) : r.same s = true ↔ r.points = s.points := by
  simp [same, points, sameOption_iff, and_assoc]

end NumericRange

namespace Field

inductive Content where
  | string (pattern : Option Text) (length : LengthRange) (values : List EnumerationValue)
  | number (kind : Kind) (range : Option Point × Option Point × Bool × Bool)
  | plain (kind : Kind)
  | list (element : Text) (length : LengthRange)
  | map (key value : Text) (length : LengthRange)

def content : Field → Content
  | string pattern length values => .string pattern length values
  | integer range => .number .integer range.points
  | long range => .number .long range.points
  | double range => .number .double range.points
  | boolean => .plain .boolean
  | timestamp => .plain .timestamp
  | binary => .plain .binary
  | list element length => .list element length
  | map key value length => .map key value length

theorem same_iff (f g : Field) : f.same g = true ↔ f.content = g.content := by
  cases f <;> cases g <;> simp [same, content, NumericRange.same_iff, and_assoc]

theorem same_equivalence : Equivalence fun f g : Field => f.same g = true := by
  simp only [same_iff]
  exact ⟨fun _ => rfl, Eq.symm, Eq.trans⟩

end Field

namespace OrderedMap

variable {α : Type} {m n : OrderedMap α}

theorem nodup_entries (m : OrderedMap α) : m.entries.Nodup := m.nodup.of_map

theorem perm_entries_iff : m.entries.Perm n.entries ↔ ∀ key, m.get? key = n.get? key := by
  constructor
  · intro perm key
    ext value
    rw [get?_eq_some_iff, get?_eq_some_iff, perm.mem_iff]
  · intro same
    apply (List.perm_ext_iff_of_nodup m.nodup_entries n.nodup_entries).2
    rintro ⟨key, value⟩
    rw [← get?_eq_some_iff, ← get?_eq_some_iff, same key]

theorem sameBy_beq_iff [DecidableEq α] :
    m.sameBy (· == ·) n = true ↔ ∀ key, m.get? key = n.get? key := by
  rw [← perm_entries_iff]
  simp only [sameBy, Bool.and_eq_true, beq_iff_eq, List.all_eq_true, size]
  constructor
  · rintro ⟨length, found⟩
    have contained : m.entries ⊆ n.entries := by
      intro e member
      have given := found e member
      cases known : n.get? e.1 with
      | none => simp [known] at given
      | some value =>
        simp only [known, beq_iff_eq] at given
        exact get?_eq_some_iff.1 (given ▸ known)
    have subperm := List.subperm_of_subset m.nodup_entries contained
    exact subperm.perm_of_length_le (Nat.le_of_eq length.symm)
  · intro perm
    refine ⟨perm.length_eq, ?_⟩
    intro e member
    rw [get?_eq_some_iff.2 (perm.mem_iff.1 member)]
    exact beq_self_eq_true e.2

end OrderedMap

namespace Structure

theorem same_iff (s t : Structure) : s.same t = true ↔
    (∀ key, s.members.get? key = t.members.get? key) ∧ s.documentation = t.documentation := by
  simp [same, OrderedMap.sameBy_beq_iff]

theorem same_equivalence : Equivalence fun s t : Structure => s.same t = true := by
  simp only [same_iff]
  constructor
  · intro s
    exact ⟨fun _ => rfl, rfl⟩
  · intro s t h
    exact ⟨fun key => (h.1 key).symm, h.2.symm⟩
  · intro s t u h h'
    exact ⟨fun key => (h.1 key).trans (h'.1 key), h.2.trans h'.2⟩

end Structure

/-! Maps that keep the values of others up to an equivalence. -/

namespace OrderedMap

variable {α : Type} {same : α → α → Bool} {m n : OrderedMap α} {key : Text} {a : α}

/-- Whether a key stands for a value that is the same. -/
def Keeps (same : α → α → Bool) (m : OrderedMap α) (key : Text) (a : α) : Prop :=
  ∃ b, m.get? key = some b ∧ same a b = true

/-- All entries of a map are kept by another one. -/
def Kept (same : α → α → Bool) (m n : OrderedMap α) : Prop :=
  ∀ key a, m.get? key = some a → n.Keeps same key a

section Equivalence

variable (equiv : Equivalence fun a b : α => same a b = true)
include equiv

theorem keeps_of_get? (h : m.get? key = some a) : m.Keeps same key a := ⟨a, h, equiv.refl a⟩

theorem Keeps.trans (h : m.Keeps same key a) (later : Kept same m n) : n.Keeps same key a := by
  obtain ⟨b, found, first⟩ := h
  obtain ⟨c, kept, second⟩ := later key b found
  exact ⟨c, kept, equiv.trans first second⟩

theorem Kept.insert (h : Kept same m n) (key : Text) (a : α) :
    Kept same (m.insert key a) (n.insert key a) := by
  intro other b found
  unfold Keeps
  rw [get?_insert] at *
  split at found
  · rename_i here
    exact ⟨b, by rw [if_pos here, found], equiv.refl b⟩
  · rename_i elsewhere
    rw [if_neg elsewhere]
    exact h other b found

theorem kept_update {new : OrderedMap α}
    (agree : ∀ key a b, new.get? key = some a → m.get? key = some b → same b a = true) :
    Kept same m (m.update new) := by
  intro key b known
  unfold Keeps
  rw [get?_update]
  cases given : new.get? key with
  | none => exact keeps_of_get? equiv known
  | some a => exact ⟨a, rfl, agree key a b given known⟩

theorem keeps_foldl_insert {l : List (Text × α)} (h : m.get? key = some a)
    (agree : ∀ b, (key, b) ∈ l → same a b = true) :
    (l.foldl (fun m e => m.insert e.1 e.2) m).Keeps same key a := by
  unfold Keeps
  rw [get?_foldl_insert]
  cases found : l.reverse.lookup key with
  | none => exact keeps_of_get? equiv h
  | some b => exact ⟨b, rfl, agree b (List.mem_reverse.1 (mem_of_lookup found))⟩

theorem keeps_iff_of_kept (there : key ∈ m.keys) (later : Kept same m n) :
    n.Keeps same key a ↔ m.Keeps same key a := by
  refine ⟨?_, fun h => h.trans equiv later⟩
  rintro ⟨c, kept, first⟩
  obtain ⟨b, found⟩ := mem_keys_iff.1 there
  obtain ⟨c', kept', second⟩ := later key b found
  cases kept.symm.trans kept'
  exact ⟨b, found, equiv.trans first (equiv.symm second)⟩

end Equivalence

end OrderedMap

end ApiModel

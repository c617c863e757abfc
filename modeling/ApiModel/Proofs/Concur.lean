import ApiModel.Document.Access
import Mathlib.Data.List.Forall2

/-! Two computations that fail together. Whether they succeed is decided alike in both; what they
give then is related. -/
namespace ApiModel

variable {α β γ δ ε ε' : Type}

theorem bind_eq_ok_iff {x : Except ε α} {f : α → Except ε β} {b : β} :
    x >>= f = .ok b ↔ ∃ a, x = .ok a ∧ f a = .ok b := by
  cases x with
  | error e => exact ⟨nofun, nofun⟩
  | ok a =>
    constructor
    · exact fun done => ⟨a, rfl, done⟩
    · rintro ⟨_, ⟨⟩, done⟩
      exact done

theorem map_eq_ok_iff {x : Except ε α} {f : α → β} {b : β} :
    f <$> x = .ok b ↔ ∃ a, x = .ok a ∧ f a = b := by
  cases x with
  | error e => exact ⟨nofun, nofun⟩
  | ok a => simp [Functor.map, Except.map]

theorem exists_of_decided {x : Except ε α} {p : α → Prop} [DecidablePred p]
    (told : (x.map fun a => decide (p a)).toOption = some true) : ∃ a, x = .ok a ∧ p a := by
  cases x with
  | error e => cases told
  | ok a => exact ⟨a, rfl, of_decide_eq_true (Option.some.inj told)⟩

section Lists

variable {f : α → Except ε β} {l : List α}

theorem mapM_eq_ok_iff {l' : List β} :
    l.mapM f = .ok l' ↔ List.Forall₂ (fun a b => f a = .ok b) l l' := by
  induction l generalizing l' with
  | nil => cases l' <;> simp [pure, Except.pure]
  | cons a rest ih =>
    rw [List.mapM_cons]
    cases first : f a with
    | error e => cases l' <;> simp [bind, Except.bind, first]
    | ok b =>
      cases others : rest.mapM f with
      | error e => cases l' <;> simp [bind, Except.bind, ← ih, first, others]
      | ok more => cases l' <;> simp [bind, Except.bind, pure, Except.pure, ← ih, first, others]

theorem mapM_isOk_iff : (∃ l', l.mapM f = .ok l') ↔ ∀ a ∈ l, ∃ b, f a = .ok b := by
  constructor
  · rintro ⟨l', done⟩
    induction mapM_eq_ok_iff.1 done with
    | nil => simp
    | @cons a b rest more first others ih =>
      intro other listed
      rcases List.mem_cons.1 listed with rfl | listed
      · exact ⟨b, first⟩
      · exact ih (mapM_eq_ok_iff.2 others) other listed
  · intro each
    induction l with
    | nil => exact ⟨[], rfl⟩
    | cons a rest ih =>
      obtain ⟨b, first⟩ := each a List.mem_cons_self
      obtain ⟨more, others⟩ := ih fun other listed => each other (List.mem_cons_of_mem a listed)
      exact ⟨b :: more, mapM_eq_ok_iff.2 (.cons first (mapM_eq_ok_iff.1 others))⟩

theorem exists_of_forall₂ {R : α → β → Prop} {l : List α} {l' : List β} (each : List.Forall₂ R l l')
    {b : β} (listed : b ∈ l') : ∃ a ∈ l, R a b := by
  induction each with
  | nil => simp at listed
  | cons first _ ih =>
    rcases List.mem_cons.1 listed with rfl | listed
    · exact ⟨_, List.mem_cons_self, first⟩
    · obtain ⟨a, there, related⟩ := ih listed
      exact ⟨a, List.mem_cons_of_mem _ there, related⟩

end Lists

/-- Both succeed with related results, or both fail with related causes. -/
inductive Ending (E : ε → ε' → Prop) (R : α → β → Prop) : Except ε α → Except ε' β → Prop where
  | ok {a : α} {b : β} (related : R a b) : Ending E R (.ok a) (.ok b)
  | error {e : ε} {e' : ε'} (causes : E e e') : Ending E R (.error e) (.error e')

namespace Ending

variable {E : ε → ε' → Prop} {R : α → β → Prop} {Q : γ → δ → Prop} {x : Except ε α}
  {y : Except ε' β}

theorem imp {E' : ε → ε' → Prop} {R' : α → β → Prop} (h : Ending E R x y)
    (results : ∀ a b, R a b → R' a b) (causes : ∀ e e', E e e' → E' e e') : Ending E' R' x y := by
  cases h with
  | ok related => exact .ok (results _ _ related)
  | error same => exact .error (causes _ _ same)

theorem self (x : Except ε α) : Ending Eq Eq x x := by
  cases x with
  | ok a => exact .ok rfl
  | error e => exact .error rfl

theorem bind {f : α → Except ε γ} {g : β → Except ε' δ} (first : Ending E R x y)
    (next : ∀ a b, R a b → Ending E Q (f a) (g b)) : Ending E Q (x >>= f) (y >>= g) := by
  cases first with
  | ok related => exact next _ _ related
  | error causes => exact .error causes

theorem map {f : α → γ} {g : β → δ} (h : Ending E R x y) (next : ∀ a b, R a b → Q (f a) (g b)) :
    Ending E Q (f <$> x) (g <$> y) := by
  cases h with
  | ok related => exact .ok (next _ _ related)
  | error causes => exact .error causes

theorem mapM {f : α → Except ε γ} {g : β → Except ε' δ} {l : List α} {l' : List β}
    (h : List.Forall₂ (fun a b => Ending E Q (f a) (g b)) l l') :
    Ending E (List.Forall₂ Q) (l.mapM f) (l'.mapM g) := by
  induction h with
  | nil => exact .ok .nil
  | cons first _ ih =>
    rw [List.mapM_cons, List.mapM_cons]
    exact first.bind fun a b related => ih.bind fun l l' more => .ok (.cons related more)

end Ending

/-- Both fail, or both succeed with related results. -/
abbrev Concur (R : α → β → Prop) (x : Except ε α) (y : Except ε' β) : Prop :=
  Ending (fun _ _ => True) R x y

namespace Concur

variable {R : α → β → Prop} {x : Except ε α} {y : Except ε' β}

theorem error (e : ε) (e' : ε') : Concur R (.error e) (.error e') := Ending.error trivial

theorem imp {R' : α → β → Prop} (h : Concur R x y) (weaker : ∀ a b, R a b → R' a b) :
    Concur R' x y :=
  Ending.imp h weaker fun _ _ _ => trivial

theorem isOk_iff (h : Concur R x y) : (∃ a, x = .ok a) ↔ ∃ b, y = .ok b := by
  cases h with
  | ok related => exact ⟨fun _ => ⟨_, rfl⟩, fun _ => ⟨_, rfl⟩⟩
  | error _ => simp

theorem refl (x : Except ε α) : Concur Eq x x :=
  (Ending.self x).imp (fun _ _ same => same) fun _ _ _ => trivial

theorem of_isOk_iff (together : (∃ a, x = .ok a) ↔ ∃ b, y = .ok b)
    (related : ∀ a b, x = .ok a → y = .ok b → R a b) : Concur R x y := by
  cases x with
  | ok a =>
    obtain ⟨b, rfl⟩ := together.1 ⟨a, rfl⟩
    exact .ok (related a b rfl rfl)
  | error e =>
    cases y with
    | ok b => simp at together
    | error e' => exact .error e e'

end Concur

/-- The same error, or results that are related. -/
abbrev Alike (R : α → β → Prop) (x : Except ε α) (y : Except ε β) : Prop := Ending Eq R x y

namespace Alike

variable {R : α → β → Prop}

theorem error (e : ε) : Alike R (.error e) (.error e) := Ending.error rfl

theorem refl (x : Except ε α) : Alike Eq x x := Ending.self x

theorem concur {x : Except ε α} {y : Except ε β} (h : Alike R x y) : Concur R x y :=
  Ending.imp h (fun _ _ related => related) fun _ _ _ => trivial

end Alike

/-- Where the first succeeds, so does the second, with a related result. -/
def Carries (R : α → β → Prop) (x : Except ε α) (y : Except ε' β) : Prop :=
  ∀ a, x = .ok a → ∃ b, y = .ok b ∧ R a b

namespace Carries

variable {R : α → β → Prop} {Q : γ → δ → Prop} {x : Except ε α} {y : Except ε' β}

theorem of_eq {y : Except ε α} (same : x = y) : Carries Eq x y :=
  fun a done => ⟨a, same ▸ done, rfl⟩

theorem bind {f : α → Except ε γ} {g : β → Except ε' δ} (first : Carries R x y)
    (next : ∀ a b, x = .ok a → R a b → Carries Q (f a) (g b)) : Carries Q (x >>= f) (y >>= g) := by
  intro c done
  cases x with
  | error e => cases done
  | ok a =>
    obtain ⟨b, rfl, related⟩ := first a rfl
    exact next a b rfl related c done

end Carries

theorem Concur.carries {R : α → β → Prop} {x : Except ε α} {y : Except ε' β} (h : Concur R x y) :
    Carries R x y := by
  rintro a rfl
  cases h with
  | ok related => exact ⟨_, rfl, related⟩

namespace Validation.Checked

theorem orStop_eq_ok_iff {c : Checked α} {subject : Subject} {a : α} :
    c.orStop subject = .ok a ↔ c = .accepted a := by
  cases c with
  | accepted b => simp [orStop, toExcept, Except.mapError]
  | refused faults => simp [orStop, toExcept, Except.mapError]

theorem map_eq_accepted_iff {c : Checked α} {f : α → β} {b : β} :
    f <$> c = .accepted b ↔ ∃ a, c = .accepted a ∧ f a = b := by
  cases c with
  | accepted a =>
    constructor
    · rintro ⟨⟩
      exact ⟨a, rfl, rfl⟩
    · rintro ⟨_, ⟨⟩, rfl⟩
      rfl
  | refused faults => exact ⟨nofun, nofun⟩

theorem seq_eq_accepted_iff {f : Checked (α → β)} {c : Checked α} {b : β} :
    f <*> c = .accepted b ↔ ∃ g a, f = .accepted g ∧ c = .accepted a ∧ g a = b := by
  cases f with
  | accepted g =>
    cases c with
    | accepted a =>
      constructor
      · rintro ⟨⟩
        exact ⟨g, a, rfl, rfl, rfl⟩
      · rintro ⟨_, _, ⟨⟩, ⟨⟩, rfl⟩
        rfl
    | refused faults => exact ⟨nofun, nofun⟩
  | refused faults =>
    cases c with
    | accepted a => exact ⟨nofun, nofun⟩
    | refused more => exact ⟨nofun, nofun⟩

/-- Both are refused, or both are accepted with related values. -/
inductive Agree (R : α → β → Prop) : Checked α → Checked β → Prop where
  | accepted {a : α} {b : β} (related : R a b) : Agree R (.accepted a) (.accepted b)
  | refused (faults faults' : List Fault) : Agree R (.refused faults) (.refused faults')

namespace Agree

variable {R : α → β → Prop} {Q : γ → δ → Prop} {x : Checked α} {y : Checked β}

theorem refl (x : Checked α) : Agree Eq x x := by
  cases x with
  | accepted a => exact .accepted rfl
  | refused faults => exact .refused faults faults

theorem under (h : Agree R x y) (step step' : Step) : Agree R (x.under step) (y.under step') := by
  cases h with
  | accepted related => exact .accepted related
  | refused faults faults' => exact .refused _ _

theorem map {f : α → γ} {g : β → δ} (h : Agree R x y) (next : ∀ a b, R a b → Q (f a) (g b)) :
    Agree Q (f <$> x) (g <$> y) := by
  cases h with
  | accepted related => exact .accepted (next _ _ related)
  | refused faults faults' => exact .refused _ _

theorem seq {f : Checked (α → γ)} {g : Checked (β → δ)}
    (first : Agree (fun f g => ∀ a b, R a b → Q (f a) (g b)) f g) (h : Agree R x y) :
    Agree Q (f <*> x) (g <*> y) := by
  cases first with
  | accepted next =>
    cases h with
    | accepted related => exact .accepted (next _ _ related)
    | refused faults faults' => exact .refused _ _
  | refused earlier earlier' =>
    cases h with
    | accepted related => exact .refused _ _
    | refused faults faults' => exact .refused _ _

theorem orStop (h : Agree R x y) (subject subject' : Subject) :
    Concur R (x.orStop subject) (y.orStop subject') := by
  cases h with
  | accepted related => exact .ok related
  | refused faults faults' => exact .error _ _

end Agree

end Validation.Checked

end ApiModel

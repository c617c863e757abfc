import ApiModel.Text.CodePoint

/-! Texts: sequences of code points, ordered by the numbers of their code points. -/
namespace ApiModel

abbrev Text := List CodePoint

namespace Text

instance instLawfulBEq : LawfulBEq Text := List.instLawfulBEq

def ofString (s : String) : Text := s.toList.map .char

instance : Coe String Text := ⟨ofString⟩

theorem ofString_inj {s t : String} : ofString s = ofString t ↔ s = t := by
  rw [ofString, ofString, List.map_inj_right fun _ _ same => CodePoint.char.inj same,
    String.toList_inj]

/-- The characters of a text, unless it holds a half of a surrogate pair. -/
def toString? (text : Text) : Option String :=
  (text.mapM CodePoint.toChar?).map String.ofList

def join (separator : Text) : List Text → Text
  | [] => []
  | [text] => text
  | text :: rest => text ++ separator ++ join separator rest

theorem join_eq_intercalate (separator : Text) (texts : List Text) :
    join separator texts = separator.intercalate texts := by
  fun_induction join separator texts with
  | case1 => rfl
  | case2 text => rw [List.intercalate_singleton]
  | case3 text rest more ih => rw [ih, List.intercalate_cons_of_ne_nil more]

def ofNat (n : Nat) : Text := ofString (toString n)

def ofInt (n : Int) : Text := ofString (toString n)

def fill (n : Nat) (c : CodePoint) : Text := List.replicate n c

def padLeft (width : Nat) (text : Text) : Text :=
  fill (width - text.length) '0' ++ text

def hex (width n : Nat) : Text :=
  padLeft width ((Nat.toDigits 16 n).map .char)

/-! The order of texts. -/

theorem lt_irrefl (a : Text) : ¬ a < a := by
  induction a with
  | nil => exact List.not_lt_nil _
  | cons c rest ih =>
    rw [List.cons_lt_cons_iff]
    rintro (h | ⟨_, h⟩)
    · exact Nat.lt_irrefl _ h
    · exact ih h

theorem lt_trans {a b c : Text} (h : a < b) (h' : b < c) : a < c := by
  induction a generalizing b c with
  | nil =>
    match b, c with
    | [], _ => exact h'
    | _ :: _, [] => exact absurd h' (List.not_lt_nil _)
    | _ :: _, _ :: _ => exact List.nil_lt_cons _ _
  | cons x a ih =>
    match b, c with
    | [], _ => exact absurd h (List.not_lt_nil _)
    | _ :: _, [] => exact absurd h' (List.not_lt_nil _)
    | y :: b, z :: c =>
      rw [List.cons_lt_cons_iff] at *
      rcases h with h | ⟨rfl, h⟩ <;> rcases h' with h' | ⟨rfl, h'⟩
      · exact .inl (Nat.lt_trans h h')
      · exact .inl h
      · exact .inl h'
      · exact .inr ⟨rfl, ih h h'⟩

theorem lt_of_not_lt_of_ne {a b : Text} (h : ¬ a < b) (ne : a ≠ b) : b < a := by
  induction a generalizing b with
  | nil =>
    match b with
    | [] => exact absurd rfl ne
    | _ :: _ => exact absurd (List.nil_lt_cons _ _) h
  | cons x a ih =>
    match b with
    | [] => exact List.nil_lt_cons _ _
    | y :: b =>
      rw [List.cons_lt_cons_iff] at *
      rcases Nat.lt_trichotomy x.toNat y.toNat with less | same | more
      · exact absurd (.inl less) h
      · have same := CodePoint.toNat_inj.1 same
        subst same
        exact .inr ⟨rfl, ih (fun less => h (.inr ⟨rfl, less⟩)) fun e => ne (e ▸ rfl)⟩
      · exact .inl more

def isOrdered (a b : Text) : Bool := !decide (b < a)

end Text

def CodePoint.isIn (c : CodePoint) (text : Text) : Bool := text.contains c

end ApiModel

import ApiModel.Text.Basic

/-! Cutting a text at a separator character and joining the pieces again. -/
namespace ApiModel.Text

/-- Pieces between separators; a text without the separator is one piece. -/
def split (sep : CodePoint) : Text → List Text
  | [] => [[]]
  | c :: rest =>
    if c = sep then
      [] :: split sep rest
    else
      match split sep rest with
      | [] => [[c]]
      | piece :: pieces => (c :: piece) :: pieces

theorem split_eq_splitOn (sep : CodePoint) (text : Text) : split sep text = text.splitOn sep := by
  unfold List.splitOn
  induction text with
  | nil => rfl
  | cons c rest ih =>
    rw [split, List.splitOnP_cons_eq_if_modifyHead, ih]
    simp only [beq_iff_eq]
    split
    · rfl
    · cases pieces : rest.splitOnP (· == sep) with
      | nil => exact absurd pieces (List.splitOnP_ne_nil _ _)
      | cons piece others => rfl

/-- Replaces every occurrence of a two-character sequence, from left to right. -/
def replacePair (a b : CodePoint) (by' : Text) : Text → Text
  | [] => []
  | [c] => [c]
  | c :: d :: rest =>
    if c = a ∧ d = b then by' ++ replacePair a b by' rest else c :: replacePair a b by' (d :: rest)

theorem replacePair_ne_nil {a b : CodePoint} {new text : Text} (some : text ≠ [])
    (new_ne_nil : new ≠ []) : replacePair a b new text ≠ [] := by
  fun_cases replacePair a b new text with
  | case1 => exact absurd rfl some
  | case2 c => simp
  | case3 c d rest pair => simp [new_ne_nil]
  | case4 c d rest other => simp

def dropLeading? : Text → Text → Option Text
  | [], cs => some cs
  | _ :: _, [] => none
  | l :: lead, c :: cs => if l = c then dropLeading? lead cs else none

def startsWith (text lead : Text) : Bool :=
  (dropLeading? lead text).isSome

def endsWith (text tail : Text) : Bool :=
  (dropLeading? tail.reverse text.reverse).isSome

def holds (part : Text) : Text → Bool
  | [] => part.isEmpty
  | c :: cs => startsWith (c :: cs) part || holds part cs

/-- Replaces every occurrence of a text, from left to right; `skip` characters belong to the last
one found. -/
def replaceFrom (old new : Text) (skip : Nat) : Text → Text
  | [] => []
  | c :: cs =>
    match skip with
    | n + 1 => replaceFrom old new n cs
    | 0 =>
      if startsWith (c :: cs) old then new ++ replaceFrom old new (old.length - 1) cs
      else c :: replaceFrom old new 0 cs

def replace (old new text : Text) : Text := replaceFrom old new 0 text

end ApiModel.Text

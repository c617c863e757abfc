import ApiModel.Text.Blank
import ApiModel.Text.Case

/-! Texts with marks in square brackets, such as `[bold]` and `[/bold]`, which a console turns into
colours. A closing mark needs an open one. -/
namespace ApiModel.Markup

def shortNames : List (Text × Text) := [
  ("b", "bold"), ("c", "conceal"), ("d", "dim"), ("i", "italic"), ("o", "overline"),
  ("r", "reverse"), ("s", "strike"), ("u", "underline"), ("uu", "underline2")]

def styleName (name : Text) : Text :=
  let bare := Text.lower (Text.strip name)
  (shortNames.lookup bare).getD bare

inductive Piece where
  | text (text : Text)
  | mark (inside : Text)
  deriving DecidableEq, Repr

/-- The text up to a closing bracket, unless another one opens before. -/
def upToBracket? : Text → Option Text
  | [] => none
  | .char ']' :: _ => some []
  | .char '[' :: _ => none
  | c :: rest => (upToBracket? rest).map (c :: ·)

def inside? (text : Text) : Option Text :=
  match text with
  | [] => none
  | c :: _ =>
    if ('a' ≤ c && c ≤ 'z') || c.isIn "#/@" then upToBracket? text else none

/-- The pieces behind some backslashes and a number of characters that belong to a mark. Two
backslashes in front of a mark stand for one; a single one makes it text. -/
def piecesFrom (slashes skip : Nat) : Text → List Piece
  | [] => [.text (Text.fill slashes '\\')]
  | c :: rest =>
    if 0 < skip then piecesFrom slashes (skip - 1) rest
    else if c = '\\' then piecesFrom (slashes + 1) 0 rest
    else if c = '[' then
      match inside? rest with
      | some inside =>
        let piece : Piece := if slashes % 2 = 0 then .mark inside else .text ("[" ++ inside ++ "]")
        .text (Text.fill (slashes / 2) '\\') :: piece :: piecesFrom 0 (inside.length + 1) rest
      | none => .text (Text.fill (slashes - 1) '\\' ++ "[") :: piecesFrom 0 0 rest
    else .text (Text.fill slashes '\\' ++ [c]) :: piecesFrom 0 0 rest

/-- The open marks, the last one first, without the one that is closed: the last with the given
name, and the last of all if there is no name. -/
def close? (opened : List Text) (name : Text) : Option (List Text) :=
  if name = [] then opened.tail?
  else if name ∈ opened then some (opened.erase name)
  else none

def shownFrom? (opened : List Text) : List Piece → Option Text
  | [] => some []
  | .text text :: rest => (shownFrom? opened rest).map (text ++ ·)
  | .mark inside :: rest =>
    match inside.takeWhile (· ≠ .char '=') with
    | .char '/' :: name => (close? opened (styleName name)).bind fun left => shownFrom? left rest
    | name => shownFrom? (styleName name :: opened) rest

/-- What is left of a text without its marks, if every closing mark closes one. -/
def shown? (text : Text) : Option Text := shownFrom? [] (piecesFrom 0 0 text)

example : shown? "[green]a [b]c[/bold] \\[d][/green]" = some "a c [d]" := by decide +kernel

example : shown? "[green]out[/x].json[/green]" = none := by decide +kernel

end ApiModel.Markup

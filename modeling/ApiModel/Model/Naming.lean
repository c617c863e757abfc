import ApiModel.Text.Case
import ApiModel.Text.Segment
import ApiModel.Text.Template

/-! Names of types. A type without a name of its own is named after the place where it stands, so
equal places give equal names and generated code stays stable. -/
namespace ApiModel.Naming

open Text

/-- Name of a part of a named type: the `id` of `Widget` is `WidgetId`. -/
def partName (parent part : Text) : Text :=
  parent ++ upperFirst part

def unsafeChars : Text := "-. /():"

def respell (fill : CodePoint → Text) (star : Text) (name : Text) : Text :=
  let cleaned := name.flatMap fun c => if c ∈ unsafeChars then fill c else [c]
  cleaned.flatMap fun c => if c = .char '*' then star else [c]

/-- Replaces characters that no identifier may hold by what the template says; a star is spelled out
after the template as it is written. -/
def spellSafely (template star name : Text) : Except TemplateError Text := do
  let replacement ← Template.read template
  return respell replacement.fill (template ++ star) name

/-- The name with unsafe characters left out and stars spelled `Star`. -/
def safeName (name : Text) : Text :=
  respell (fun _ => []) "Star" name

def errorEndings : List Text := ["Error", "Fault", "Exception"]

/-- Starts small and drops the first error ending that fits. -/
def errorName (name : Text) : Text :=
  let small := lowerFirst name
  match errorEndings.find? (endsWith small) with
  | some ending => small.take (small.length - ending.length)
  | none => small

def reservedWords : List Text :=
  ["in", "protocol", "return", "default", "public", "self", "static", "private", "internal", "do",
    "is", "as", "true", "false", "import"]

def quoteReserved (name : Text) : Text :=
  if name ∈ reservedWords then "`" ++ name ++ "`" else name

/-- The two names of a list type: the list itself and its element. -/
structure ListNames where
  container : Text
  element : Text

/-- A name that ends in `s` names the list and loses it for the element; any other name names the
element and gains an `s` for the list. -/
def listNames (name : Text) : ListNames :=
  match name.reverse with
  | last :: front =>
    if last = 's' ∨ last = 'S' then ⟨name, front.reverse⟩ else ⟨name ++ "s", name⟩
  | [] => ⟨"s", ""⟩

end ApiModel.Naming

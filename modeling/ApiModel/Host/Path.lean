import ApiModel.Text.Segment

/-! Paths as written. Empty parts and single dots are dropped, but two dots stay: where they lead is
known only to the file system. -/
namespace ApiModel

/-- Where a path starts. Exactly two leading slashes are kept apart from one. -/
inductive Path.Start where
  | here
  | root
  | doubleRoot
  deriving DecidableEq, Repr

structure Path where
  start : Path.Start
  parts : List Text
  deriving DecidableEq, Repr

namespace Path

def Start.text : Start → Text
  | here => ""
  | root => "/"
  | doubleRoot => "//"

def startOf : Text → Start
  | .char '/' :: .char '/' :: .char '/' :: _ => .root
  | .char '/' :: .char '/' :: _ => .doubleRoot
  | .char '/' :: _ => .root
  | _ => .here

def isPart (part : Text) : Bool := part != "" && part != "."

def ofText (text : Text) : Path :=
  ⟨startOf text, (Text.split '/' text).filter isPart⟩

/-- The path that says nothing is a single dot. -/
def text (p : Path) : Text :=
  if p.start = .here ∧ p.parts = [] then "."
  else p.start.text ++ Text.join "/" p.parts

def name (p : Path) : Text := p.parts.getLast?.getD ""

/-- A path without parts is its own parent. -/
def parent (p : Path) : Path := { p with parts := p.parts.dropLast }

def child (p : Path) (part : Text) : Path := { p with parts := p.parts ++ [part] }

/-- The name from its last dot on, which neither opens nor closes it. -/
def suffix (p : Path) : Text :=
  let cs := p.name
  let tail : Text := (cs.reverse.takeWhile (· ≠ .char '.')).reverse
  if tail = [] ∨ cs.length ≤ tail.length + 1 then ""
  else .char '.' :: tail

@[simp] theorem parent_child (p : Path) (part : Text) : (p.child part).parent = p := by
  simp [parent, child]

@[simp] theorem name_child (p : Path) (part : Text) : (p.child part).name = part := by
  simp [name, child]

end Path

end ApiModel

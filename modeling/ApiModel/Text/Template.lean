import ApiModel.Number.Reading
import ApiModel.Text.NameTable

/-! Templates for a replacement. A backslash starts an escape: a control character, an octal number,
or a reference to the replaced text. Only the whole replaced text can be referred to. -/
namespace ApiModel.Text

inductive Mark where
  | plain (c : CodePoint)
  | escaped (c : CodePoint)
  /-- A backslash with nothing behind it. -/
  | dangling
  deriving DecidableEq, Repr

inductive Piece where
  | char (c : CodePoint)
  | replaced
  deriving DecidableEq, Repr

inductive TemplateError where
  | malformed
  /-- A reference by name, where no part has a name. -/
  | unknownName
  deriving DecidableEq, Repr

def marks : Text → List Mark
  | [] => []
  | [.char '\\'] => [.dangling]
  | .char '\\' :: c :: rest => .escaped c :: marks rest
  | c :: rest => .plain c :: marks rest

def referenceName : List Mark → Option (Text × List Mark)
  | [] => none
  | .plain (.char '>') :: rest => some ([], rest)
  | .plain c :: rest => (referenceName rest).map fun r => (c :: r.1, r.2)
  | .escaped c :: rest => (referenceName rest).map fun r => ('\\' :: c :: r.1, r.2)
  | .dangling :: _ => none

theorem length_of_referenceName {ms rest : List Mark} {name : Text}
    (h : referenceName ms = some (name, rest)) : rest.length < ms.length := by
  fun_induction referenceName ms generalizing name rest with
  | case1 => contradiction
  | case2 => simp_all
  | case3 c ms _ ih =>
    obtain ⟨r, hr, he⟩ := Option.map_eq_some_iff.1 h
    have := ih hr
    simp_all only [Prod.mk.injEq, List.length_cons]
    omega
  | case4 c ms ih =>
    obtain ⟨r, hr, he⟩ := Option.map_eq_some_iff.1 h
    have := ih hr
    simp_all only [Prod.mk.injEq, List.length_cons]
    omega
  | case5 => contradiction

/-- Whether a text is a name: letters of any script and underscores, and behind the first also
digits and marks. -/
def isName : Text → Bool
  | [] => false
  | c :: rest => c.inRuns nameStartRuns && rest.all fun d =>
    d.inRuns nameStartRuns || d.inRuns nameGoesOnRuns

/-- What a reference in brackets stands for; `rest` is what follows it. -/
def reference (name : Text) (rest : List Mark) : Except TemplateError Piece :=
  if isName name then
    .error (if rest = [.dangling] then .malformed else .unknownName)
  else if Number.integer? name = some 0 then .ok .replaced
  else .error .malformed

def octal? (c : CodePoint) : Option Nat :=
  if '0' ≤ c && c ≤ '7' then some (c.toNat - 48) else none

def spanOctal : Nat → List Mark → List Nat × List Mark
  | n + 1, .plain c :: rest =>
    match octal? c with
    | some d => let r := spanOctal n rest; (d :: r.1, r.2)
    | none => ([], .plain c :: rest)
  | _, ms => ([], ms)

theorem length_spanOctal (n : Nat) (ms : List Mark) : (spanOctal n ms).2.length ≤ ms.length := by
  fun_induction spanOctal n ms with
  | case1 n c rest d _ r ih => exact Nat.le_succ_of_le ih
  | case2 => simp
  | case3 => simp

def control? : CodePoint → Option CodePoint
  | .char 'a' => some '\x07'
  | .char 'b' => some '\x08'
  | .char 'f' => some '\x0c'
  | .char 'n' => some '\n'
  | .char 'r' => some '\r'
  | .char 't' => some '\t'
  | .char 'v' => some '\x0b'
  | .char '\\' => some '\\'
  | _ => none

/-- What an escape other than a number or a reference stands for. Letters are kept for escapes to
come, any other character stays behind its backslash. -/
def simpleEscape (c : CodePoint) : Except TemplateError (List Piece) :=
  match control? c with
  | some d => .ok [.char d]
  | none => if c.isLetter then .error .malformed else .ok [.char '\\', .char c]

def pieces (ms : List Mark) : Except TemplateError (List Piece) :=
  match ms with
  | [] => .ok []
  | .plain c :: rest => do return .char c :: (← pieces rest)
  | .dangling :: _ => .error .malformed
  | .escaped (.char 'g') :: .plain (.char '<') :: rest =>
    match h : referenceName rest with
    | none => .error .malformed
    | some (name, behind) => do
      have := length_of_referenceName h
      let piece ← reference name behind
      return piece :: (← pieces behind)
  | .escaped c :: rest =>
    if c = '0' then
      have := length_spanOctal 2 rest
      do return .char (CodePoint.ofNat (Number.ofDigits 8 (spanOctal 2 rest).1)) ::
        (← pieces (spanOctal 2 rest).2)
    else if c.isDigit then
      have := length_spanOctal 2 rest
      match octal? c, (spanOctal 2 rest).1 with
      | some d, [e, f] =>
        if Number.ofDigits 8 [d, e, f] < 256 then
          do return .char (CodePoint.ofNat (Number.ofDigits 8 [d, e, f])) ::
            (← pieces (spanOctal 2 rest).2)
        else .error .malformed
      | _, _ => .error .malformed
    else do
      let front ← simpleEscape c
      return front ++ (← pieces rest)
termination_by ms.length
decreasing_by all_goals simp_all <;> omega

structure Template where
  pieces : List Piece
  deriving DecidableEq, Repr

namespace Template

def read (text : Text) : Except TemplateError Template :=
  (Text.pieces (marks text)).map Template.mk

def fill (t : Template) (c : CodePoint) : Text :=
  t.pieces.map fun
    | .char d => d
    | .replaced => c

end Template
end ApiModel.Text

import ApiModel.Yaml.Cursor

/-! Scalars as they are written: quoted, plain and block scalars. Each function reads one scalar
from its first character on and gives its content. -/
namespace ApiModel.Yaml

open Cursor

def escapedChar? : CodePoint → Option CodePoint
  | .char '0' => some '\x00'
  | .char 'a' => some '\x07'
  | .char 'b' => some '\x08'
  | .char 't' => some '\t'
  | .char '\t' => some '\t'
  | .char 'n' => some '\n'
  | .char 'v' => some '\x0b'
  | .char 'f' => some '\x0c'
  | .char 'r' => some '\r'
  | .char 'e' => some '\x1b'
  | .char ' ' => some ' '
  | .char '"' => some '"'
  | .char '\\' => some '\\'
  | .char '/' => some '/'
  | .char 'N' => some '\u0085'
  | .char '_' => some '\u00a0'
  | .char 'L' => some '\u2028'
  | .char 'P' => some '\u2029'
  | _ => none

def escapeWidth? : CodePoint → Option Nat
  | .char 'x' => some 2
  | .char 'u' => some 4
  | .char 'U' => some 8
  | _ => none

def hexValue? (cs : Text) : Option Nat :=
  cs.foldl (fun n c => do return (← n) * 16 + (← c.hexDigit?)) (some 0)

def codeChar (n : Nat) : Except Fault CodePoint :=
  if n ≤ 0x10ffff then .ok (.ofNat n)
  else if n < 0x80000000 then .error .characterRange
  else .error .characterOverflow

/-- The empty lines inside a quoted scalar; a document mark may not stand there. -/
def quotedBreaks : Nat → Cursor → Except Fault (Text × Cursor)
  | 0, c => .ok ([], c)
  | n + 1, c =>
    if c.atDocumentMark then .error .malformed
    else
      let c := c.skip fun ch => ch = ' ' || ch = '\t'
      if isBreak c.peek then do
        let (brk, c) := c.lineBreak
        let (more, c) ← quotedBreaks n c
        return (brk ++ more, c)
      else
        .ok ([], c)

/-- Blanks inside a quoted scalar: kept within a line, folded at its end. -/
def quotedSpaces (c : Cursor) : Except Fault (Text × Cursor) :=
  let (blanks, c) := c.span fun ch => ch = ' ' || ch = '\t'
  if c.peek = endChar then .error .malformed
  else if isBreak c.peek then do
    let (brk, c) := c.lineBreak
    let (breaks, c) ← quotedBreaks (c.left + 1) c
    let lead : Text := if brk ≠ [.char '\n'] then brk else if breaks.isEmpty then [' '] else []
    return (lead ++ breaks, c)
  else
    .ok (blanks, c)

def escapeSequence (c : Cursor) : Except Fault (Text × Cursor) :=
  match escapedChar? c.peek with
  | some ch => .ok ([ch], c.step)
  | none =>
    match escapeWidth? c.peek with
    | some width => do
      let c := c.step
      let ds := c.rest.take width
      if ds.length < width then throw .malformed
      match hexValue? ds with
      | some n => return ([← codeChar n], c.advance width)
      | none => throw .malformed
    | none =>
      if isBreak c.peek then
        let (_, c) := c.lineBreak
        quotedBreaks (c.left + 1) c
      else
        .error .malformed

def quotedWord (double : Bool) : Nat → Cursor → Except Fault (Text × Cursor)
  | 0, c => .ok ([], c)
  | n + 1, c =>
    let (word, c) := c.span fun ch => !(isGap ch || ch = '\'' || ch = '"' || ch = '\\')
    let ch := c.peek
    let more (part : Text) (c : Cursor) : Except Fault (Text × Cursor) := do
      let (rest, c) ← quotedWord double n c
      return (word ++ part ++ rest, c)
    if !double && ch = '\'' && c.peekAt 1 = '\'' then more ['\''] (c.advance 2)
    else if (double && ch = '\'') || (!double && (ch = '"' || ch = '\\')) then more [ch] c.step
    else if double && ch = '\\' then do
      let (part, c) ← escapeSequence c.step
      more part c
    else
      .ok (word, c)

def quotedBody (double : Bool) (quote : CodePoint) : Nat → Cursor → Except Fault (Text × Cursor)
  | 0, _ => .error .malformed
  | n + 1, c => do
    let (word, c) ← quotedWord double (c.left + 1) c
    if c.peek = quote then return (word, c.step)
    let (blanks, c) ← quotedSpaces c
    let (rest, c) ← quotedBody double quote n c
    return (word ++ blanks ++ rest, c)

def quotedScalar (c : Cursor) : Except Fault (Text × Cursor) :=
  let quote := c.peek
  quotedBody (quote = '"') quote (c.left + 1) c.step

def plainWord (inFlow : Bool) : Text → Text
  | [] => []
  | ch :: rest =>
    let next := rest.headD endChar
    let flowEnd := fun (c : CodePoint) => c = ',' || c = '[' || c = ']' || c = '{' || c = '}'
    if isGap ch || (ch = ':' && (isGap next || (inFlow && flowEnd next)))
        || (inFlow && (ch = '?' || flowEnd ch)) then
      []
    else
      ch :: plainWord inFlow rest

def plainBreaks : Nat → Cursor → Text × Cursor × Bool
  | 0, c => ([], c, false)
  | n + 1, c =>
    if c.peek = ' ' then plainBreaks n c.step
    else if isBreak c.peek then
      let (brk, c) := c.lineBreak
      if c.atDocumentMark then (brk, c, true)
      else
        let (more, c, stopped) := plainBreaks n c
        (brk ++ more, c, stopped)
    else
      ([], c, false)

/-- Blanks behind a word of a plain scalar, folded at the end of a line. The flag tells whether a
line has ended. -/
def plainSpaces (c : Cursor) : Text × Cursor × Bool :=
  let (blanks, c) := c.span (· = ' ')
  if isBreak c.peek then
    let (brk, c) := c.lineBreak
    if c.atDocumentMark then ([], c, true)
    else
      let (breaks, c, stopped) := plainBreaks (c.left + 1) c
      if stopped then ([], c, true)
      else
        let lead : Text := if brk ≠ [.char '\n'] then brk else if breaks.isEmpty then [' '] else []
        (lead ++ breaks, c, true)
  else
    (blanks, c, false)

/-- A plain scalar with the blanks in front of its next word. The flag tells whether the line has
ended since the last word, so that a key may follow. -/
def plainScalar (inFlow : Bool) (indent : Int) :
    Nat → Text → Bool → Cursor → Text × Cursor × Bool
  | 0, _, ended, c => ([], c, ended)
  | n + 1, blanks, ended, c =>
    let word := if c.peek = '#' then [] else plainWord inFlow c.rest
    if word.isEmpty then ([], c, ended)
    else
      let c := c.advance word.length
      let (spaces, c, ended) := plainSpaces c
      if spaces.isEmpty || c.peek = '#' || (!inFlow && c.column < indent) then
        (blanks ++ word, c, ended)
      else
        let (rest, c, ended) := plainScalar inFlow indent n spaces ended c
        (blanks ++ word ++ rest, c, ended)

inductive Chomping where
  | clip
  | strip
  | keep
  deriving DecidableEq

def chompingOf? : CodePoint → Option Chomping
  | .char '+' => some .keep
  | .char '-' => some .strip
  | _ => none

/-- The signs behind a block indicator: chomping and indentation in either order. -/
def blockHeader (c : Cursor) : Except Fault ((Chomping × Option Nat) × Cursor) := do
  let digit? := fun (ch : CodePoint) => if ch.isDigit then some (ch.toNat - 48) else none
  let (chomp, width, c) := match chompingOf? c.peek with
    | some chomp =>
      match digit? (c.peekAt 1) with
      | some d => (chomp, some d, c.advance 2)
      | none => (chomp, none, c.step)
    | none =>
      match digit? c.peek with
      | some d =>
        match chompingOf? (c.peekAt 1) with
        | some chomp => (chomp, some d, c.advance 2)
        | none => (.clip, some d, c.step)
      | none => (.clip, none, c)
  if width == some 0 then throw .malformed
  unless isSpaceOrEnd c.peek do throw .malformed
  let c := c.skipToLineEnd
  unless isBreakOrEnd c.peek do throw .malformed
  return ((chomp, width), c.lineBreak.2)

def blockIndentation : Nat → Nat → Cursor → Text × Nat × Cursor
  | 0, width, c => ([], width, c)
  | n + 1, width, c =>
    if c.peek = ' ' then
      let c := c.step
      blockIndentation n (max width c.column) c
    else if isBreak c.peek then
      let (brk, c) := c.lineBreak
      let (more, width, c) := blockIndentation n width c
      (brk ++ more, width, c)
    else
      ([], width, c)

def skipIndent : Nat → Nat → Cursor → Cursor
  | 0, _, c => c
  | n + 1, column, c =>
    if c.column < column && c.peek = ' ' then skipIndent n column c.step else c

def blockBreaks (indent : Nat) : Nat → Cursor → Text × Cursor
  | 0, c => ([], c)
  | n + 1, c =>
    let c := skipIndent indent indent c
    if isBreak c.peek then
      let (brk, c) := c.lineBreak
      let (more, c) := blockBreaks indent n c
      (brk ++ more, c)
    else
      ([], c)

/-- The lines of a block scalar: content, the last line end, and the empty lines behind it. -/
def blockLines (folded : Bool) (indent : Nat) :
    Nat → Text → Cursor → Text × Text × Text × Cursor
  | 0, breaks, c => ([], [], breaks, c)
  | n + 1, breaks, c =>
    if c.column = indent ∧ c.peek ≠ endChar then
      let flush := c.peek ≠ ' ' ∧ c.peek ≠ '\t'
      let (line, c) := c.span (!isBreakOrEnd ·)
      let (brk, c) := c.lineBreak
      let (next, c) := blockBreaks indent (c.left + 1) c
      if c.column = indent ∧ c.peek ≠ endChar then
        let glue : Text :=
          if folded ∧ brk = [.char '\n'] ∧ flush ∧ c.peek ≠ ' ' ∧ c.peek ≠ '\t' then
            if next.isEmpty then [' '] else []
          else
            brk
        let (rest, last, tail, c) := blockLines folded indent n next c
        (breaks ++ line ++ glue ++ rest, last, tail, c)
      else
        (breaks ++ line, brk, next, c)
    else
      ([], [], breaks, c)

def blockScalar (folded : Bool) (parent : Int) (c : Cursor) : Except Fault (Text × Cursor) := do
  let ((chomp, width), c) ← blockHeader c.step
  let least := (max (parent + 1) 1).toNat
  let (breaks, indent, c) := match width with
    | some width =>
      let indent := least + width - 1
      let (breaks, c) := blockBreaks indent (c.left + 1) c
      (breaks, indent, c)
    | none =>
      let (breaks, widest, c) := blockIndentation (c.left + 1) 0 c
      (breaks, max least widest, c)
  let (body, last, tail, c) := blockLines folded indent (c.left + 1) breaks c
  let ending := match chomp with
    | .strip => []
    | .clip => last
    | .keep => last ++ tail
  return (body ++ ending, c)

end ApiModel.Yaml

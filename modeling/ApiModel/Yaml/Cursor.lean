import ApiModel.Text.Basic
import ApiModel.Yaml.Fault

/-! A place in YAML text: what is left of it, with line and column. A line ends at a line feed, a
carriage return, or one of three further separators. -/
namespace ApiModel.Yaml

/-- Behind the last character a null character is seen; no text holds one. -/
def endChar : CodePoint := '\x00'

def isBreak (c : CodePoint) : Bool :=
  c = '\n' || c = '\r' || c = '\u0085' || c = '\u2028' || c = '\u2029'

def isBreakOrEnd (c : CodePoint) : Bool :=
  c = endChar || isBreak c

def isGap (c : CodePoint) : Bool :=
  c = ' ' || c = '\t' || isBreakOrEnd c

def isSpaceOrEnd (c : CodePoint) : Bool :=
  c = ' ' || isBreakOrEnd c

def isWordChar (c : CodePoint) : Bool :=
  c.isLetterOrDigit || c = '-' || c = '_'

def isAllowed (c : CodePoint) : Bool :=
  let n := c.toNat
  n == 9 || n == 10 || n == 13 || (32 ≤ n && n ≤ 126) || n == 0x85 || (0xa0 ≤ n && n ≤ 0xd7ff)
    || (0xe000 ≤ n && n ≤ 0xfffd) || 0x10000 ≤ n

structure Cursor where
  rest : Text
  /-- How many characters the rest has; it bounds every loop over it. -/
  left : Nat
  line : Nat
  column : Nat

namespace Cursor

def start (text : Text) : Cursor := ⟨text, text.length, 0, 0⟩

def peekAt (c : Cursor) (k : Nat) : CodePoint := c.rest.getD k endChar

def peek (c : Cursor) : CodePoint := c.peekAt 0

/-- Moves over one character. A carriage return counts as an end of line unless a line feed
follows. -/
def step (c : Cursor) : Cursor :=
  match c.rest with
  | [] => c
  | ch :: rest =>
    let ends := isBreak ch && (ch ≠ '\r' || rest.head? ≠ some (.char '\n'))
    if ends then ⟨rest, c.left - 1, c.line + 1, 0⟩
    else ⟨rest, c.left - 1, c.line, if ch = '\ufeff' then c.column else c.column + 1⟩

def advance : Nat → Cursor → Cursor
  | 0, c => c
  | n + 1, c => advance n c.step

def span (p : CodePoint → Bool) (c : Cursor) : Text × Cursor :=
  let taken := c.rest.takeWhile p
  (taken, c.advance taken.length)

def skip (p : CodePoint → Bool) (c : Cursor) : Cursor := (c.span p).2

/-- Moves over the end of a line and tells how it is kept: most ends become a line feed. -/
def lineBreak (c : Cursor) : Text × Cursor :=
  let ch := c.peek
  if ch = '\r' ∧ c.peekAt 1 = '\n' then (['\n'], c.advance 2)
  else if ch = '\r' ∨ ch = '\n' ∨ ch = '\u0085' then (['\n'], c.step)
  else if ch = '\u2028' ∨ ch = '\u2029' then ([ch], c.step)
  else ([], c)

def atMark (mark : CodePoint) (c : Cursor) : Bool :=
  c.rest.take 3 = [mark, mark, mark] && isGap (c.peekAt 3)

def atDocumentMark (c : Cursor) : Bool :=
  c.atMark '-' || c.atMark '.'

def skipToLineEnd (c : Cursor) : Cursor :=
  let c := c.skip (· = ' ')
  if c.peek = '#' then c.skip (!isBreakOrEnd ·) else c

end Cursor

end ApiModel.Yaml

import ApiModel.Number.Reading
import ApiModel.Text.Encoding
import ApiModel.Yaml.Scalar

/-! Tokens of YAML text. Indentation becomes tokens that open and close blocks, and a key that is
only known as such by the colon behind it gets its token in front of it. -/
namespace ApiModel.Yaml

inductive Directive where
  | version (major minor : Nat)
  | tagHandle (handle : Text) (expansion : Text)
  | unknown
  deriving DecidableEq, Repr

inductive Token where
  | directive (d : Directive)
  | documentStart
  | documentEnd
  | streamEnd
  | blockSequenceStart
  | blockMappingStart
  | blockEnd
  | flowSequenceStart
  | flowSequenceEnd
  | flowMappingStart
  | flowMappingEnd
  | blockEntry
  | flowEntry
  | key
  | value
  | alias (name : Text)
  | anchor (name : Text)
  | tag (handle : Option Text) (suffix : Text)
  | scalar (text : Text) (plain : Bool)
  /-- The text cannot be read on from here. -/
  | fault (f : Fault)
  deriving DecidableEq, Repr

/-! Directives, anchors and tags. -/

def wordLexeme (c : Cursor) : Except Fault (Text × Cursor) :=
  match c.span isWordChar with
  | ([], _) => .error .malformed
  | (word, c) => .ok (word, c)

def numberLexeme (c : Cursor) : Except Fault (Nat × Cursor) :=
  match c.span CodePoint.isDigit with
  | ([], _) => .error .malformed
  | (ds, c) =>
    if Number.digitLimit < ds.length then .error .scalarRange else .ok (Number.natOfChars ds, c)

def percentBytes : Nat → Cursor → Except Fault (List UInt8 × Cursor)
  | 0, c => .ok ([], c)
  | n + 1, c =>
    if c.peek = '%' then do
      let c := c.step
      let ds := c.rest.take 2
      if ds.length < 2 then throw .malformed
      match hexValue? ds with
      | some b => do
        let (more, c) ← percentBytes n (c.advance 2)
        return (UInt8.ofNat b :: more, c)
      | none => throw .malformed
    else
      .ok ([], c)

def percentText (c : Cursor) : Except Fault (Text × Cursor) := do
  let (data, c) ← percentBytes (c.left + 1) c
  match Text.ofUtf8? data with
  | some text => return (text, c)
  | none => throw .malformed

def isUriChar (c : CodePoint) : Bool :=
  c.isLetterOrDigit || c.isIn "-;/?:@&=+$,_.!~*'()[]"

def uriParts : Nat → Cursor → Except Fault (Text × Cursor)
  | 0, c => .ok ([], c)
  | n + 1, c =>
    let (plain, c) := c.span isUriChar
    if c.peek = '%' then do
      let (special, c) ← percentText c
      let (more, c) ← uriParts n c
      return (plain ++ special ++ more, c)
    else
      .ok (plain, c)

def uriLexeme (c : Cursor) : Except Fault (Text × Cursor) := do
  unless isUriChar c.peek || c.peek = '%' do throw .malformed
  let (text, c) ← uriParts (c.left + 1) c
  return (text, c)

/-- A tag handle: `!`, `!!` or `!word!`. -/
def handleLexeme (c : Cursor) : Except Fault (Text × Cursor) := do
  if c.peek ≠ '!' then throw .malformed
  let c := c.step
  if c.peek = ' ' then return ("!", c)
  let (word, c) := c.span isWordChar
  if c.peek ≠ '!' then throw .malformed
  return ("!" ++ word ++ "!", c.step)

def versionDirective (c : Cursor) : Except Fault (Directive × Cursor) := do
  let (major, c) ← numberLexeme (c.skip (· = ' '))
  if c.peek ≠ '.' then throw .malformed
  let (minor, c) ← numberLexeme c.step
  unless isSpaceOrEnd c.peek do throw .malformed
  return (.version major minor, c)

def tagDirective (c : Cursor) : Except Fault (Directive × Cursor) := do
  let (handle, c) ← handleLexeme (c.skip (· = ' '))
  if c.peek ≠ ' ' then throw .malformed
  let (expansion, c) ← uriLexeme (c.skip (· = ' '))
  unless isSpaceOrEnd c.peek do throw .malformed
  return (.tagHandle handle expansion, c)

def directiveLexeme (c : Cursor) : Except Fault (Directive × Cursor) := do
  let (name, c) ← wordLexeme c.step
  unless isSpaceOrEnd c.peek do throw .malformed
  let (d, c) ←
    if name = "YAML" then versionDirective c
    else if name = "TAG" then tagDirective c
    else pure (.unknown, c.skip (!isBreakOrEnd ·))
  let c := c.skipToLineEnd
  unless isBreakOrEnd c.peek do throw .malformed
  return (d, c.lineBreak.2)

def anchorLexeme (c : Cursor) : Except Fault (Text × Cursor) := do
  let (name, c) ← wordLexeme c.step
  unless isGap c.peek || c.peek.isIn "?:,]\x7d%@\x60" do throw .malformed
  return (name, c)

/-- Whether a tag has a second exclamation mark, so that it starts with a handle. -/
def hasHandle : Text → Bool
  | [] => false
  | c :: rest => if isSpaceOrEnd c then false else c = '!' || hasHandle rest

def tagLexeme (c : Cursor) : Except Fault (Token × Cursor) := do
  let next := c.peekAt 1
  let (token, c) ←
    if next = '<' then do
      let (suffix, c) ← uriLexeme (c.advance 2)
      if c.peek ≠ '>' then throw .malformed
      pure (Token.tag none suffix, c.step)
    else if isGap next then
      pure (Token.tag none "!", c.step)
    else if hasHandle (c.rest.drop 1) then do
      let (handle, c) ← handleLexeme c
      let (suffix, c) ← uriLexeme c
      pure (Token.tag (some handle) suffix, c)
    else do
      let (suffix, c) ← uriLexeme c.step
      pure (Token.tag (some "!") suffix, c)
  unless isSpaceOrEnd c.peek do throw .malformed
  return (token, c)

/-! The scanner proper. -/

/-- A token that turns out to be a key if a colon follows on its line. -/
structure PossibleKey where
  token : Nat
  required : Bool
  left : Nat
  line : Nat
  column : Nat

structure Scanner where
  cursor : Cursor
  tokens : Array Token
  flowLevel : Nat
  indent : Int
  indents : List Int
  keyAllowed : Bool
  possibleKeys : List (Nat × PossibleKey)
  done : Bool

namespace Scanner

def start (text : Text) : Scanner := ⟨Cursor.start text, #[], 0, -1, [], true, [], false⟩

def emit (s : Scanner) (t : Token) : Scanner := { s with tokens := s.tokens.push t }

def emitAt (s : Scanner) (i : Nat) (t : Token) : Scanner :=
  { s with tokens := s.tokens.insertIdxIfInBounds i t }

def inFlow (s : Scanner) : Bool := s.flowLevel ≠ 0

def skipToToken : Nat → Scanner → Scanner
  | 0, s => s
  | n + 1, s =>
    let c := s.cursor.skipToLineEnd
    match c.lineBreak with
    | ([], c) => { s with cursor := c }
    | (_, c) => skipToToken n { s with cursor := c, keyAllowed := s.keyAllowed || !s.inFlow }

/-- A possible key ends with its line, or after 1024 characters. -/
def dropStaleKeys (s : Scanner) : Except Fault Scanner :=
  let stale := fun (k : PossibleKey) =>
    k.line ≠ s.cursor.line || 1024 < k.left - s.cursor.left
  if s.possibleKeys.any fun e => stale e.2 && e.2.required then .error .malformed
  else .ok { s with possibleKeys := s.possibleKeys.filter fun e => !stale e.2 }

def forgetKey (s : Scanner) : Except Fault Scanner :=
  match s.possibleKeys.lookup s.flowLevel with
  | some k =>
    if k.required then .error .malformed
    else .ok { s with possibleKeys := s.possibleKeys.filter (·.1 ≠ s.flowLevel) }
  | none => .ok s

def noteKey (s : Scanner) : Except Fault Scanner :=
  if s.keyAllowed then do
    let required := !s.inFlow && s.indent = s.cursor.column
    let s ← s.forgetKey
    let k : PossibleKey :=
      ⟨s.tokens.size, required, s.cursor.left, s.cursor.line, s.cursor.column⟩
    return { s with possibleKeys := (s.flowLevel, k) :: s.possibleKeys }
  else
    .ok s

def unwind (column : Int) : List Int → Scanner → Scanner
  | [], s => s
  | outer :: rest, s =>
    if column < s.indent then
      unwind column rest ({ s with indent := outer, indents := rest }.emit .blockEnd)
    else
      s

def unwindTo (column : Int) (s : Scanner) : Scanner :=
  if s.inFlow then s else unwind column s.indents s

def addIndent (s : Scanner) (column : Int) : Bool × Scanner :=
  if s.indent < column then
    (true, { s with indents := s.indent :: s.indents, indent := column })
  else
    (false, s)

def move (s : Scanner) (n : Nat) : Scanner := { s with cursor := s.cursor.advance n }

def atStreamEnd (s : Scanner) : Except Fault Scanner := do
  let s ← (s.unwindTo (-1)).forgetKey
  return { s.emit .streamEnd with keyAllowed := false, possibleKeys := [], done := true }

def atDirective (s : Scanner) : Except Fault Scanner := do
  let s ← (s.unwindTo (-1)).forgetKey
  let (d, c) ← directiveLexeme s.cursor
  return { s with cursor := c, keyAllowed := false }.emit (.directive d)

def atDocumentMark (t : Token) (s : Scanner) : Except Fault Scanner := do
  let s ← (s.unwindTo (-1)).forgetKey
  return { s with keyAllowed := false }.move 3 |>.emit t

def atFlowStart (t : Token) (s : Scanner) : Except Fault Scanner := do
  let s ← s.noteKey
  return { s with flowLevel := s.flowLevel + 1, keyAllowed := true }.move 1 |>.emit t

def atFlowEnd (t : Token) (s : Scanner) : Except Fault Scanner := do
  let s ← s.forgetKey
  return { s with flowLevel := s.flowLevel - 1, keyAllowed := false }.move 1 |>.emit t

def atFlowEntry (s : Scanner) : Except Fault Scanner := do
  let s ← { s with keyAllowed := true }.forgetKey
  return s.move 1 |>.emit .flowEntry

def openBlock (opening : Token) (s : Scanner) : Except Fault Scanner :=
  if s.inFlow then .ok s
  else if !s.keyAllowed then .error .malformed
  else
    let (opened, s) := s.addIndent s.cursor.column
    .ok (if opened then s.emit opening else s)

def atBlockEntry (s : Scanner) : Except Fault Scanner := do
  let s ← s.openBlock .blockSequenceStart
  let s ← { s with keyAllowed := true }.forgetKey
  return s.move 1 |>.emit .blockEntry

def atKey (s : Scanner) : Except Fault Scanner := do
  let s ← s.openBlock .blockMappingStart
  let s ← { s with keyAllowed := !s.inFlow }.forgetKey
  return s.move 1 |>.emit .key

/-- A colon: it makes a key of the token noted before, or stands for a value by itself. -/
def atValue (s : Scanner) : Except Fault Scanner :=
  match s.possibleKeys.lookup s.flowLevel with
  | some k =>
    let s := { s with possibleKeys := s.possibleKeys.filter (·.1 ≠ s.flowLevel) }
    let s := s.emitAt k.token .key
    let (opened, s) := if s.inFlow then (false, s) else s.addIndent k.column
    let s := if opened then s.emitAt k.token .blockMappingStart else s
    .ok ({ s with keyAllowed := false }.move 1 |>.emit .value)
  | none => do
    let s ← s.openBlock .blockMappingStart
    let s ← { s with keyAllowed := !s.inFlow }.forgetKey
    return s.move 1 |>.emit .value

def atLexeme (lexeme : Cursor → Except Fault (Token × Cursor)) (s : Scanner) :
    Except Fault Scanner := do
  let s ← s.noteKey
  let (t, c) ← lexeme s.cursor
  return { s with cursor := c, keyAllowed := false }.emit t

def atBlockScalar (folded : Bool) (s : Scanner) : Except Fault Scanner := do
  let s ← { s with keyAllowed := true }.forgetKey
  let (text, c) ← blockScalar folded s.indent s.cursor
  return { s with cursor := c }.emit (.scalar text false)

def atPlain (s : Scanner) : Except Fault Scanner := do
  let s ← s.noteKey
  let (text, c, ended) :=
    plainScalar s.inFlow (s.indent + 1) (s.cursor.left + 1) [] false s.cursor
  return { s with cursor := c, keyAllowed := ended }.emit (.scalar text true)

def isIndicator (c : CodePoint) : Bool :=
  c.isIn "-?:,[]\x7b\x7d#&*!|>'\"%@\x60"

def startsPlain (s : Scanner) : Bool :=
  let ch := s.cursor.peek
  !(isGap ch || isIndicator ch)
    || (!isGap (s.cursor.peekAt 1) && (ch = '-' || (!s.inFlow && (ch = '?' || ch = ':'))))

def dispatch (s : Scanner) : Except Fault Scanner :=
  let c := s.cursor
  let ch := c.peek
  let gapNext := isGap (c.peekAt 1)
  let text := fun (t : Text × Cursor) => (Token.scalar t.1 false, t.2)
  if ch = endChar then s.atStreamEnd
  else if ch = '%' && c.column = 0 then s.atDirective
  else if c.column = 0 && c.atMark '-' then s.atDocumentMark .documentStart
  else if c.column = 0 && c.atMark '.' then s.atDocumentMark .documentEnd
  else if ch = '[' then s.atFlowStart .flowSequenceStart
  else if ch = '{' then s.atFlowStart .flowMappingStart
  else if ch = ']' then s.atFlowEnd .flowSequenceEnd
  else if ch = '}' then s.atFlowEnd .flowMappingEnd
  else if ch = ',' then s.atFlowEntry
  else if ch = '-' && gapNext then s.atBlockEntry
  else if ch = '?' && (s.inFlow || gapNext) then s.atKey
  else if ch = ':' && (s.inFlow || gapNext) then s.atValue
  else if ch = '*' then s.atLexeme fun c => (anchorLexeme c).map fun r => (.alias r.1, r.2)
  else if ch = '&' then s.atLexeme fun c => (anchorLexeme c).map fun r => (.anchor r.1, r.2)
  else if ch = '!' then s.atLexeme tagLexeme
  else if ch = '|' && !s.inFlow then s.atBlockScalar false
  else if ch = '>' && !s.inFlow then s.atBlockScalar true
  else if ch = '\'' || ch = '"' then s.atLexeme fun c => (quotedScalar c).map text
  else if s.startsPlain then s.atPlain
  else .error .malformed

def next (s : Scanner) : Except Fault Scanner := do
  let s := skipToToken (s.cursor.left + 1) s
  let s ← s.dropStaleKeys
  (s.unwindTo s.cursor.column).dispatch

/-- How many tokens are settled: those in front of the first that may still turn out to be a key. -/
def settled (s : Scanner) : Nat :=
  s.possibleKeys.foldl (fun least e => min least e.2.token) s.tokens.size

/-- Reads tokens to the end of the text. A token is read only when the ones before it are not
enough, so a fault stands behind the settled tokens. -/
def run : Nat → Scanner → List Token
  | 0, s => s.tokens.toList ++ [.fault .malformed]
  | n + 1, s =>
    if s.done then s.tokens.toList
    else
      match s.next >>= dropStaleKeys with
      | .ok s => run n s
      | .error f => s.tokens.toList.take s.settled ++ [.fault f]

end Scanner

def tokens (text : Text) : List Token :=
  if text.all isAllowed then
    let body := match text with
      | .char '\ufeff' :: rest => rest
      | text => text
    Scanner.run (body.length + 2) (Scanner.start body)
  else
    [.fault .malformed]

end ApiModel.Yaml

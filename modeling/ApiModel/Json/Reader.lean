import ApiModel.Container.OrderedMap
import ApiModel.Document.Value
import ApiModel.Json.Error
import ApiModel.Number.Reading
import ApiModel.Text.Segment

/-! Reading JSON. Besides the standard forms `NaN`, `Infinity` and `-Infinity` are numbers. Of a
repeated key the first place and the last value count. -/
namespace ApiModel.Json

open Text

abbrev Read (α : Type) := Except Error (α × Text)

def fail {α : Type} (reason : Reason) (at' : Text) : Read α :=
  .error ⟨reason, at'.length⟩

def isSpace (c : CodePoint) : Bool :=
  c = ' ' || c = '\t' || c = '\n' || c = '\r'

def skipSpace (cs : Text) : Text :=
  cs.dropWhile isSpace

def hex4? (a b c d : CodePoint) : Option CodePoint := do
  return .ofNat
    (((← a.hexDigit?) * 16 + (← b.hexDigit?)) * 256 + (← c.hexDigit?) * 16 + (← d.hexDigit?))

def escaped? : CodePoint → Option CodePoint
  | .char '"' => some '"'
  | .char '\\' => some '\\'
  | .char '/' => some '/'
  | .char 'b' => some '\x08'
  | .char 'f' => some '\x0c'
  | .char 'n' => some '\n'
  | .char 'r' => some '\r'
  | .char 't' => some '\t'
  | _ => none

def prepend (c : CodePoint) : Read Text → Read Text
  | .ok (text, rest) => .ok (c :: text, rest)
  | .error e => .error e

/-- The characters of a text up to its closing quote. `start` counts the characters left at the
opening quote. -/
def readText (start : Nat) : Text → Read Text
  | [] => .error ⟨.unterminated, start⟩
  | .char '"' :: rest => .ok ([], rest)
  | .char '\\' :: .char 'u' :: a :: b :: c :: d :: next :: rest =>
    let place := rest.length + 6
    match hex4? a b c d with
    | none => .error ⟨.unicodeEscape, place⟩
    | some high =>
      if high.isHigh then
        match next, rest with
        | .char '\\', .char 'u' :: e :: f :: g :: h :: more :: rest' =>
          match hex4? e f g h with
          | none => .error ⟨.unicodeEscape, rest'.length + 6⟩
          | some low =>
            if low.isLow then
              prepend (.ofPair high low) (readText start (more :: rest'))
            else
              prepend high (readText start ('\\' :: 'u' :: e :: f :: g :: h :: more :: rest'))
        | next, rest => prepend high (readText start (next :: rest))
      else
        prepend high (readText start (next :: rest))
  | .char '\\' :: .char 'u' :: rest => .error ⟨.unicodeEscape, rest.length + 1⟩
  | [.char '\\'] => .error ⟨.unterminated, start⟩
  | .char '\\' :: c :: rest =>
    match escaped? c with
    | some c' => prepend c' (readText start rest)
    | none => .error ⟨.escape, rest.length + 2⟩
  | c :: rest =>
    if c.toNat < 32 then .error ⟨.control, rest.length + 1⟩ else prepend c (readText start rest)
termination_by cs => cs.length

theorem readText_quote (start : Nat) (rest : Text) :
    readText start (.char '"' :: rest) = .ok ([], rest) := by
  rw [readText]

def fractionPart : Text → Text × Text
  | .char '.' :: d :: rest =>
    if d.isDigit then Number.spanDigits (d :: rest) else ([], '.' :: d :: rest)
  | cs => ([], cs)

def exponentPart : Text → Option Int × Text
  | e :: rest =>
    if e = 'e' ∨ e = 'E' then
      let (negative, body) := Number.signed rest
      match Number.spanDigits body with
      | ([], _) => (none, e :: rest)
      | (ds, tail) =>
        let n : Int := Number.natOfChars ds
        (some (if negative then -n else n), tail)
    else
      (none, e :: rest)
  | [] => (none, [])

/-- The integer digits of a number: a lone zero or digits without a leading zero. -/
def wholePart : Text → Option (Text × Text)
  | .char '0' :: rest => some (['0'], rest)
  | c :: rest => if c.isDigit then some (Number.spanDigits (c :: rest)) else none
  | [] => none

/-- A number; without fraction and exponent it is an integer. -/
def readNumber (cs : Text) : Read Value :=
  let (negative, body) := match cs with
    | .char '-' :: body => (true, body)
    | body => (false, body)
  match wholePart body with
  | none => fail .value cs
  | some (whole, rest) =>
    let (fraction, rest) := fractionPart rest
    let (exponent, rest) := exponentPart rest
    if fraction.isEmpty && exponent.isNone then
      if Number.digitLimit < whole.length then fail .longInteger cs
      else
        let n : Int := Number.natOfChars whole
        .ok (.int (if negative then -n else n), rest)
    else
      let digits := Number.natOfChars (whole ++ fraction)
      let x := Number.ofDecimal negative digits (exponent.getD 0 - fraction.length)
      .ok (.float (.of .word x), rest)

def words : List (Text × Value) := [
  ("null", .null), ("true", .bool true), ("false", .bool false),
  ("NaN", .float (.undefined .word)),
  ("Infinity", .float (.of .word (Number.infinity false))),
  ("-Infinity", .float (.of .word (Number.infinity true)))]

def readScalar (cs : Text) : Read Value :=
  match words.findSome? fun w => (dropLeading? w.1 cs).map fun rest => (w.2, rest) with
  | some found => .ok found
  | none => readNumber cs

/-- The value of an object: of entries with one key the first gives the place, the last the
value. -/
def ofMembers (members : List (Text × Value)) : Value :=
  .ofEntries (members.foldl (fun l e => putEntry e.1 e.2 l) [])

def follow {α β : Type} (first : Read α) (next : α → Text → Read β) : Read β :=
  match first with
  | .ok (a, rest) => next a rest
  | .error e => .error e

mutual
/-- A value. Each level of nesting takes a character, so the length of the text is fuel enough. -/
def readValue : Nat → Text → Read Value
  | 0, cs => fail .value cs
  | n + 1, cs =>
    match cs with
    | .char '"' :: rest =>
      follow (readText cs.length rest) fun text rest => .ok (.str text, rest)
    | .char '[' :: rest =>
      match skipSpace rest with
      | .char ']' :: rest => .ok (.list [], rest)
      | rest => follow (readItems n rest) fun items rest => .ok (.list items, rest)
    | .char '{' :: rest =>
      match skipSpace rest with
      | .char '}' :: rest => .ok (.map [], rest)
      | rest => follow (readMembers n rest) fun members rest => .ok (ofMembers members, rest)
    | cs => readScalar cs

def readItems : Nat → Text → Read (List Value)
  | 0, cs => fail .value cs
  | n + 1, cs =>
    follow (readValue n cs) fun value rest =>
      match skipSpace rest with
      | .char ']' :: rest => .ok ([value], rest)
      | .char ',' :: rest =>
        follow (readItems n (skipSpace rest)) fun values rest => .ok (value :: values, rest)
      | rest => fail .comma rest

def readMembers : Nat → Text → Read (List (Text × Value))
  | 0, cs => fail .propertyName cs
  | n + 1, cs =>
    match cs with
    | .char '"' :: rest =>
      follow (readText cs.length rest) fun key rest =>
        match skipSpace rest with
        | .char ':' :: rest =>
          follow (readValue n (skipSpace rest)) fun value rest =>
            let member := (key, value)
            match skipSpace rest with
            | .char '}' :: rest => .ok ([member], rest)
            | .char ',' :: rest =>
              follow (readMembers n (skipSpace rest)) fun members rest =>
                .ok (member :: members, rest)
            | rest => fail .comma rest
        | rest => fail .colon rest
    | cs => fail .propertyName cs
end

def parse (text : Text) : Except Error Value :=
  match text with
  | .char '\ufeff' :: _ => .error ⟨.byteOrderMark, text.length⟩
  | _ => do
    let (value, rest) ← readValue (2 * text.length + 2) (skipSpace text)
    match skipSpace rest with
    | [] => return value
    | rest => .error ⟨.extraData, rest.length⟩

end ApiModel.Json

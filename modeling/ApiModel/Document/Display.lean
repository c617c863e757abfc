import ApiModel.Document.Value
import ApiModel.Number.Reading
import ApiModel.Text.Printable

/-! The text of a value in messages: texts stand bare on their own and quoted inside other values,
and a loop is three points. -/
namespace ApiModel

namespace Text

def quotedChar (quote c : CodePoint) : Text :=
  if c = quote ∨ c = '\\' then ['\\', c]
  else if c = '\n' then "\\n"
  else if c = '\r' then "\\r"
  else if c = '\t' then "\\t"
  else if isPrintable c then [c]
  else if c.toNat < 0x100 then "\\x" ++ hex 2 c.toNat
  else if c.toNat < 0x10000 then "\\u" ++ hex 4 c.toNat
  else "\\U" ++ hex 8 c.toNat

/-- Single quotes, unless the text holds one and no double quote. -/
def quoteFor (text : Text) : CodePoint :=
  if text.contains '\'' && !text.contains '"' then '"' else '\''

def quoted (text : Text) : Text :=
  let quote := quoteFor text
  [quote] ++ text.flatMap (quotedChar quote) ++ [quote]

def quotedBytes (data : List UInt8) : Text :=
  let cs := data.map fun b => CodePoint.ofNat b.toNat
  let quote := quoteFor cs
  let escape := fun (c : CodePoint) => (
    if c = quote ∨ c = '\\' ∨ c = '\n' ∨ c = '\r' ∨ c = '\t' then quotedChar quote c
    else if 32 ≤ c.toNat && c.toNat < 127 then [c]
    else "\\x" ++ hex 2 c.toNat : Text)
  "b" ++ [quote] ++ cs.flatMap escape ++ [quote]

end Text

namespace Moment

def zoneText (minutes : Int) : Text :=
  if minutes == 0 then "datetime.timezone.utc"
  else
    let seconds := minutes * 60
    let days := seconds.fdiv 86400
    let rest := seconds.fmod 86400
    let parts := (if days == 0 then [] else ["days=" ++ Text.ofInt days])
      ++ (if rest == 0 then [] else ["seconds=" ++ Text.ofInt rest])
    "datetime.timezone(datetime.timedelta(" ++ Text.join ", " parts ++ "))"

/-- The moment as a constructed value; trailing parts that are zero are left out. -/
def constructed (t : Moment) : Text :=
  let time := if t.second == 0 && t.micro == 0 then []
    else if t.micro == 0 then [t.second] else [t.second, t.micro]
  let zone : List Text := match t.offset with
    | some minutes => ["tzinfo=" ++ zoneText minutes]
    | none => []
  "datetime.datetime(" ++ Text.join ", " (([t.date.year, t.date.month, t.date.day, t.hour,
    t.minute] ++ time).map Text.ofNat ++ zone) ++ ")"

end Moment

namespace Value

mutual
def inner : Value → Text
  | null => "None"
  | bool b => if b then "True" else "False"
  | int n => .ofInt n
  | float x => x.text Number.shown
  | str s => Text.quoted s
  | list items => "[" ++ Text.join ", " (innerItems items) ++ "]"
  | map entries => "\x7b" ++ Text.join ", " (innerEntries entries) ++ "\x7d"
  | pair a b => "(" ++ inner a ++ ", " ++ inner b ++ ")"
  | set items =>
    match innerItems items with
    | [] => "set()"
    | texts => "\x7b" ++ Text.join ", " texts ++ "\x7d"
  | date d => "datetime.date(" ++ Text.join ", " ([d.year, d.month, d.day].map Text.ofNat) ++ ")"
  | moment t => t.constructed
  | bytes data => Text.quotedBytes data
  | loop .list _ => "[...]"
  | loop .map _ => "\x7b...\x7d"
  | loop .pair _ => "(...)"

def innerItems : List Value → List Text
  | [] => []
  | v :: rest => inner v :: innerItems rest

def innerEntries : List (Value × Value) → List Text
  | [] => []
  | (k, v) :: rest => (inner k ++ ": " ++ inner v) :: innerEntries rest
end

mutual
def hasLong : Value → Bool
  | int n => Number.isLong n
  | list items => hasLongItem items
  | map entries => hasLongEntry entries
  | pair a b => hasLong a || hasLong b
  | set items => hasLongItem items
  | _ => false

def hasLongItem : List Value → Bool
  | [] => false
  | v :: rest => hasLong v || hasLongItem rest

def hasLongEntry : List (Value × Value) → Bool
  | [] => false
  | (k, v) :: rest => hasLong k || hasLong v || hasLongEntry rest
end

def display : Value → Text
  | str s => s
  | date d => d.text
  | moment t => t.text " "
  | v => v.inner

end Value

end ApiModel

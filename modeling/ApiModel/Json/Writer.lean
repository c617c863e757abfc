import ApiModel.Document.Display

/-! Writing JSON, on one line or with one item on each line. Characters outside ASCII stand for
themselves; only quotes, backslashes and control characters are escaped. -/
namespace ApiModel.Json

/-- What stands in front of a line for each level of nesting; without it everything stands on one
line. -/
structure Layout where
  indent : Option Text

def Layout.line : Layout := ⟨none⟩

def Layout.blanks (width : Nat) : Layout := ⟨some (.fill width ' ')⟩

/-- The layout that a setting asks for: null is one line, a text stands for one level of nesting,
and a number counts the blanks of a level. -/
def Layout.ofIndent? : Value → Option Layout
  | .null => some .line
  | .str unit => some ⟨some unit⟩
  | v => v.asInt?.map fun n => .blanks n.toNat

def Layout.newline (layout : Layout) (level : Nat) : Text :=
  match layout.indent with
  | some indent => '\n' :: (List.replicate level indent).flatten
  | none => []

def Layout.between (layout : Layout) (level : Nat) : Text :=
  match layout.indent with
  | some _ => ',' :: layout.newline level
  | none => [',', ' ']

def escapeChar (c : CodePoint) : Text :=
  if c = '"' then ['\\', '"']
  else if c = '\\' then ['\\', '\\']
  else if c = '\n' then ['\\', 'n']
  else if c = '\r' then ['\\', 'r']
  else if c = '\t' then ['\\', 't']
  else if c = '\x0c' then ['\\', 'f']
  else if c = '\x08' then ['\\', 'b']
  else if c.toNat < 32 then '\\' :: 'u' :: Text.hex 4 c.toNat
  else [c]

def textChars (text : Text) : Text :=
  "\"" ++ text.flatMap escapeChar ++ "\""

def keyText : Value → Text
  | .null => "null"
  | .bool b => if b then "true" else "false"
  | .float x => x.text Number.written
  | v => v.display

def bracket (layout : Layout) (level : Nat) (opening closing : CodePoint) :
    List Text → Text
  | [] => [opening, closing]
  | items => opening :: layout.newline (level + 1)
      ++ Text.join (layout.between (level + 1)) items ++ layout.newline level ++ [closing]

mutual
/-- The characters of a value at a level of nesting. A value without a JSON form is written as its
text. -/
def valueChars (layout : Layout) (level : Nat) : Value → Text
  | .null => "null"
  | .bool b => if b then "true" else "false"
  | .int n => .ofInt n
  | .float x => x.text Number.written
  | .str s => textChars s
  | .list items => bracket layout level '[' ']' (itemChars layout (level + 1) items)
  | .map entries => bracket layout level '{' '}' (entryChars layout (level + 1) entries)
  | .pair a b =>
    bracket layout level '[' ']' [valueChars layout (level + 1) a, valueChars layout (level + 1) b]
  | v => textChars v.display

def itemChars (layout : Layout) (level : Nat) : List Value → List Text
  | [] => []
  | v :: rest => valueChars layout level v :: itemChars layout level rest

def entryChars (layout : Layout) (level : Nat) : List (Value × Value) → List Text
  | [] => []
  | (k, v) :: rest =>
    (textChars (keyText k) ++ ": " ++ valueChars layout level v) ::
      entryChars layout level rest
end

def write (layout : Layout) (v : Value) : Text :=
  valueChars layout 0 v

end ApiModel.Json

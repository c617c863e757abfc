import ApiModel.Text.Basic

/-! Texts as bytes. A text that holds a half of a surrogate pair has no bytes in UTF-8. -/
namespace ApiModel.Text

def ofUtf8? (data : List UInt8) : Option Text :=
  (String.fromUTF8? ⟨data.toArray⟩).map ofString

def toUtf8? (text : Text) : Option (List UInt8) :=
  (toString? text).map fun s => s.toUTF8.data.toList

def toHex (data : List UInt8) : Text := data.flatMap fun b => hex 2 b.toNat

def ofHex : Text → List UInt8
  | a :: b :: rest => (a.hexDigit?.getD 0 * 16 + b.hexDigit?.getD 0).toUInt8 :: ofHex rest
  | _ => []

/-- A character that has begun: how many bytes are missing, what the first ones give, and the range
of the next one. -/
structure Begun where
  missing : Nat
  value : Nat
  low : UInt8
  high : UInt8

def begin (b : UInt8) : Text × Option Begun :=
  if b < 0x80 then ([.ofNat b.toNat], none)
  else if b < 0xc2 then (['\ufffd'], none)
  else if b < 0xe0 then ([], some ⟨1, b.toNat - 0xc0, 0x80, 0xbf⟩)
  else if b < 0xf0 then
    ([], some ⟨2, b.toNat - 0xe0, if b = 0xe0 then 0xa0 else 0x80, if b = 0xed then 0x9f else 0xbf⟩)
  else if b < 0xf5 then
    ([], some ⟨3, b.toNat - 0xf0, if b = 0xf0 then 0x90 else 0x80, if b = 0xf4 then 0x8f else 0xbf⟩)
  else (['\ufffd'], none)

def ofUtf8From : Option Begun → List UInt8 → Text
  | none, [] => []
  | some _, [] => ['\ufffd']
  | none, b :: rest => (begin b).1 ++ ofUtf8From (begin b).2 rest
  | some p, b :: rest =>
    if p.low ≤ b ∧ b ≤ p.high then
      let value := 64 * p.value + (b.toNat - 0x80)
      if p.missing = 1 then .ofNat value :: ofUtf8From none rest
      else ofUtf8From (some ⟨p.missing - 1, value, 0x80, 0xbf⟩) rest
    else .char '\ufffd' :: ((begin b).1 ++ ofUtf8From (begin b).2 rest)

/-- The text of bytes in UTF-8. Each longest beginning of a character that is not finished, and each
byte that begins none, becomes a replacement character. -/
def ofUtf8 (data : List UInt8) : Text := ofUtf8From none data

/-- The text as far as it has characters: each half becomes three replacement characters, one for
every byte that it would take. -/
def lossy (text : Text) : Text :=
  text.flatMap fun c =>
    match c with
    | .char c => [.char c]
    | .half _ => fill 3 '\ufffd'

/-- The bytes that a text takes as the name of a file, where some halves stand for the bytes that no
character has. The other halves have no place in a name. -/
def nameSize? (text : Text) : Option Nat :=
  text.foldl (fun size c =>
    match c with
    | .char c => size.map (· + c.utf8Size)
    | .half offset =>
      if 0x480 ≤ offset.val ∧ offset.val < 0x500 then size.map (· + 1) else none) (some 0)

end ApiModel.Text

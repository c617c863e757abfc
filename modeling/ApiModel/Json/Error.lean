import ApiModel.Text.Basic

/-! Faults of JSON text. A fault is placed by the characters left behind it, so a reader needs no
position of its own. -/
namespace ApiModel.Json

inductive Reason where
  | byteOrderMark
  | value
  | propertyName
  | colon
  | comma
  | extraData
  | unterminated
  | control
  | escape
  | unicodeEscape
  | longInteger
  deriving DecidableEq, Repr

structure Error where
  reason : Reason
  left : Nat
  deriving DecidableEq, Repr

def Reason.text : Reason → Text
  | byteOrderMark => "Unexpected UTF-8 BOM (decode using utf-8-sig)"
  | value => "Expecting value"
  | propertyName => "Expecting property name enclosed in double quotes"
  | colon => "Expecting ':' delimiter"
  | comma => "Expecting ',' delimiter"
  | extraData => "Extra data"
  | unterminated => "Unterminated string starting at"
  | control => "Invalid control character at"
  | escape => "Invalid \\escape"
  | unicodeEscape => "Invalid \\uXXXX escape"
  | longInteger => "Exceeds the limit for integer string conversion"

def Error.message (e : Error) (text : Text) : Text :=
  let place := text.length - e.left
  let before := text.take place
  let line := before.count (.char '\n') + 1
  let column := (before.reverse.takeWhile (· ≠ .char '\n')).length + 1
  e.reason.text ++ ": line " ++ .ofNat line ++ " column " ++ .ofNat column
    ++ " (char " ++ .ofNat place ++ ")"

end ApiModel.Json

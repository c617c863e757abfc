import ApiModel.Text.Segment

/-! Numeric addresses of machines. -/
namespace ApiModel.Http

/-- A part of a short address: a number up to 255, without zeros in front. -/
def isOctet (part : Text) : Bool :=
  part.all CodePoint.isDigit && 0 < part.length && part.length ≤ 3
    && (part = "0" || part.head? != some '0')
    && part.foldl (fun n c => 10 * n + (c.toNat - 48)) 0 ≤ 255

def isShortAddress (text : Text) : Bool :=
  let parts := Text.split '.' text
  parts.length = 4 && parts.all isOctet

/-- A part of a long address: one to four hexadecimal digits. -/
def isGroup (part : Text) : Bool :=
  part.all (fun c => c.hexDigit?.isSome) && 0 < part.length && part.length ≤ 4

/-- A short address at the end stands for two groups. -/
def expandShort (parts : List Text) : Option (List Text) :=
  match parts.getLast? with
  | some last =>
    if .char '.' ∈ last then
      if isShortAddress last then some (parts.dropLast ++ List.replicate 2 (.ofNat 0)) else none
    else some parts
  | none => none

/-- The groups on both sides of the empty part at a place, which stands for all that is missing. An
empty part at either end is allowed only beside it. -/
def isAbridged (parts : List Text) (place : Nat) : Bool :=
  let before := parts.take place
  let behind := parts.drop (place + 1)
  let before := if before = [[]] then [] else before
  let behind := if behind = [[]] then [] else behind
  before.length + behind.length < 8 && before.all isGroup && behind.all isGroup

/-- Eight groups with colons between them, where two colons may stand for groups of zero. -/
def isLongGroups (text : Text) : Bool :=
  let parts := Text.split ':' text
  if parts.length < 3 then false
  else
    match expandShort parts with
    | none => false
    | some parts =>
      if 9 < parts.length then false
      else
        let inner := (parts.drop 1).dropLast
        match inner.zipIdx.filter fun part => part.1 = [] with
        | [] => parts.length = 8 && parts.all isGroup
        | [(_, n)] => isAbridged parts (n + 1)
        | _ => false

def isLongAddress (text : Text) : Bool :=
  let address : Text := text.takeWhile (· ≠ .char '%')
  let zone := text.drop (address.length + 1)
  isLongGroups address
    && (address.length = text.length || (!zone.isEmpty && !zone.contains (.char '%')))

end ApiModel.Http

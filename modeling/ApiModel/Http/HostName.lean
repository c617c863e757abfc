import ApiModel.Http.HostTable
import ApiModel.Text.Punycode
import ApiModel.Text.Segment

/-! Names of machines in characters of any script. A name is a row of labels, and each label obeys
rules on its characters, on their order and on the direction in which they are written. -/
namespace ApiModel.Http.HostName

/-- Two joiners, and characters that depend on others, stand in labels only under conditions. -/
def isAllowed (c : CodePoint) : Bool :=
  ('a' ≤ c && c ≤ 'z') || c.isDigit || c = '-' || (128 ≤ c.toNat && c.inRuns HostTable.allowed)

/-- The place of a mark around its letter; letters have none. -/
def placeOf (c : CodePoint) : Nat :=
  match HostTable.places.find? fun run => c.toNat ≤ run.2.1 with
  | some (first, _, place) => if first ≤ c.toNat then place else 0
  | none => 0

def isMark (c : CodePoint) : Bool :=
  c.inRuns HostTable.nonSpacing || c.inRuns HostTable.spacing

def composed? (letter mark : CodePoint) : Option CodePoint :=
  (((HostTable.composed.lookup mark.toNat).getD []).lookup letter.toNat).map .ofNat

def parts? (c : CodePoint) : Option (CodePoint × CodePoint) :=
  HostTable.composed.findSome? fun (mark, ones) =>
    (ones.find? fun one => one.2 = c.toNat).map fun one => (.ofNat one.1, .ofNat mark)

def takeApart : Nat → CodePoint → Text
  | 0, c => [c]
  | count + 1, c =>
    match parts? c with
    | some (letter, mark) => takeApart count letter ++ [mark]
    | none => [c]

/-- Puts a mark in front of those of a larger place, which stand before it. -/
def settle (c : CodePoint) : Text → Text
  | [] => [c]
  | before :: rest =>
    if placeOf c ≠ 0 ∧ placeOf c < placeOf before then before :: settle c rest else
      c :: before :: rest

/-- Writes letters and marks as one where no other mark of the same or a larger place stands between
them; `marks` are those that stay behind the letter, in reverse. -/
def compose (letter : CodePoint) (marks : Text) : Text → Text
  | [] => letter :: marks.reverse
  | c :: rest =>
    let free := marks.all fun mark => placeOf mark < placeOf c
    match if free then composed? letter c else none with
    | some one => compose one marks rest
    | none =>
      if placeOf c = 0 then letter :: marks.reverse ++ compose c [] rest
      else compose letter (c :: marks) rest

/-- Whether marks stand in the order of their places, and all that can be written as one is. -/
def isNormal (label : Text) : Bool :=
  match ((label.flatMap (takeApart 4)).foldl (fun sorted c => settle c sorted) []).reverse with
  | [] => true
  | c :: rest => compose c [] rest = label

/-- Hyphens stand neither at the ends nor in the third and fourth place. -/
def hasGoodHyphens (label : Text) : Bool :=
  label.head? != some '-' && label.getLast? != some '-' && (label.drop 2).take 2 != "--"

/-! Joiners and other characters that depend on their neighbours. -/

def meetsJoining (runs : List (Nat × Nat)) (text : Text) : Bool :=
  match text.dropWhile fun c => c.inRuns HostTable.nonSpacing with
  | c :: _ => c.inRuns HostTable.joinsBoth || c.inRuns runs
  | [] => false

def silent : Nat := 9

/-- A joiner stands behind a silent sign; the one that separates may also stand between letters that
would join. -/
def isGoodJoiner (before : Text) (c : CodePoint) (behind : Text) : Bool :=
  before.head?.any (placeOf · = silent)
    || (c.toNat = 0x200c && meetsJoining HostTable.joinsBehind before
      && meetsJoining HostTable.joinsBefore behind)

def isBetween (first last : Nat) (c : CodePoint) : Bool := first ≤ c.toNat && c.toNat ≤ last

def isGreek (c : CodePoint) : Bool :=
  [(0x370, 0x373), (0x375, 0x377), (0x37a, 0x37d), (0x37f, 0x37f), (0x384, 0x384), (0x386, 0x386),
    (0x388, 0x3e1), (0x3f0, 0x3ff), (0x1d26, 0x1d2a), (0x1d5d, 0x1d61), (0x1d66, 0x1d6a),
    (0x1dbf, 0x1dbf), (0x1f00, 0x1ffe), (0x2126, 0x2126), (0xab65, 0xab65), (0x10140, 0x1018e),
    (0x101a0, 0x101a0), (0x1d200, 0x1d245)].any fun run => isBetween run.1 run.2 c

def isHebrew (c : CodePoint) : Bool := isBetween 0x591 0x5f4 c || isBetween 0xfb1d 0xfb4f c

def isKanaOrHan (c : CodePoint) : Bool :=
  [(0x2e80, 0x2fd5), (0x3005, 0x3005), (0x3007, 0x3007), (0x3021, 0x3029), (0x3038, 0x303b),
    (0x3041, 0x3096), (0x309d, 0x309f), (0x30a1, 0x30fa), (0x30fd, 0x30ff), (0x31f0, 0x31ff),
    (0x32d0, 0x32fe), (0x3300, 0x3357), (0x3400, 0x4dbf), (0x4e00, 0x9fff), (0xf900, 0xfad9),
    (0xff66, 0xff6f), (0xff71, 0xff9d), (0x16ff0, 0x16ff1), (0x1aff0, 0x1b122), (0x1b150, 0x1b167),
    (0x1f200, 0x1f200), (0x20000, 0x3134a)].any fun run => isBetween run.1 run.2 c

def isArabicDigit (c : CodePoint) : Bool := isBetween 0x660 0x669 c

def isEasternDigit (c : CodePoint) : Bool := isBetween 0x6f0 0x6f9 c

/-- Whether a character that depends on others finds them in the label; `before` is in reverse. -/
def isGoodContext (label before : Text) (c : CodePoint) (behind : Text) : Bool :=
  if c.toNat = 0x200c ∨ c.toNat = 0x200d then isGoodJoiner before c behind
  else if c.toNat = 0xb7 then before.head? = some 'l' && behind.head? = some 'l'
  else if c.toNat = 0x375 then behind.head?.any isGreek
  else if c.toNat = 0x5f3 ∨ c.toNat = 0x5f4 then before.head?.any isHebrew
  else if c.toNat = 0x30fb then label.any isKanaOrHan
  else if isArabicDigit c then !label.any isEasternDigit
  else if isEasternDigit c then !label.any isArabicDigit
  else false

def hasGoodCharacters (label before : Text) : Text → Bool
  | [] => true
  | c :: rest =>
    (isAllowed c || isGoodContext label before c rest) && hasGoodCharacters label (c :: before) rest

/-! Direction. -/

inductive Direction where
  | leftToRight
  | rightToLeft
  | number
  | arabicNumber
  | mark
  | neutral
  deriving DecidableEq

def directionOf (c : CodePoint) : Direction :=
  if c.inRuns HostTable.rightToLeft ∨ c.toNat = 0x5f3 ∨ c.toNat = 0x5f4 then .rightToLeft
  else if isArabicDigit c ∨ isBetween 0x10d30 0x10d39 c then .arabicNumber
  else if c.isDigit ∨ isEasternDigit c then .number
  else if c.inRuns HostTable.nonSpacing then .mark
  else if c.inRuns HostTable.neutral ∨ c.toNat ∈ [0x2d, 0xb7, 0x375, 0x30fb, 0x200c, 0x200d] then
    .neutral
  else .leftToRight

/-- A label with characters from right to left has no others, begins with a letter, ends in a letter
or number apart from marks, and writes its numbers in one way. -/
def hasGoodDirection (label : Text) : Bool :=
  let directions := label.map directionOf
  let ends := directions.reverse.dropWhile (· = .mark)
  (!directions.contains .rightToLeft && !directions.contains .arabicNumber)
    || (directions.head? = some .rightToLeft && !directions.contains .leftToRight
      && (ends.head?.any fun d => d = .rightToLeft || d = .number || d = .arabicNumber)
      && !(directions.contains .number && directions.contains .arabicNumber))

def isGoodLabel (label : Text) : Bool :=
  !label.isEmpty && isNormal label && hasGoodHyphens label && !label.head?.any isMark
    && hasGoodCharacters label [] label && hasGoodDirection label

def plainLead : Text := "xn--"

def labelLength? (label : Text) : Option Nat :=
  let plain := label.all fun c => c.toNat < 128
  let good : Bool := match Text.dropLeading? plainLead label with
    | some code =>
      if plain then
        !code.isEmpty && code.getLast? != some '-' && (Text.Punycode.decode? code).any isGoodLabel
      else isGoodLabel label
    | none => isGoodLabel label
  let length := if plain then label.length else plainLead.length + Text.Punycode.length label
  if good ∧ length ≤ 63 then some length else none

/-- The labels of a name; several characters count as the point between them. -/
def labels (name : Text) : List Text :=
  Text.split '.' (name.map fun c =>
    if c.toNat = 0x3002 ∨ c.toNat = 0xff0e ∨ c.toNat = 0xff61 then '.' else c)

/-- Whether a name in small letters obeys the rules. A point may end it. -/
def isGood (name : Text) : Bool :=
  let all := labels name
  let closed := all.getLast? = some []
  let all := if closed then all.dropLast else all
  match all.mapM labelLength? with
  | none => false
  | some [] => false
  | some lengths => lengths.foldl (· + · + 1) 0 ≤ 254

end ApiModel.Http.HostName

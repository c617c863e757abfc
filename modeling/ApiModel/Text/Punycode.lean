import ApiModel.Text.Basic

/-! Texts in letters, digits and hyphens. The plain characters stand first, then numbers tell which
other characters to insert where; a character and its place are counted on from the one before. -/
namespace ApiModel.Text.Punycode

/-- The digit from which on a number ends, by its place and the bias. -/
def threshold (place bias : Nat) : Nat :=
  let t := 36 * (place + 1) - bias
  if t < 1 then 1 else if 26 < t then 26 else t

theorem one_le_threshold (place bias : Nat) : 1 ≤ threshold place bias := by
  simp only [threshold]
  split
  · omega
  · split <;> omega

/-- Divides a step until it is small; counts the divisions. -/
def damp (delta divisions : Nat) : Nat × Nat :=
  if 455 < delta then damp (delta / 35) (divisions + 36) else (delta, divisions)
termination_by delta
decreasing_by exact Nat.div_lt_self (by omega) (by omega)

def adapt (delta : Nat) (first : Bool) (length : Nat) : Nat :=
  let delta := if first then delta / 700 else delta / 2
  let (delta, divisions) := damp (delta + delta / length) 0
  divisions + 36 * delta / (delta + 38)

def digitCount (bias place n : Nat) : Nat :=
  let t := threshold place bias
  if n < t then 1 else 1 + digitCount bias (place + 1) ((n - t) / (36 - t))
termination_by n
decreasing_by
  have := one_le_threshold place bias
  exact Nat.lt_of_le_of_lt (Nat.div_le_self _ _) (by omega)

/-- What has been written: the last character and step, and how much. -/
structure Progress where
  delta : Nat
  bias : Nat
  done : Nat
  digits : Nat

/-- Goes over the text once and inserts each place of one character. -/
def insertAll (plain : Nat) (target : Nat) (p : Progress) : Text → Progress
  | [] => p
  | c :: rest =>
    if c.toNat < target then insertAll plain target { p with delta := p.delta + 1 } rest
    else if c.toNat = target then
      insertAll plain target
        ⟨0, adapt p.delta (p.done = plain) (p.done + 1), p.done + 1,
          p.digits + digitCount p.bias 0 p.delta⟩ rest
    else insertAll plain target p rest

/-- Inserts the characters from the smallest on; each is larger than the `last`. -/
def insertFrom (text : Text) (plain : Nat) (last : Nat) (p : Progress) : List Nat → Progress
  | [] => p
  | target :: rest =>
    let p := { p with delta := p.delta + (target - last) * (p.done + 1) }
    let p := insertAll plain target p text
    insertFrom text plain (target + 1) { p with delta := p.delta + 1 } rest

def extended (text : Text) : List Nat :=
  ((text.map CodePoint.toNat).filter (128 ≤ ·)).mergeSort.eraseDups

def length (text : Text) : Nat :=
  let plain := (text.filter fun c => c.toNat < 128).length
  let p := insertFrom text plain 128 ⟨0, 72, plain, 0⟩ (extended text)
  plain + (if plain = 0 then 0 else 1) + p.digits

def digit? (c : CodePoint) : Option Nat :=
  if c.isLetter then some (c.toLower.toNat - 97)
  else if c.isDigit then some (c.toNat - 22)
  else none

def number? (bias place weight sum : Nat) : Text → Option (Nat × Text)
  | [] => none
  | c :: rest => do
    let digit ← digit? c
    let t := threshold place bias
    let sum := sum + digit * weight
    if digit < t then some (sum, rest)
    else number? bias (place + 1) (weight * (36 - t)) sum rest

/-- Inserts what numbers tell; every number takes a digit, so `fuel` is the length of the text. -/
def insert? (char place bias : Nat) (first : Bool) (text : Text) : Nat → Text → Option Text
  | 0, _ => some text
  | _ + 1, [] => some text
  | fuel + 1, c :: rest => do
    let (delta, rest) ← number? bias 0 1 0 (c :: rest)
    let place := place + delta
    let char := char + place / (text.length + 1)
    if 0x10ffff < char then none
    else
      let place := place % (text.length + 1)
      let text := text.take place ++ [.ofNat char] ++ text.drop place
      insert? char (place + 1) (adapt delta first text.length) false text fuel rest

/-- The text of this form. The last hyphen ends the plain characters. -/
def decode? (text : Text) : Option Text :=
  let code : Text := (text.reverse.takeWhile (· ≠ .char '-')).reverse
  insert? 128 0 72 true (text.take (text.length - code.length - 1)) code.length code

end ApiModel.Text.Punycode

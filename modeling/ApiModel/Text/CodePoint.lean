/-! Code points: the characters, and the halves of surrogate pairs. A half is no character, but an
escape can name one on its own, so texts may hold it. -/
namespace ApiModel

inductive CodePoint where
  | char (c : Char)
  /-- A half of a surrogate pair, by its distance from the first one. -/
  | half (offset : Fin 2048)
  deriving DecidableEq, Repr

namespace CodePoint

instance : Inhabited CodePoint := ⟨char default⟩

instance : Coe Char CodePoint := ⟨char⟩

def toNat : CodePoint → Nat
  | char c => c.toNat
  | half offset => 0xd800 + offset

def ofNat (n : Nat) : CodePoint :=
  if h : 0xd800 ≤ n ∧ n < 0xe000 then half ⟨n - 0xd800, by omega⟩ else char (Char.ofNat n)

theorem toNat_char_ne_half (c : Char) (offset : Fin 2048) :
    (char c).toNat ≠ (half offset).toNat := by
  have h := c.valid
  simp only [toNat, Char.toNat, UInt32.isValidChar, Nat.isValidChar] at *
  have := offset.isLt
  omega

theorem toNat_inj {a b : CodePoint} : a.toNat = b.toNat ↔ a = b := by
  refine ⟨fun h => ?_, fun h => h ▸ rfl⟩
  match a, b with
  | char c, char d => exact congrArg char (Char.toNat_inj.1 h)
  | char c, half i => exact absurd h (toNat_char_ne_half c i)
  | half i, char c => exact absurd h.symm (toNat_char_ne_half c i)
  | half i, half j =>
    simp only [toNat] at h
    exact congrArg half (Fin.ext (by omega))

instance : LT CodePoint := ⟨fun a b => a.toNat < b.toNat⟩

instance : LE CodePoint := ⟨fun a b => a.toNat ≤ b.toNat⟩

instance : DecidableLT CodePoint := fun a b => inferInstanceAs (Decidable (a.toNat < b.toNat))

instance : DecidableLE CodePoint := fun a b => inferInstanceAs (Decidable (a.toNat ≤ b.toNat))

def isHigh (c : CodePoint) : Bool := 0xd800 ≤ c.toNat && c.toNat < 0xdc00

def isLow (c : CodePoint) : Bool := 0xdc00 ≤ c.toNat && c.toNat < 0xe000

def ofPair (high low : CodePoint) : CodePoint :=
  ofNat (0x10000 + (high.toNat - 0xd800) * 0x400 + (low.toNat - 0xdc00))

def toChar? : CodePoint → Option Char
  | char c => some c
  | half _ => none

/-- Whether a run of code points, given by its first and last, holds this one. The runs ascend, so
the search stops at the first run that ends at or after the code point. -/
def inRuns (runs : List (Nat × Nat)) (c : CodePoint) : Bool :=
  match runs.find? (fun run => c.toNat ≤ run.2) with
  | some run => run.1 ≤ c.toNat
  | none => false

/-! ASCII classes. -/

def isDigit (c : CodePoint) : Bool := '0' ≤ c && c ≤ '9'

def isLetter (c : CodePoint) : Bool := ('a' ≤ c && c ≤ 'z') || ('A' ≤ c && c ≤ 'Z')

def isLetterOrDigit (c : CodePoint) : Bool := c.isLetter || c.isDigit

def toLower (c : CodePoint) : CodePoint :=
  if 'A' ≤ c ∧ c ≤ 'Z' then ofNat (c.toNat + 32) else c

def hexDigit? (c : CodePoint) : Option Nat :=
  if c.isDigit then some (c.toNat - 48)
  else if 'a' ≤ c ∧ c ≤ 'f' then some (c.toNat - 87)
  else if 'A' ≤ c ∧ c ≤ 'F' then some (c.toNat - 55)
  else none

end CodePoint

end ApiModel

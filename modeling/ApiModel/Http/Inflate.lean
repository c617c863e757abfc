import ApiModel.Text.Basic

/-! Unpacking of packed bytes. A stream is a row of blocks: bytes as they are, or codes for bytes
and for repetitions of what came before. A stream that breaks off gives what it holds up to
there. -/
namespace ApiModel.Http

inductive PackingError where
  | header
  | method
  | window
  | dictionary
  | blockType
  | storedLengths
  | tooManySymbols
  | lengthCodes
  | lengthRepeat
  | noBlockEnd
  | literalCodes
  | distanceCodes
  | literal
  | distance
  | tooFarBack
  | checksum
  deriving DecidableEq, Repr

def PackingError.text : PackingError → Text
  | header => "incorrect header check"
  | method => "unknown compression method"
  | window => "invalid window size"
  | dictionary => "need dictionary"
  | blockType => "invalid block type"
  | storedLengths => "invalid stored block lengths"
  | tooManySymbols => "too many length or distance symbols"
  | lengthCodes => "invalid code lengths set"
  | lengthRepeat => "invalid bit length repeat"
  | noBlockEnd => "invalid code -- missing end-of-block"
  | literalCodes => "invalid literal/lengths set"
  | distanceCodes => "invalid distances set"
  | literal => "invalid literal/length code"
  | distance => "invalid distance code"
  | tooFarBack => "invalid distance too far back"
  | checksum => "incorrect data check"

def PackingError.message (e : PackingError) : Text :=
  "Error -3 while decompressing data: " ++ e.text

namespace Inflate

/-- How reading ends early: the stream breaks off, or it is faulty. -/
inductive Stop where
  | short
  | faulty (e : PackingError)

structure State where
  bits : List Bool
  output : Array UInt8

abbrev Unpacking := ExceptT Stop (StateM State)

def fail {α : Type} (e : PackingError) : Unpacking α := throw (.faulty e)

def bitsOf (b : UInt8) : List Bool := (List.range 8).map fun i => b.toNat.testBit i

def number (bits : List Bool) : Nat := bits.foldr (fun b n => 2 * n + b.toNat) 0

def take (count : Nat) : Unpacking Nat := do
  let s ← get
  let taken := s.bits.take count
  if taken.length < count then throw .short
  set { s with bits := s.bits.drop count }
  return number taken

/-- The codes of symbols by their lengths. Shorter codes come first, then smaller symbols. -/
structure Code where
  /-- How many symbols have each length from one on. -/
  counts : List Nat
  /-- The symbols in the order of their codes. -/
  symbols : List Nat

def maxLength : Nat := 15

def Code.ofLengths (lengths : List Nat) : Code where
  counts := (List.range maxLength).map fun n => lengths.count (n + 1)
  symbols := (List.range maxLength).flatMap fun n =>
    (lengths.zipIdx.filter fun e => e.1 = n + 1).map Prod.snd

/-- The codes that are left over, in units of the longest; `none` if there are too many. -/
def Code.spare? (c : Code) : Option Nat :=
  c.counts.foldl (fun left count => do
    let left ← left
    if count ≤ 2 * left then some (2 * left - count) else none) (some 1)

/-- Whether every sequence of bits leads to a symbol. Without symbols, that shows only when one is
read; a single symbol of one bit may leave the other bit free if `loose`. -/
def Code.isComplete (loose : Bool) (c : Code) : Bool :=
  match c.spare? with
  | none => false
  | some left =>
    left = 0 || c.symbols.isEmpty || (loose && (c.counts.drop 1).all (· = 0))

/-- Reads a symbol: `first` is the smallest code of the length, and `skipped` counts the symbols of
shorter codes. Fails with nothing if no symbol has the code. -/
def Code.walk (symbols : List Nat) (first skipped code : Nat) :
    List Nat → List Bool → Except Stop (Option Nat × List Bool)
  | [], bits => .ok (none, bits)
  | _ :: _, [] => .error .short
  | count :: counts, b :: bits =>
    let code := code + b.toNat
    if code < first + count then .ok (symbols[skipped + (code - first)]?, bits)
    else if counts.all (· = 0) then .ok (none, bits)
    else walk symbols (2 * (first + count)) (skipped + count) (2 * code) counts bits

def symbol (c : Code) : Unpacking (Option Nat) := do
  let s ← get
  match Code.walk c.symbols 0 0 0 c.counts s.bits with
  | .error stop => throw stop
  | .ok (found, bits) =>
    set { s with bits }
    return found

def give (b : UInt8) : Unpacking Unit := modify fun s => { s with output := s.output.push b }

def stored : Nat → Unpacking Unit
  | 0 => return
  | count + 1 => do
    give (← take 8).toUInt8
    stored count

def repeatBack (distance : Nat) : Nat → Unpacking Unit
  | 0 => return
  | count + 1 => do
    let s ← get
    give (s.output.getD (s.output.size - distance) 0)
    repeatBack distance count

/-- The least length of each symbol from 257 on, with the bits that are added to it. -/
def lengthBases : List (Nat × Nat) := [
  (3, 0), (4, 0), (5, 0), (6, 0), (7, 0), (8, 0), (9, 0), (10, 0), (11, 1), (13, 1), (15, 1),
  (17, 1), (19, 2), (23, 2), (27, 2), (31, 2), (35, 3), (43, 3), (51, 3), (59, 3), (67, 4),
  (83, 4), (99, 4), (115, 4), (131, 5), (163, 5), (195, 5), (227, 5), (258, 0)]

/-- The least distance of each symbol, with the bits that are added to it. -/
def distanceBases : List (Nat × Nat) := [
  (1, 0), (2, 0), (3, 0), (4, 0), (5, 1), (7, 1), (9, 2), (13, 2), (17, 3), (25, 3), (33, 4),
  (49, 4), (65, 5), (97, 5), (129, 6), (193, 6), (257, 7), (385, 7), (513, 8), (769, 8), (1025, 9),
  (1537, 9), (2049, 10), (3073, 10), (4097, 11), (6145, 11), (8193, 12), (12289, 12), (16385, 13),
  (24577, 13)]

def based (bases : List (Nat × Nat)) (n : Nat) (e : PackingError) : Unpacking Nat := do
  match bases[n]? with
  | none => fail e
  | some (base, extra) => return base + (← take extra)

/-- The coded part of a block, to its end. Every symbol takes a bit, so `fuel` is the number of
bits. -/
def coded (literals distances : Code) : Nat → Unpacking Unit
  | 0 => throw .short
  | fuel + 1 => do
    match ← symbol literals with
    | none => fail .literal
    | some n =>
      if n < 256 then
        give n.toUInt8
        coded literals distances fuel
      else if n = 256 then return
      else
        let length ← based lengthBases (n - 257) .literal
        match ← symbol distances with
        | none => fail .distance
        | some m =>
          let distance ← based distanceBases m .distance
          if (← get).output.size < distance then fail .tooFarBack
          repeatBack distance length
          coded literals distances fuel

def fixedLiterals : Code := Code.ofLengths
  (List.replicate 144 8 ++ List.replicate 112 9 ++ List.replicate 24 7 ++ List.replicate 8 8)

def fixedDistances : Code := Code.ofLengths (List.replicate 32 5)

/-- The order in which the lengths of the codes for lengths stand. -/
def lengthOrder : List Nat := [16, 17, 18, 0, 8, 7, 9, 6, 10, 5, 11, 4, 12, 3, 13, 2, 14, 1, 15]

def lengths (c : Code) (total : Nat) : Nat → List Nat → Unpacking (List Nat)
  | 0, found => return found
  | fuel + 1, found => do
    if total ≤ found.length then return found
    -- Without codes every bit stands for the length zero.
    let n := (← symbol c).getD 0
    if n < 16 then lengths c total fuel (n :: found)
    else
      let last := found.head?
      if n = 16 ∧ last = none then
        discard (take 2)
        fail .lengthRepeat
      let more ← take (if n = 18 then 7 else n - 14)
      let count := (if n = 18 then 11 else 3) + more
      if total < found.length + count then fail .lengthRepeat
      lengths c total fuel (List.replicate count (if n = 16 then last.getD 0 else 0) ++ found)

def ownCodes : Unpacking (Code × Code) := do
  let literals := 257 + (← take 5)
  let distances := 1 + (← take 5)
  let given := 4 + (← take 4)
  if 286 < literals ∨ 30 < distances then fail .tooManySymbols
  let widths ← (List.range given).mapM fun _ => take 3
  let places := (lengthOrder.take given).zip widths
  let code := Code.ofLengths ((List.range 19).map fun n => (places.lookup n).getD 0)
  if !code.isComplete false then fail .lengthCodes
  let found := (← lengths code (literals + distances) (literals + distances) []).reverse
  if found.getD 256 0 = 0 then fail .noBlockEnd
  let literalCode := Code.ofLengths (found.take literals)
  if !literalCode.isComplete true then fail .literalCodes
  let distanceCode := Code.ofLengths (found.drop literals)
  if !distanceCode.isComplete true then fail .distanceCodes
  return (literalCode, distanceCode)

def align : Unpacking Unit := modify fun s => { s with bits := s.bits.drop (s.bits.length % 8) }

/-- The blocks, to the last one. Every block takes bits. -/
def blocks : Nat → Unpacking Unit
  | 0 => throw .short
  | fuel + 1 => do
    let last ← take 1
    let kind ← take 2
    if kind = 0 then
      align
      let count ← take 16
      let check ← take 16
      if count + check ≠ 65535 then fail .storedLengths
      stored count
    else if kind = 1 then coded fixedLiterals fixedDistances fuel
    else if kind = 2 then
      let (literals, distances) ← ownCodes
      coded literals distances fuel
    else fail .blockType
    if last = 0 then blocks fuel

def checksum (data : List UInt8) : Nat :=
  let (a, b) := data.foldl
    (fun (a, b) byte => ((a + byte.toNat) % 65521, (b + a + byte.toNat) % 65521)) (1, 0)
  65536 * b + a

def wrapped (fuel : Nat) : Unpacking Unit := do
  let method ← take 8
  let flags ← take 8
  if (256 * method + flags) % 31 ≠ 0 then fail .header
  if method % 16 ≠ 8 then fail .method
  if 7 < method / 16 then fail .window
  if flags.testBit 5 then
    discard (take 32)
    fail .dictionary
  blocks fuel
  align
  let sum ← (List.range 4).foldlM (fun n _ => do return 256 * n + (← take 8)) 0
  if sum ≠ checksum (← get).output.toList then fail .checksum

/-- Runs on bytes. A stream that breaks off has given something nevertheless. -/
def run (unpack : Nat → Unpacking Unit) (data : List UInt8) : Except PackingError (List UInt8) :=
  let bits := data.flatMap bitsOf
  match (unpack (bits.length + 1)).run.run ⟨bits, #[]⟩ with
  | (.error (.faulty e), _) => .error e
  | (_, s) => .ok s.output.toList

end Inflate

/-- Unpacks a stream with a header, or else a bare one. -/
def inflate (data : List UInt8) : Except PackingError (List UInt8) :=
  match Inflate.run Inflate.wrapped data with
  | .ok output => .ok output
  | .error _ => Inflate.run Inflate.blocks data

end ApiModel.Http

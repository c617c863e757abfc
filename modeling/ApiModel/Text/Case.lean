import ApiModel.Text.Basic
import ApiModel.Text.CaseTable
import ApiModel.Text.CasedTable

/-! Capital and small forms of text by the full case mapping: one character may become several, as
`ß` becomes `SS`, and a capital sigma at the end of a word has a small form of its own. -/
namespace ApiModel.Text

/-- The mapping of one character: an expansion if it has one, else the shift of its run. -/
def mapCase (expansions : List (Nat × List Nat)) (runs : List CaseRun) (c : CodePoint) : Text :=
  match expansions.lookup c.toNat with
  | some codes => codes.map CodePoint.ofNat
  | none => [CodePoint.ofNat ((runs.findSome? (·.shifted? c.toNat)).getD c.toNat)]

def upperChar (c : CodePoint) : Text :=
  if 'a' ≤ c ∧ c ≤ 'z' then [.ofNat (c.toNat - 32)]
  else if c.toNat < 128 then [c]
  else mapCase capitalExpansions capitalRuns c

def lowerChar (c : CodePoint) : Text :=
  if c.toNat < 128 then [c.toLower]
  else mapCase smallExpansions smallRuns c

def upper (text : Text) : Text :=
  text.flatMap upperChar

def meetsCased (text : Text) : Bool :=
  ((text.dropWhile (·.inRuns passedRuns)).head?.map (·.inRuns casedRuns)).getD false

/-- The small form of each character; `before` is what stands in front, last character first. -/
def lowerFrom (before : Text) : Text → Text
  | [] => []
  | c :: rest =>
    let small : Text :=
      if c = 'Σ' then [if meetsCased before && !meetsCased rest then 'ς' else 'σ'] else lowerChar c
    small ++ lowerFrom (c :: before) rest

def lower (text : Text) : Text :=
  lowerFrom [] text

def mapFirst (f : CodePoint → Text) : Text → Text
  | [] => []
  | c :: rest => f c ++ rest

def upperFirst (text : Text) : Text :=
  mapFirst upperChar text

def lowerFirst (text : Text) : Text :=
  mapFirst lowerChar text

end ApiModel.Text

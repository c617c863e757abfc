import ApiModel.Yaml.Node

/-! Merge keys. The value of a merge key is a mapping or a list of mappings whose entries come in
front of the mapping's own. A merge key is taken out before its value is looked at, so a mapping may
merge itself. -/
namespace ApiModel.Yaml.Graph

abbrev Entry := NodeId × NodeId

def entries (g : Graph) (id : NodeId) : List Entry :=
  match g.shape id with
  | .mapping entries => entries
  | _ => []

def isMerge (g : Graph) (e : Entry) : Bool := g.tag e.1 = .merge

def mergeCount (g : Graph) : Nat :=
  g.nodes.foldl (fun count node =>
    match node.shape with
    | .mapping entries => count + entries.countP g.isMerge
    | _ => count) 0

/-- A key that would stand for the whole mapping is a plain text where entries are read. -/
def plainKeys (g : Graph) (entries : List Entry) : Graph :=
  entries.foldl (fun g e => if g.tag e.1 = .value then g.setTag e.1 .str else g) g

def flattenWith (gather : NodeId → Graph → Except Fault (List Entry × Graph)) (id : NodeId)
    (g : Graph) : Except Fault Graph := do
  let (merged, g) ← gather id g
  let own := g.entries id
  return (g.plainKeys own).setShape id (.mapping (merged ++ own))

def gatherItems (gather : NodeId → Graph → Except Fault (List Entry × Graph)) :
    List NodeId → Graph → Except Fault (List (List Entry) × Graph)
  | [], g => .ok ([], g)
  | item :: rest, g =>
    match g.shape item with
    | .mapping _ => do
      let g ← flattenWith gather item g
      let here := g.entries item
      let (more, g) ← gatherItems gather rest g
      return (here :: more, g)
    | _ => .error .malformed

/-- Takes out the merge keys of a mapping and gives the entries that they bring in. Of a list the
first mapping counts most, so it comes last. Each step takes out a merge key, so their number bounds
the steps. -/
def gather : Nat → NodeId → Graph → Except Fault (List Entry × Graph)
  | 0, _, g => .ok ([], g)
  | n + 1, id, g =>
    match (g.entries id).find? g.isMerge with
    | none => .ok ([], g)
    | some (_, source) => do
      let g := g.setShape id (.mapping ((g.entries id).eraseP g.isMerge))
      let (here, g) ← match g.shape source with
        | .mapping _ => do
          let g ← flattenWith (gather n) source g
          pure (g.entries source, g)
        | .sequence items => do
          let (parts, g) ← gatherItems (gather n) items g
          pure (parts.reverse.flatten, g)
        | .scalar _ => throw .malformed
      let (more, g) ← gather n id g
      return (here ++ more, g)

/-- The graph with the merge keys of a mapping resolved; `merges` counts the merge keys of the
graph. -/
def flatten (merges : Nat) (id : NodeId) (g : Graph) : Except Fault Graph :=
  flattenWith (gather (merges + 1)) id g

end ApiModel.Yaml.Graph

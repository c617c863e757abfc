import ApiModel.Container.OrderedMap
import ApiModel.Yaml.Resolution
import ApiModel.Yaml.Token

/-! Nodes of a YAML document: scalars, sequences and mappings with their tags. Nodes refer to each
other by their numbers, so that an alias is one more reference to a node, also from inside of it. -/
namespace ApiModel.Yaml

abbrev NodeId := Nat

inductive Shape where
  | scalar (text : Text)
  | sequence (items : List NodeId)
  | mapping (entries : List (NodeId × NodeId))
  deriving Inhabited

structure Node where
  tag : Tag
  shape : Shape
  deriving Inhabited

structure Graph where
  nodes : Array Node

namespace Graph

def empty : Graph := ⟨#[]⟩

def get (g : Graph) (id : NodeId) : Node := g.nodes.getD id default

def shape (g : Graph) (id : NodeId) : Shape := (g.get id).shape

def tag (g : Graph) (id : NodeId) : Tag := (g.get id).tag

def setShape (g : Graph) (id : NodeId) (shape : Shape) : Graph :=
  ⟨g.nodes.modify id fun node => { node with shape := shape }⟩

def setTag (g : Graph) (id : NodeId) (tag : Tag) : Graph :=
  ⟨g.nodes.modify id fun node => { node with tag := tag }⟩

/-- Adds a node; its number is the count of the nodes before it. -/
def add (g : Graph) (node : Node) : NodeId × Graph :=
  (g.nodes.size, ⟨g.nodes.push node⟩)

end Graph

structure Composer where
  tokens : List Token
  handles : List (Text × Text)
  anchors : List (Text × NodeId)
  graph : Graph

namespace Composer

abbrev M := StateT Composer (Except Fault)

/-- The next token. The text is read only as far as it is asked for, so a fault comes up here. -/
def peek : M Token := do
  match (← get).tokens with
  | .fault f :: _ => throw f
  | token :: _ => return token
  | [] => return .streamEnd

def skip : M Unit :=
  modify fun s => { s with tokens := s.tokens.drop 1 }

def malformed {α : Type} : M α := throw .malformed

def fullTag (handle : Option Text) (suffix : Text) : M Text := do
  match handle with
  | none => return suffix
  | some h =>
    match (← get).handles.lookup h with
    | some expansion => return expansion ++ suffix
    | none => malformed

def addNode (tag : Tag) (shape : Shape) : M NodeId := do
  let s ← get
  let (id, graph) := s.graph.add ⟨tag, shape⟩
  set { s with graph := graph }
  return id

def setShape (id : NodeId) (shape : Shape) : M Unit :=
  modify fun s => { s with graph := s.graph.setShape id shape }

def noteAnchor (name : Option Text) (id : NodeId) : M Unit := do
  match name with
  | none => return
  | some n => modify fun s => { s with anchors := (n, id) :: s.anchors }

def checkAnchor (name : Option Text) : M Unit := do
  match name with
  | none => return
  | some n => if ((← get).anchors.lookup n).isSome then malformed

def anchorToken? : M (Option Text) := do
  match ← peek with
  | .anchor name => do skip; return some name
  | _ => return none

def tagToken? : M (Option (Option Text × Text)) := do
  match ← peek with
  | .tag handle suffix => do skip; return some (handle, suffix)
  | _ => return none

/-- Anchor and tag in either order. -/
def properties : M (Option Text × Option Text) := do
  let first ← anchorToken?
  let tag ← tagToken?
  let anchor ← if first.isNone && tag.isSome then anchorToken? else pure first
  match tag with
  | some (handle, suffix) => return (anchor, some (← fullTag handle suffix))
  | none => return (anchor, none)

def collectionTag (tag : Option Text) (kind : Tag) : Tag :=
  match tag with
  | some t => if t = "!" then kind else .ofText t
  | none => kind

/-- The tag of a scalar without one is told by its form, unless it is quoted. -/
def scalarTag (tag : Option Text) (text : Text) (plain : Bool) : Tag :=
  match tag with
  | some t => if t = "!" then formTag text else .ofText t
  | none => if plain then formTag text else .str

def emptyNode : M NodeId := addNode .null (.scalar [])

def atAny (tests : List Token) : M Bool := do
  return tests.contains (← peek)

mutual
/-- A node. In a block it may be a block collection, and behind a key also a sequence that is not
indented deeper. -/
def node (inBlock indentless : Bool) : Nat → M NodeId
  | 0 => malformed
  | n + 1 => do
    match ← peek with
    | .alias name => do
      skip
      match (← get).anchors.lookup name with
      | some id => return id
      | none => malformed
    | _ => do
      let (anchor, tag) ← properties
      let scalar (text : Text) (plain : Bool) : M NodeId := do
        checkAnchor anchor
        let id ← addNode (scalarTag tag text plain) (.scalar text)
        noteAnchor anchor id
        return id
      let sequence (tail : M (List NodeId)) : M NodeId := do
        checkAnchor anchor
        let id ← addNode (collectionTag tag .seq) (.sequence [])
        noteAnchor anchor id
        setShape id (.sequence (← tail))
        return id
      let mapping (tail : M (List (NodeId × NodeId))) : M NodeId := do
        checkAnchor anchor
        let id ← addNode (collectionTag tag .map) (.mapping [])
        noteAnchor anchor id
        setShape id (.mapping (← tail))
        return id
      let missing : M NodeId :=
        if anchor.isSome || tag.isSome then scalar [] true else malformed
      match ← peek with
      | .blockEntry => if indentless then sequence (indentlessItems n) else missing
      | .scalar text plain => do skip; scalar text plain
      | .flowSequenceStart => sequence do skip; flowItems true n
      | .flowMappingStart => mapping do skip; flowEntries true n
      | .blockSequenceStart => if inBlock then sequence do skip; blockItems n else missing
      | .blockMappingStart => if inBlock then mapping do skip; blockEntries n else missing
      | _ => missing

def blockItems : Nat → M (List NodeId)
  | 0 => malformed
  | n + 1 => do
    match ← peek with
    | .blockEntry => do
      skip
      let item ← if ← atAny [.blockEntry, .blockEnd] then emptyNode else node true false n
      return item :: (← blockItems n)
    | .blockEnd => do skip; return []
    | _ => malformed

def indentlessItems : Nat → M (List NodeId)
  | 0 => malformed
  | n + 1 => do
    match ← peek with
    | .blockEntry => do
      skip
      let item ← if ← atAny [.blockEntry, .key, .value, .blockEnd] then emptyNode
        else node true false n
      return item :: (← indentlessItems n)
    | _ => return []

def blockEntries : Nat → M (List (NodeId × NodeId))
  | 0 => malformed
  | n + 1 => do
    match ← peek with
    | .key => do
      skip
      let key ← if ← atAny [.key, .value, .blockEnd] then emptyNode else node true true n
      let value ← blockValue n
      return (key, value) :: (← blockEntries n)
    | .blockEnd => do skip; return []
    | _ => malformed

def blockValue : Nat → M NodeId
  | 0 => malformed
  | n + 1 => do
    match ← peek with
    | .value => do
      skip
      if ← atAny [.key, .value, .blockEnd] then emptyNode else node true true n
    | _ => emptyNode

/-- The items of a flow sequence; a key among them starts a mapping of one entry. -/
def flowItems (first : Bool) : Nat → M (List NodeId)
  | 0 => malformed
  | n + 1 => do
    unless first || (← peek) = .flowSequenceEnd do
      if (← peek) = .flowEntry then skip else malformed
    match ← peek with
    | .key => do
      let id ← addNode .map (.mapping [])
      skip
      let key ← if ← atAny [.value, .flowEntry, .flowSequenceEnd] then emptyNode
        else node false false n
      let value ← flowValue .flowSequenceEnd n
      setShape id (.mapping [(key, value)])
      return id :: (← flowItems false n)
    | .flowSequenceEnd => do skip; return []
    | _ => do
      let item ← node false false n
      return item :: (← flowItems false n)

/-- The entries of a flow mapping; an entry without a key sign has no value. -/
def flowEntries (first : Bool) : Nat → M (List (NodeId × NodeId))
  | 0 => malformed
  | n + 1 => do
    unless first || (← peek) = .flowMappingEnd do
      if (← peek) = .flowEntry then skip else malformed
    match ← peek with
    | .key => do
      skip
      let key ← if ← atAny [.value, .flowEntry, .flowMappingEnd] then emptyNode
        else node false false n
      let value ← flowValue .flowMappingEnd n
      return (key, value) :: (← flowEntries false n)
    | .flowMappingEnd => do skip; return []
    | _ => do
      let key ← node false false n
      let value ← emptyNode
      return (key, value) :: (← flowEntries false n)

def flowValue (closing : Token) : Nat → M NodeId
  | 0 => malformed
  | n + 1 => do
    match ← peek with
    | .value => do
      skip
      if ← atAny [.flowEntry, closing] then emptyNode else node false false n
    | _ => emptyNode
end

def defaultHandles : List (Text × Text) := [("!", "!"), ("!!", coreLead)]

/-- The directives in front of a document: one version of the first major number, and handles that
are given once each. -/
def directives : Nat → Bool → List (Text × Text) → M (List (Text × Text))
  | 0, _, _ => malformed
  | n + 1, versioned, handles => do
    match ← peek with
    | .directive (.version major _) => do
      skip
      if versioned || major ≠ 1 then malformed
      directives n true handles
    | .directive (.tagHandle handle expansion) => do
      skip
      if (handles.lookup handle).isSome then malformed
      directives n versioned ((handle, expansion) :: handles)
    | .directive .unknown => do skip; directives n versioned handles
    | _ => return handles

def skipDocumentEnds : Nat → M Unit
  | 0 => malformed
  | n + 1 => do
    match ← peek with
    | .documentEnd => do skip; skipDocumentEnds n
    | _ => return

def atDocumentEdge : M Bool := do
  match ← peek with
  | .directive _ => return true
  | .documentStart => return true
  | .documentEnd => return true
  | .streamEnd => return true
  | _ => return false

def explicitStart (n : Nat) : M Unit := do
  let handles ← directives n false []
  let extra := defaultHandles.filter fun h => (handles.lookup h.1).isNone
  modify fun s => { s with handles := handles ++ extra }
  if (← peek) = .documentStart then skip else malformed

def explicitContent (n : Nat) : M NodeId := do
  if ← atDocumentEdge then emptyNode else node true false n

/-- Nothing may follow the one document but its end marks. -/
def finish (n : Nat) : M Unit := do
  skipDocumentEnds n
  if (← peek) = .streamEnd then return
  else do
    explicitStart n
    malformed

/-- The one document of the stream; an empty stream has none. -/
def document (n : Nat) : M (Option NodeId) := do
  match ← peek with
  | .streamEnd => return none
  | .directive _ | .documentStart => do
    explicitStart n
    let root ← explicitContent n
    finish n
    return some root
  | _ => do
    let root ← node true false n
    finish n
    return some root

end Composer

def Graph.parse? (text : Text) : Except Fault (Option NodeId × Graph) :=
  let ts := tokens text
  let start : Composer := ⟨ts, Composer.defaultHandles, [], .empty⟩
  (Composer.document (4 * ts.length + 8) start).map fun r => (r.1, r.2.graph)

end ApiModel.Yaml

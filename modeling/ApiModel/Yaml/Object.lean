import ApiModel.Yaml.Content
import ApiModel.Yaml.Merge

/-! The objects that nodes stand for. A collection is made empty and filled later, in the order in
which collections were met, so that it may contain itself. -/
namespace ApiModel.Yaml

abbrev ObjectId := Nat

inductive Object where
  | scalar (v : Value)
  | list (items : List ObjectId)
  | map (entries : List (Value × ObjectId))
  | set (items : List Value)
  | pairs (items : List (ObjectId × ObjectId))
  deriving Inhabited

inductive Filling where
  | list
  | map
  | set
  | pairs
  deriving DecidableEq, Repr

def Filling.of? : Tag → Option Filling
  | .seq => some list
  | .map => some map
  | .set => some set
  | .omap => some pairs
  | .pairs => some pairs
  | _ => none

def Filling.empty : Filling → Object
  | list => .list []
  | map => .map []
  | set => .set []
  | pairs => .pairs []

structure Job where
  filling : Filling
  node : NodeId
  object : ObjectId

structure Builder where
  graph : Graph
  /-- How many merge keys the graph had at first. -/
  merges : Nat
  objects : Array Object
  /-- The object of each node that has one. -/
  made : Array (Option ObjectId)
  /-- All objects that were ever to be filled, in order. -/
  jobs : Array Job

namespace Builder

abbrev M := StateT Builder (Except Fault)

def start (g : Graph) : Builder :=
  ⟨g, g.mergeCount, #[], Array.replicate g.nodes.size none, #[]⟩

/-- The text of a node that has to be a scalar. A mapping may stand for the value of its equals
key. -/
def scalarText (g : Graph) : Nat → NodeId → Except Fault Text
  | 0, _ => .error .endless
  | n + 1, id =>
    match g.shape id with
    | .scalar text => .ok text
    | .mapping entries =>
      match entries.find? fun e => g.tag e.1 = .value with
      | some (_, value) => scalarText g n value
      | none => .error .malformed
    | .sequence _ => .error .malformed

def scalarValue (g : Graph) (id : NodeId) : Except Fault Value := do
  let tag := g.tag id
  if tag ∈ [.merge, .value, .unknown] then throw .malformed
  let text ← scalarText g (g.nodes.size + 1) id
  match tag, g.shape id with
  | .timestamp, .mapping _ => throw .timeMapping
  | _, _ => scalarContent id tag text

def object (id : NodeId) : M ObjectId := do
  let b ← get
  match b.made.getD id none with
  | some o => return o
  | none =>
    let o := b.objects.size
    let made := b.made.setIfInBounds id (some o)
    match Filling.of? (b.graph.tag id) with
    | some filling =>
      set { b with
        made
        objects := b.objects.push filling.empty
        jobs := b.jobs.push ⟨filling, id, o⟩ }
      return o
    | none =>
      let v ← scalarValue b.graph id
      set { b with made, objects := b.objects.push (.scalar v) }
      return o

/-- Entries put in one after the other; keys have to be scalars. -/
def entriesOf : List Graph.Entry → List (Value × ObjectId) → M (List (Value × ObjectId))
  | [], done => return done
  | (key, value) :: rest, done => do
    let k ← object key
    match (← get).objects.getD k default with
    | .scalar k => do
      let v ← object value
      entriesOf rest (Value.putKey k v done)
    | _ => throw .malformed

def mappingOf (id : NodeId) : M (List (Value × ObjectId)) := do
  let b ← get
  match b.graph.shape id with
  | .mapping _ => do
    let g ← b.graph.flatten b.merges id
    set { b with graph := g }
    entriesOf (g.entries id) []
  | _ => throw .malformed

def pairsOf : List NodeId → M (List (ObjectId × ObjectId))
  | [] => return []
  | item :: rest => do
    match (← get).graph.shape item with
    | .mapping [(key, value)] => do
      let k ← object key
      let v ← object value
      return (k, v) :: (← pairsOf rest)
    | _ => throw .malformed

def itemsOf (id : NodeId) : M (List NodeId) := do
  match (← get).graph.shape id with
  | .sequence items => return items
  | _ => throw .malformed

def fill (job : Job) : M Unit := do
  let content ← match job.filling with
    | .list => do pure (Object.list (← (← itemsOf job.node).mapM object))
    | .map => do pure (Object.map (← mappingOf job.node))
    | .set => do pure (Object.set ((← mappingOf job.node).map Prod.fst))
    | .pairs => do pure (Object.pairs (← pairsOf (← itemsOf job.node)))
  modify fun b => { b with objects := b.objects.setIfInBounds job.object content }

/-- Fills objects from some place in the order on; every node has one object, so the number of nodes
bounds the steps. -/
def fillFrom : Nat → Nat → M Unit
  | 0, _ => return
  | n + 1, place => do
    match (← get).jobs[place]? with
    | some job => do
      fill job
      fillFrom n (place + 1)
    | none => return

end Builder

def objectsOf (root : NodeId) (g : Graph) : Except Fault (ObjectId × Array Object) := do
  let build : Builder.M ObjectId := do
    let o ← Builder.object root
    Builder.fillFrom (g.nodes.size + 1) 0
    return o
  let (o, b) ← build (Builder.start g)
  return (o, b.objects)

/-- A collection on the way from the root: an object, or one of its pairs. -/
structure Station where
  object : ObjectId
  pair : Option Nat
  deriving DecidableEq

/-- The value of an object inside the collections of a way. A collection that stands on the way is a
loop. Outside of pairs a pair starts a way of its own, since nothing looks into it from outside. -/
def unroll (objects : Array Object) (inPair : Bool) (way : List Station) : Nat → ObjectId → Value
  | 0, _ => .null
  | n + 1, o =>
    let loop? := fun (kind : Collection) (s : Station) =>
      (way.findIdx? (· = s)).map fun i => Value.loop kind (i + 1)
    let here : Station := ⟨o, none⟩
    match objects.getD o default with
    | .scalar v => v
    | .set items => .set items
    | .list items =>
      (loop? .list here).getD (.list (items.map (unroll objects inPair (here :: way) n)))
    | .map entries =>
      (loop? .map here).getD
        (.map (entries.map fun e => (e.1, unroll objects inPair (here :: way) n e.2)))
    | .pairs items =>
      (loop? .list here).getD (.list (items.mapIdx fun i item =>
        let station : Station := ⟨o, some i⟩
        let outside := if inPair then here :: way else []
        match outside.findIdx? (· = station) with
        | some i => .loop .pair (i + 1)
        | none =>
          let inner := unroll objects true (station :: outside) n
          .pair (inner item.1) (inner item.2)))

/-- Collections on a way are told apart, so their number bounds its length. -/
def wayLimit (objects : Array Object) : Nat :=
  1 + objects.foldl (fun count o =>
    match o with
    | .pairs items => count + items.length + 1
    | _ => count + 1) 0

end ApiModel.Yaml

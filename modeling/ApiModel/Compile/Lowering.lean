import ApiModel.Compile.Members
import ApiModel.Compile.Primitive
import ApiModel.Container.Traced
import ApiModel.Model.Naming
import ApiModel.Model.Registry
import ApiModel.Notice

/-! Lowering turns the tree of a schema into flat entries of the registries, under names made from
the place of each part. It reads no registry: it only says what to write, in order. -/
namespace ApiModel

inductive Effect where
  | field (name : Text) (value : Field)
  | structure (name : Text) (value : Structure)
  | notice (value : Notice)

/-- The registry after an effect; a name that is written again keeps its place. -/
def Registry.apply (r : Registry) : Effect → Registry
  | .field name f => { r with fields := r.fields.insert name f }
  | .structure name s => { r with structures := r.structures.insert name s }
  | .notice _ => r

def Registry.applyAll (r : Registry) (effects : List Effect) : Registry :=
  effects.foldl Registry.apply r

def Effect.notices (effects : List Effect) : List Notice :=
  effects.filterMap fun
    | .notice n => some n
    | _ => none

namespace Compile

abbrev Lowering := Traced Effect BuildError

def writeField (name : Text) (f : Field) : Lowering Unit := .emit (.field name f)

def writeStructure (name : Text) (s : Structure) : Lowering Unit := .emit (.structure name s)

def note (n : Notice) : Lowering Unit := .emit (.notice n)

def refuse {α : Type} (construct : Construct) (location : Text) : Lowering α :=
  .fail (.unsupported construct location)

def newMember (type : Text) (required : Bool) (documentation : Option Text) : Member :=
  ⟨type, 0, required, none, documentation⟩

def inOrder : List (Text × Lowering Member) → Lowering (List (Text × Member))
  | [] => pure []
  | (key, part) :: rest => do
    let member ← part
    let more ← inOrder rest
    return (key, member) :: more

/-- Lowers the parts in the order of their names and numbers them by that order; of several parts
with one name the last counts. -/
def gather (parts : List (Text × Lowering Member)) : Lowering (List (Text × Member)) := do
  let members ← inOrder (OrderedMap.ofList parts).sortedEntries
  return Members.numberFrom 0 members

def structureOf (members : List (Text × Member)) (documentation : Option Text) : Structure :=
  ⟨OrderedMap.ofList members, documentation⟩

def mapValueType? : Schema → Option Text
  | .string _ _ => some "String"
  | .reference name _ => some name
  | _ => none

def lowerMap (name : Text) (values : Schema) : Lowering Unit :=
  match mapValueType? values with
  | some type => writeField name (.map "String" type .unbounded)
  | none => refuse (.mapValue values.kindWord) name

/-- How members are taken from a named schema that is a branch of a union: given the name of the
union, the name that stands in front of the members' own, and the name of the schema. -/
abbrev Crossing := Text → Text → Text → Lowering (List (Text × Member))

mutual
/-- Lowers a schema under a proposed name and returns the name that it got. -/
def lowerSchema (override : ModelOverride) (cross : Crossing) (name : Text) :
    Schema → Lowering Text
  | .object _ _ _ (some values) => do
    lowerMap name values
    note (.lowered "object" name)
    return name
  | .object notes required properties none => do
    let members ← gather (lowerProperties override cross name required properties)
    writeStructure name (structureOf members notes.description)
    note (.lowered "object" name)
    return name
  | .array _ _ none => refuse .listWithoutItems name
  | .array _ length (some (.reference element _)) => do
    writeField name (.list element length)
    note (.lowered "array" name)
    return name
  | .array _ length (some items) => do
    let names := Naming.listNames name
    let element ← lowerSchema override cross names.element items
    writeField names.container (.list element length)
    note (.lowered "array" names.container)
    return names.container
  | .union kind description branches => do
    let members ← lowerBranches override cross name 1 branches
    writeStructure name ⟨Members.renumber (.ofList members), description⟩
    note (.lowered kind.word name)
    return name
  | .reference _ _ => do
    note (.lowered "reference" name)
    return name
  | .negation _ => refuse .negation name
  | .fragment _ => refuse .fragment name
  | schema => do
    let field ← .ofExcept (primitiveField override name schema)
    writeField name field
    note (.lowered schema.kindWord name)
    return name

/-- The members of an object's properties, in the order in which these are declared. A reference is
used by its name; any other property is lowered under a name of its own. -/
def lowerProperties (override : ModelOverride) (cross : Crossing) (enclosing : Text)
    (required : List Text) : List (Text × Schema) → List (Text × Lowering Member)
  | [] => []
  | (key, .reference name description) :: rest =>
    (key, pure (newMember name (required.contains key) description)) ::
      lowerProperties override cross enclosing required rest
  | (key, schema) :: rest =>
    (key, do
      let type ← lowerSchema override cross (Naming.partName enclosing key) schema
      return newMember type (required.contains key) schema.description) ::
      lowerProperties override cross enclosing required rest

def lowerBranches (override : ModelOverride) (cross : Crossing) (name : Text) (n : Nat) :
    List Schema → Lowering (List (Text × Member))
  | [] => pure []
  | .reference target _ :: rest => do
    let first ← cross name (name ++ toString n) target
    let more ← lowerBranches override cross name (n + 1) rest
    return first ++ more
  | .object _ required properties none :: rest => do
    let first ← gather (lowerProperties override cross (name ++ toString n) required properties)
    let more ← lowerBranches override cross name (n + 1) rest
    return first ++ more
  | branch :: _ => refuse (.unionBranch branch.kindWord) name
end

structure Context where
  override : ModelOverride
  components : OrderedMap Schema

/-- Takes members from a named object. A name is pending until the way down has crossed it; a union
that comes back to a name would never end. -/
def crossing (context : Context) (pending : List Text) (union enclosing target : Text) :
    Lowering (List (Text × Member)) :=
  match context.components.get? target with
  | none => .fail (.unknownType target (some union))
  | some (.object _ required properties none) =>
    if _h : target ∈ pending then
      gather (lowerProperties context.override (crossing context (pending.erase target)) enclosing
        required properties)
    else
      .fail (.endlessUnion union)
  | some schema => refuse (.unionBranch schema.kindWord) union
termination_by pending.length
decreasing_by
  rw [List.length_erase_of_mem _h]
  have := List.length_pos_of_mem _h
  omega

def Context.cross (context : Context) : Crossing :=
  crossing context context.components.keys

/-- Lowers a schema under a proposed name; only lists may get another one. -/
def lower (context : Context) (name : Text) (schema : Schema) : Lowering Text :=
  lowerSchema context.override context.cross name schema

/-- The structure of an object's properties, which is not written itself. -/
def lowerObject (context : Context) (name : Text) (description : Option Text)
    (required : List Text) (properties : List (Text × Schema)) : Lowering Structure := do
  let members ←
    gather (lowerProperties context.override context.cross name required properties)
  return structureOf members description

end Compile

end ApiModel

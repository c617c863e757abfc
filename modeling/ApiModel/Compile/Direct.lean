import ApiModel.Compile.Progress

/-! Lowering straight into a model. A type goes into its registry as soon as its parts are there, so
what was written before a failure stays. The members of a structure are collected on the way. -/
namespace ApiModel.Compile.Direct

def putField (name : Text) (f : Field) : Build Unit := do
  let r ← currentRegistry
  setRegistry { r with fields := r.fields.insert name f }

def putStructure (name : Text) (s : Structure) : Build Unit := do
  let r ← currentRegistry
  setRegistry { r with structures := r.structures.insert name s }

def refuse {α : Type} (construct : Construct) (location : Text) : Build α :=
  throw (.unsupported construct location)

def addMembers : List (Text × Build Member) → Nat → OrderedMap Member → Build (OrderedMap Member)
  | [], _, members => return members
  | (key, part) :: rest, position, members => do
    let member ← part
    addMembers rest (position + 1) (members.insert key { member with position })

/-- Lowers parts in the order of their names; of several with one name the last counts. -/
def addSorted (parts : List (Text × Build Member)) (members : OrderedMap Member) :
    Build (OrderedMap Member) :=
  addMembers (OrderedMap.ofList parts).sortedEntries 0 members

/-- Adds the members of a named schema that is a branch of a union: given the name of the union, the
name that stands in front of the members' own, and the name of the schema. -/
abbrev Crossing := Text → Text → Text → OrderedMap Member → Build (OrderedMap Member)

def lowerMap (name : Text) (values : Schema) : Build Unit :=
  match mapValueType? values with
  | some type => putField name (.map "String" type .unbounded)
  | none => refuse (.mapValue values.kindWord) name

mutual
def lowerSchema (override : ModelOverride) (cross : Crossing) (name : Text) : Schema → Build Text
  | .object _ _ _ (some values) => do
    lowerMap name values
    report (.lowered "object" name)
    return name
  | .object notes required properties none => do
    let members ← addSorted (propertyParts override cross name required properties) .empty
    putStructure name ⟨members, notes.description⟩
    report (.lowered "object" name)
    return name
  | .array _ _ none => refuse .listWithoutItems name
  | .array _ length (some (.reference element _)) => do
    putField name (.list element length)
    report (.lowered "array" name)
    return name
  | .array _ length (some items) => do
    let names := Naming.listNames name
    let element ← lowerSchema override cross names.element items
    putField names.container (.list element length)
    report (.lowered "array" names.container)
    return names.container
  | .union kind description branches => do
    let members ← addBranches override cross name 1 branches .empty
    putStructure name ⟨Members.renumber members, description⟩
    report (.lowered kind.word name)
    return name
  | .reference _ _ => do
    report (.lowered "reference" name)
    return name
  | .negation _ => refuse .negation name
  | .fragment _ => refuse .fragment name
  | schema => do
    let field ← primitiveField override name schema
    putField name field
    report (.lowered schema.kindWord name)
    return name

def propertyParts (override : ModelOverride) (cross : Crossing) (enclosing : Text)
    (required : List Text) : List (Text × Schema) → List (Text × Build Member)
  | [] => []
  | (key, .reference name description) :: rest =>
    (key, return newMember name (required.contains key) description) ::
      propertyParts override cross enclosing required rest
  | (key, schema) :: rest =>
    (key, do
      let type ← lowerSchema override cross (Naming.partName enclosing key) schema
      return newMember type (required.contains key) schema.description) ::
      propertyParts override cross enclosing required rest

def addBranches (override : ModelOverride) (cross : Crossing) (name : Text) (n : Nat) :
    List Schema → OrderedMap Member → Build (OrderedMap Member)
  | [], members => return members
  | .reference target _ :: rest, members => do
    let members ← cross name (name ++ toString n) target members
    addBranches override cross name (n + 1) rest members
  | .object _ required properties none :: rest, members => do
    let members ←
      addSorted (propertyParts override cross (name ++ toString n) required properties) members
    addBranches override cross name (n + 1) rest members
  | branch :: _, _ => refuse (.unionBranch branch.kindWord) name
end

/-- Adds the members of a named object. A name is pending until the way down has crossed it. -/
def crossing (context : Context) (pending : List Text) (union enclosing target : Text)
    (members : OrderedMap Member) : Build (OrderedMap Member) :=
  match context.components.get? target with
  | none => throw (.unknownType target (some union))
  | some (.object _ required properties none) =>
    if _h : target ∈ pending then
      addSorted (propertyParts context.override (crossing context (pending.erase target)) enclosing
        required properties) members
    else
      throw (.endlessUnion union)
  | some schema => refuse (.unionBranch schema.kindWord) union
termination_by pending.length
decreasing_by
  rw [List.length_erase_of_mem _h]
  have := List.length_pos_of_mem _h
  omega

def lower (context : Context) (name : Text) (schema : Schema) : Build Text :=
  lowerSchema context.override (crossing context context.components.keys) name schema

/-- Runs a step on an empty model and commits the types that it leaves there. -/
def inScratch {α : Type} (step : Build α) : Build α := do
  let (result, scratch) := step.run.run ⟨.empty, []⟩
  reportAll scratch.notices
  let a ← result
  commitTypes scratch.model.registry
  return a

end ApiModel.Compile.Direct

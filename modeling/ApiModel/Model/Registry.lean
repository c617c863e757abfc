import ApiModel.Compile.Error
import ApiModel.Model.EmittedName
import ApiModel.Model.Field
import ApiModel.Model.Structure

/-! The two registries of types, by name: fields and structures. -/
namespace ApiModel

structure Registry where
  fields : OrderedMap Field
  structures : OrderedMap Structure
  deriving Inhabited

inductive TypeEntry where
  | field (f : Field)
  | structure (s : Structure)

namespace Registry

def empty : Registry := ⟨.empty, .empty⟩

instance : EmptyCollection Registry := ⟨empty⟩

/-- The entry under a name; a field comes before a structure. -/
def lookup (r : Registry) (name : Text) : Option TypeEntry :=
  match r.fields.get? name with
  | some f => some (.field f)
  | none => (r.structures.get? name).map .structure

def resolves (r : Registry) (name : Text) : Bool :=
  isBuiltin name || (r.lookup name).isSome

def resolve (r : Registry) (name : Text) (referrer : Option Text) :
    Except BuildError TypeEntry :=
  match r.lookup name with
  | some entry => .ok entry
  | none => .error (.unknownType name referrer)

/-- References of structures, by name and position: the member that refers, and the type. -/
def structureReferences (r : Registry) : List (Text × Text) :=
  r.structures.sortedEntries.flatMap fun (name, s) =>
    s.orderedMembers.map fun (member, m) => (name ++ "." ++ member, m.valueType)

def fieldReferences (r : Registry) : List (Text × Text) :=
  r.fields.sortedEntries.flatMap fun (name, f) => f.referred.map (name, ·)

def dangling (r : Registry) : List (Text × Text) :=
  (r.structureReferences ++ r.fieldReferences).filter fun e => !r.resolves e.2

def checkReferences (r : Registry) : Except BuildError Unit :=
  match r.dangling with
  | [] => .ok ()
  | (owner, name) :: _ => .error (.unknownType name (some owner))

/-- Names in order, fields first, each with the word for its kind; structures have none. -/
def namedKinds (r : Registry) : List EmittedName.Entry :=
  (r.fields.sortedEntries.map fun (name, f) => ⟨name, f.typeWord⟩)
    ++ r.structures.sortedKeys.map fun name => ⟨name, ""⟩

def typeMappings (r : Registry) : OrderedMap Text :=
  EmittedName.mappings r.namedKinds

end Registry

end ApiModel

import ApiModel.Document.Display
import ApiModel.Text.Encoding

/-! Faults of data that does not fit the type it is read as. Reading goes on behind a fault, so that
all of them are reported, in the order of the fields. -/
namespace ApiModel.Validation

inductive Step where
  | name (text : Text)
  | index (n : Int)
  deriving DecidableEq, Repr

/-- Integers of the machine's size lie below this bound and not below its negative. -/
def machineBound : Int := 0x8000000000000000

def Step.ofKey : Value → Step
  | .str s => name s.lossy
  | v =>
    match v.asInt? with
    | some n => if -machineBound ≤ n ∧ n < machineBound then index n else name v.inner
    | none => name v.inner

inductive Flaw where
  | notText
  | notUnicode
  | notInteger
  | integerForm
  | integerSize
  | fraction
  | notFinite
  | notNumber
  | numberForm
  | notTruth
  | truthForm
  | notList
  | notSet
  | notMapping
  | notRecord
  | notTagged
  | missing
  | otherLiteral
  | otherChoice
  | noTag
  | unknownTag
  deriving DecidableEq, Repr

structure Fault where
  path : List Step
  flaw : Flaw
  deriving DecidableEq, Repr

inductive Subject where
  | schema
  | parameter
  | header
  | requestBody
  | response
  | operation
  | info
  | server
  | document
  | lengthRange
  | numericRange
  | enumerationValue
  | stringField
  | integerField
  | longField
  | doubleField
  | booleanField
  | timestampField
  | binaryField
  | listField
  | mapField
  | field
  | member
  | structureDescription
  | inputDescription
  | outputDescription
  | operationError
  | operationDescription
  | serviceInformation
  | serviceModel
  | enumerationNaming
  | rawTypeOverride
  | modelOverride
  | settings
  deriving DecidableEq, Repr

structure Rejection where
  subject : Subject
  faults : List Fault
  deriving DecidableEq, Repr

inductive Checked (α : Type) where
  | accepted (value : α)
  | refused (faults : List Fault)

namespace Checked

variable {α β : Type}

/-- Both parts are read; their faults add up. -/
instance : Applicative Checked where
  pure := accepted
  seq f x :=
    match f, x () with
    | accepted f, accepted a => accepted (f a)
    | accepted _, refused faults => refused faults
    | refused faults, accepted _ => refused faults
    | refused faults, refused more => refused (faults ++ more)

def flawed (flaw : Flaw) : Checked α := refused [⟨[], flaw⟩]

def under (step : Step) : Checked α → Checked α
  | accepted a => accepted a
  | refused faults => refused (faults.map fun f => { f with path := step :: f.path })

def all : List (Checked α) → Checked (List α)
  | [] => accepted []
  | c :: rest => List.cons <$> c <*> all rest

def toExcept (subject : Subject) : Checked α → Except Rejection α
  | accepted a => .ok a
  | refused faults => .error ⟨subject, faults⟩

end Checked

end ApiModel.Validation

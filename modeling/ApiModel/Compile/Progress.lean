import ApiModel.Compile.Lowering
import ApiModel.Model.Service

/-! Building step by step. What was written before a failure stays written. -/
namespace ApiModel

namespace Registry

def conflict? {α : Type} (same : α → α → Bool) (new old : OrderedMap α) : Option Text :=
  (new.entries.find? fun e =>
    match old.get? e.1 with
    | some known => !same known e.2
    | none => false).map Prod.fst

/-- Adds entries to a registry, unless a name already stands for something else. -/
def commit (r new : Registry) : Except BuildError Registry :=
  match conflict? Field.same new.fields r.fields with
  | some name => .error (.ambiguous name)
  | none =>
    match conflict? Structure.same new.structures r.structures with
    | some name => .error (.ambiguous name)
    | none => .ok ⟨r.fields.update new.fields, r.structures.update new.structures⟩

end Registry

namespace Compile

structure Progress where
  model : ServiceModel
  notices : List Notice

abbrev Build := ExceptT BuildError (StateM Progress)

def report (n : Notice) : Build Unit :=
  modify fun p => { p with notices := p.notices ++ [n] }

def reportAll (ns : List Notice) : Build Unit :=
  modify fun p => { p with notices := p.notices ++ ns }

def currentRegistry : Build Registry := do
  return (← get).model.registry

def setRegistry (r : Registry) : Build Unit :=
  modify fun p => { p with model := { p.model with registry := r } }

def perform {α : Type} (work : Lowering α) : Build α := do
  setRegistry ((← currentRegistry).applyAll work.trace)
  reportAll (Effect.notices work.trace)
  work.result

def commitTypes (new : Registry) : Build Unit := do
  setRegistry (← (← currentRegistry).commit new)

/-- Lowers into an empty registry and commits its entries. -/
def performChecked {α : Type} (work : Lowering α) : Build α := do
  reportAll (Effect.notices work.trace)
  let result ← work.result
  commitTypes (Registry.empty.applyAll work.trace)
  return result

end Compile

end ApiModel

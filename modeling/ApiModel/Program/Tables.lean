import ApiModel.Model.Service

/-! Models as tables, one row for each operation or type, by name. -/
namespace ApiModel

def Tables.cell (text : Text) : Text := if text = "" then "-" else text

namespace OperationDescription

def row (name : Text) (operation : OperationDescription) : List Text :=
  [name, Tables.cell (operation.httpVerb.getD ""), Tables.cell (operation.httpUrl.getD ""),
    Tables.cell (operation.input.getD ""), Tables.cell (operation.output.getD ""),
    Tables.cell (Text.join ", "
      (operation.errors.map fun e => e.typeName ++ " (" ++ .ofInt e.code ++ ")"))]

end OperationDescription

namespace Structure

def memberSummary (s : Structure) : Text :=
  let names := s.orderedMembers.map Prod.fst
  Text.join ", " (names.take 5) ++ (if 5 < names.length then "..." else "")

end Structure

namespace ServiceModel

def operationHeaders : List Text := ["Operation", "Verb", "URL", "Input", "Output", "Errors"]

def operationRows (m : ServiceModel) : List (List Text) :=
  m.operations.sortedEntries.map fun (name, operation) => operation.row name

def typeHeaders : List Text := ["Type", "Kind", "Emitted As", "Details"]

def typeNames (m : ServiceModel) : List Text :=
  (TextSet.ofList (m.registry.fields.keys ++ m.registry.structures.keys)).members

def typeCells : TypeEntry → Text × Text
  | .structure s => ("Structure", s.memberSummary)
  | .field f => (f.typeWord, "")

def typeRow (m : ServiceModel) (name : Text) : List Text :=
  let (kind, details) := ((m.registry.lookup name).map typeCells).getD ("", "")
  let marker := if m.errorTypes.contains name then " (error)" else ""
  [name ++ marker, kind, m.emittedName name, Tables.cell details]

def typeRows (m : ServiceModel) : List (List Text) := m.typeNames.map m.typeRow

end ServiceModel

end ApiModel

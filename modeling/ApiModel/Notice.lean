import ApiModel.Text.Basic

/-! What a run reports about its work, for the log. -/
namespace ApiModel

inductive Level where
  | debug
  | info
  | warning
  deriving DecidableEq, Repr

def Level.word : Level → Text
  | debug => "DEBUG"
  | info => "INFO"
  | warning => "WARNING"

inductive Notice where
  | loaded (characters : Nat) (source : Text)
  | notJson (detail : Text)
  | newerVersion (version : Text)
  | extracted (schemas operations : Nat)
  | lowered (kind name : Text)
  | ignoredOperation (operation method : Text)
  | ignoredRequestHeader (operation header : Text)
  | ignoredResponseHeader (operation : Text) (code : Int) (header : Text)
  | skippedDefault (operation : Text)
  | decomposed (operation : Text) (input output : Option Text) (errors : Nat)
  | unnamedOperation (method path : Text)
  | repeatedOperation (operation : Text)
  | built (fields structures operations : Nat)
  | overrideLoaded (path : Text)
  deriving DecidableEq, Repr

namespace Notice

def level : Notice → Level
  | newerVersion _ => .warning
  | unnamedOperation _ _ => .warning
  | repeatedOperation _ => .warning
  | ignoredOperation _ _ => .info
  | skippedDefault _ => .info
  | built _ _ _ => .info
  | _ => .debug

def source : Notice → Text
  | loaded _ _ => "specmodel.parser.loader"
  | notJson _ => "specmodel.parser.loader"
  | newerVersion _ => "specmodel.parser.loader"
  | extracted _ _ => "specmodel.parser.extractor"
  | lowered _ _ => "specmodel.compiler.lowering"
  | ignoredOperation _ _ => "specmodel.compiler.filters"
  | ignoredRequestHeader _ _ => "specmodel.compiler.filters"
  | ignoredResponseHeader _ _ _ => "specmodel.compiler.filters"
  | skippedDefault _ => "specmodel.compiler.decomposer"
  | decomposed _ _ _ _ => "specmodel.compiler.decomposer"
  | unnamedOperation _ _ => "specmodel.compiler.builder"
  | repeatedOperation _ => "specmodel.compiler.builder"
  | built _ _ _ => "specmodel.compiler.builder"
  | overrideLoaded _ => "specmodel.config"

def message : Notice → Text
  | loaded characters source => "Loaded " ++ .ofNat characters ++ " characters from " ++ source
  | notJson detail => "Not JSON (" ++ detail ++ "), trying YAML"
  | newerVersion version => "OpenAPI " ++ version ++ " is newer than 3.1; treating it as 3.1"
  | extracted schemas operations =>
    "Extracted " ++ .ofNat schemas ++ " schemas and " ++ .ofNat operations ++ " operations"
  | lowered kind name => "Lowered " ++ kind ++ " schema as " ++ name
  | ignoredOperation operation method => "Ignoring operation " ++ operation ++ " (" ++ method ++ ")"
  | ignoredRequestHeader operation header =>
    "Ignoring request header " ++ header ++ " of " ++ operation
  | ignoredResponseHeader operation code header =>
    "Ignoring response header " ++ header ++ " of " ++ operation ++ " (" ++ .ofInt code ++ ")"
  | skippedDefault operation => "Skipping default response of " ++ operation
  | decomposed operation input output errors =>
    let shown := fun (name : Option Text) => name.getD "None"
    "Decomposed " ++ operation ++ ": input=" ++ shown input ++ " output=" ++ shown output
      ++ " errors=" ++ .ofNat errors
  | unnamedOperation method path => "Skipping " ++ method ++ " " ++ path ++ ": no operationId"
  | repeatedOperation operation => "Duplicate operationId " ++ operation ++ "; keeping the last one"
  | built fields structures operations =>
    "Built service model: " ++ .ofNat fields ++ " fields, " ++ .ofNat structures
      ++ " structures, " ++ .ofNat operations ++ " operations"
  | overrideLoaded path => "Loaded model override from " ++ path

def line (n : Notice) : Text :=
  n.level.word ++ " " ++ n.source ++ ": " ++ n.message

end Notice

end ApiModel

import ApiModel.Text.Basic

/-! Why a description cannot be compiled. -/
namespace ApiModel

inductive Construct where
  | negation
  | fragment
  | mapValue (kind : Text)
  | listWithoutItems
  | unionBranch (kind : Text)
  | notPrimitive (kind : Text)
  | cookieParameter
  | parameterWithoutSchema
  | parameterType (kind : Text)
  | requestBody (kind : Text)
  | responseBody (kind : Text)
  | responseCode (status : Text)
  deriving DecidableEq, Repr

namespace Construct

def text : Construct → Text
  | negation => "'not' schema"
  | fragment => "untyped schema fragment"
  | mapValue kind => "map value of kind '" ++ kind ++ "'"
  | listWithoutItems => "array without 'items'"
  | unionBranch kind => "non-object union branch (" ++ kind ++ ")"
  | notPrimitive kind => kind ++ " schema where a primitive is required"
  | cookieParameter => "cookie parameter"
  | parameterWithoutSchema => "parameter without a schema"
  | parameterType kind => kind ++ " parameter type"
  | requestBody _ => "non-object request body"
  | responseBody _ => "non-object response body"
  | responseCode status => "response code '" ++ status ++ "'"

def detail? : Construct → Option Text
  | mapValue _ => some "only string and reference values are supported"
  | requestBody kind => some ("schema kind is '" ++ kind ++ "'")
  | responseBody kind => some ("schema kind is '" ++ kind ++ "'")
  | _ => none

end Construct

inductive BuildError where
  | unsupported (construct : Construct) (location : Text)
  /-- A name stands for two different response types. -/
  | ambiguous (name : Text)
  /-- A name stands for no type; the referrer is where it was met. -/
  | unknownType (name : Text) (referrer : Option Text)
  /-- A union that contains itself through a named object. -/
  | endlessUnion (name : Text)
  deriving DecidableEq, Repr

namespace BuildError

def message : BuildError → Text
  | unsupported construct location =>
    "Unsupported " ++ construct.text ++ " at '" ++ location ++ "'"
      ++ (construct.detail?.map fun (detail : Text) => ": " ++ detail).getD []
  | ambiguous name => "Type '" ++ name ++ "' is produced twice with different shapes "
    ++ "(two different response types share this synthetic name)"
  | unknownType name referrer =>
    "Unknown type '" ++ name ++ "'"
      ++ ((referrer.filter (!·.isEmpty)).map fun (place : Text) =>
        " referenced from '" ++ place ++ "'").getD []
  | endlessUnion name => "Union '" ++ name ++ "' contains itself"

def exitCode : BuildError → Nat
  | unsupported _ _ => 8
  | ambiguous _ => 9
  | unknownType _ _ => 10
  | endlessUnion _ => 1

end BuildError

end ApiModel

/-! What can be wrong with YAML text: its form, or the content of one of its scalars. -/
namespace ApiModel.Yaml

inductive Fault where
  /-- The text is not well formed, or a node does not fit its tag. -/
  | malformed
  /-- An escape names a number that is no character. -/
  | characterRange
  /-- An escape names a number beyond machine integers. -/
  | characterOverflow
  /-- A number, date or time has parts out of range. -/
  | scalarRange
  /-- A number without any character. -/
  | emptyNumber
  /-- A truth value that is not one of the words. -/
  | unknownWord
  /-- A point in time that does not read as one. -/
  | notTime
  /-- A point in time written as a mapping. -/
  | timeMapping
  /-- A number in sixties with more groups than a decimal can weigh. -/
  | groupOverflow
  /-- A node that contains itself. -/
  | endless
  deriving DecidableEq, Repr

end ApiModel.Yaml

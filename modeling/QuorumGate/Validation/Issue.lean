/-!
# Validation issues

What is wrong with an input, and where: the path leads from the whole input to the part at fault.
-/

namespace QuorumGate

/-- One step down into a value. -/
inductive Step where
  | key (name : String)
  | index (i : Nat)
  deriving DecidableEq, Repr

inductive IssueKind where
  | missing
  | notAnObject
  | notABody
  | notAText
  | notAList
  | notAnInt
  | badIntText
  | fractionalInt
  | infiniteInt
  | oversizedInt
  | notAFloat
  | badFloatText
  | notABool
  | badBoolText
  | notAMember
  | notALiteral
  | notAnInstant
  | badInstant
  | notAbove
  | notAtLeast
  | notAtMost
  | badPattern
  | badUnicode
  | badJson
  deriving DecidableEq, Repr

/-- The word by which an issue is reported. -/
def IssueKind.code : IssueKind → String
  | missing => "missing"
  | notAnObject => "model_type"
  | notABody => "model_attributes_type"
  | notAText => "string_type"
  | notAList => "list_type"
  | notAnInt => "int_type"
  | badIntText => "int_parsing"
  | fractionalInt => "int_from_float"
  | infiniteInt => "finite_number"
  | oversizedInt => "int_parsing_size"
  | notAFloat => "float_type"
  | badFloatText => "float_parsing"
  | notABool => "bool_type"
  | badBoolText => "bool_parsing"
  | notAMember => "enum"
  | notALiteral => "literal_error"
  | notAnInstant => "datetime_type"
  | badInstant => "datetime_parsing"
  | notAbove => "greater_than"
  | notAtLeast => "greater_than_equal"
  | notAtMost => "less_than_equal"
  | badPattern => "string_pattern_mismatch"
  | badUnicode => "string_unicode"
  | badJson => "json_invalid"

structure Issue where
  path : List Step
  kind : IssueKind
  deriving DecidableEq, Repr

namespace Issue

/-- The issue as seen from one step further out. -/
def under (s : Step) (i : Issue) : Issue := { i with path := s :: i.path }

/-- How many issues a record of the named kind has. -/
def summary (model : String) (issues : List Issue) : String :=
  let noun := if issues.length = 1 then "error" else "errors"
  s!"{issues.length} validation {noun} for {model}"

end Issue

end QuorumGate

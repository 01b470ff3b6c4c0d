import ShardAtlas.Text.Numeral

namespace ShardAtlas.Payload

/-!
# What is wrong with a document

An issue names a place in a document and a fault found there. A document that
does not have its shape is reported with all its issues in order.
-/

/-- One step on the way from a document to a place in it. -/
inductive Step
  | member (name : String)
  | item (position : Nat)
  deriving Repr, DecidableEq

/-- A step as text. -/
def Step.text :
    Step →
    String
  | .member name => name
  | .item position => Nat.repr position

/-- What can be wrong with a value. -/
inductive Fault
  | missing
  | notObject (expected : String)
  | notList
  | notDictionary
  | notText
  | emptyText
  | unpairedText
  | notInteger
  | unreadableInteger
  | fractionalInteger
  | oversizedInteger
  | notFinite
  | belowMinimum (minimum : Int)
  | notBoolean
  | unreadableBoolean
  | noChoice (choices : List String)
  | refused (reason : String)
  | notPath
  | unknownName
  deriving Repr, DecidableEq

/-- Quoted choices with commas, and a word before the last one. -/
def listedChoices :
    List String →
    String
  | [] =>
      ""
  | [only] =>
      "'" ++ only ++ "'"
  | [first, last] =>
      "'" ++ first ++ "' or '" ++ last ++ "'"
  | first :: rest =>
      "'" ++ first ++ "', " ++ listedChoices rest

namespace Fault

/-- The code of a fault. -/
def code :
    Fault →
    String
  | .missing => "missing"
  | .notObject _ => "model_type"
  | .notList => "list_type"
  | .notDictionary => "dict_type"
  | .notText => "string_type"
  | .emptyText => "string_too_short"
  | .unpairedText => "string_unicode"
  | .notInteger => "int_type"
  | .unreadableInteger => "int_parsing"
  | .fractionalInteger => "int_from_float"
  | .oversizedInteger => "int_parsing_size"
  | .notFinite => "finite_number"
  | .belowMinimum _ => "greater_than_equal"
  | .notBoolean => "bool_type"
  | .unreadableBoolean => "bool_parsing"
  | .noChoice _ => "enum"
  | .refused _ => "value_error"
  | .notPath => "path_type"
  | .unknownName => "extra_forbidden"

/-- The text of a fault. -/
def message :
    Fault →
    String
  | .missing => "Field required"
  | .notObject expected =>
      "Input should be a valid dictionary or instance of " ++ expected
  | .notList => "Input should be a valid list"
  | .notDictionary => "Input should be a valid dictionary"
  | .notText => "Input should be a valid string"
  | .emptyText => "String should have at least 1 character"
  | .unpairedText =>
      "Input should be a valid string, unable to parse raw data as a unicode string"
  | .notInteger => "Input should be a valid integer"
  | .unreadableInteger =>
      "Input should be a valid integer, unable to parse string as an integer"
  | .fractionalInteger =>
      "Input should be a valid integer, got a number with a fractional part"
  | .oversizedInteger =>
      "Unable to parse input string as an integer, exceeded maximum size"
  | .notFinite => "Input should be a finite number"
  | .belowMinimum minimum =>
      "Input should be greater than or equal to " ++ Text.integer minimum
  | .notBoolean => "Input should be a valid boolean"
  | .unreadableBoolean =>
      "Input should be a valid boolean, unable to interpret input"
  | .noChoice choices => "Input should be " ++ listedChoices choices
  | .refused reason => "Value error, " ++ reason
  | .notPath => "Input is not a valid path for <class 'pathlib.Path'>"
  | .unknownName => "Extra inputs are not permitted"

end Fault

/-- A fault at a place in a document. -/
structure Issue where
  path : List Step
  fault : Fault
  deriving Repr, DecidableEq

/-- The issue seen from further out. -/
def Issue.within
    (step : Step)
    (issue : Issue) :
    Issue :=
  { issue with path := step :: issue.path }

/-- A place and a message, as they stand in a report. -/
def detailLine
    (place : List String)
    (message : String) :
    String :=
  ".".intercalate place ++ ": " ++ message

/-- The report on a malformed document, given its details. -/
def malformedReport
    (source : String)
    (details : List String) :
    String :=
  let head := "Malformed " ++ source ++ " response"
  let body := "; ".intercalate details
  if body = "" then
    head
  else
    head ++ ": " ++ body

/-- A document that does not have its shape, with at least one issue. -/
structure ShapeFault where
  source : String
  first : Issue
  rest : List Issue
  deriving Repr, DecidableEq

namespace ShapeFault

/-- All issues of a document. -/
def issues
    (fault : ShapeFault) :
    List Issue :=
  fault.first :: fault.rest

/-- The report on a malformed document. -/
def message
    (fault : ShapeFault) :
    String :=
  malformedReport fault.source
    (fault.issues.map fun issue =>
      detailLine (issue.path.map Step.text) issue.fault.message)

end ShapeFault

end ShardAtlas.Payload

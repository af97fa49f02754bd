import PropertyGraph.Json.Value

/-! What can be wrong with the form of a value, and where. -/
namespace PropertyGraph

def Json.kindName : Json → String
  | .null => "null"
  | .bool _ => "boolean"
  | .number x => if x.isNaN then "nan" else "number"
  | .string _ => "string"
  | .array _ => "array"
  | .object _ => "object"

inductive Fault
  | absent
  | kind (expected received : String)
  | fractional
  | notPositive
  | emptyText
  | emptyList
  | choice (choices : List String) (received : String)
  deriving DecidableEq, Repr

/-- The choices in quotes with bars between them. -/
def choicesText (choices : List String) : String :=
  " | ".intercalate (choices.map fun c => "'" ++ c ++ "'")

def Fault.message : Fault → String
  | .absent => "Required"
  | .kind expected received => s!"Expected {expected}, received {received}"
  | .fractional => "Expected integer, received float"
  | .notPositive => "Number must be greater than 0"
  | .emptyText => "String must contain at least 1 character(s)"
  | .emptyList => "Array must contain at least 1 element(s)"
  | .choice choices received =>
    s!"Invalid enum value. Expected {choicesText choices}, received '{received}'"

/-- A complaint about the value at the end of a path of names and positions. -/
structure Issue where
  path : List String
  message : String
  deriving DecidableEq, Repr

namespace Issue

/-- The steps of the path with points between them. -/
def place (issue : Issue) : String := ".".intercalate issue.path

def toJson (issue : Issue) : Json :=
  .object [("path", .string issue.place), ("message", .string issue.message)]

def text (issue : Issue) : String :=
  if issue.place.isEmpty then issue.message else issue.place ++ ": " ++ issue.message

end Issue
end PropertyGraph

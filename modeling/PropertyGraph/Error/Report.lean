import PropertyGraph.Binary64.Decimal
import PropertyGraph.Json.Value
import PropertyGraph.Error.Kind

/-! What is told of an error: its kind, message and code, and a context of named values. -/
namespace PropertyGraph

structure Report where
  kind : ErrorKind
  message : String
  code : String
  context : Option Json
  deriving DecidableEq, Repr

namespace Report

/-- A report whose code is that of its kind. -/
def plain (kind : ErrorKind) (message : String) (context : List (String × Json)) : Report :=
  ⟨kind, message, kind.code, some (.object context)⟩

/-- A label that several nodes have, with the message given or the usual one. -/
def repeatedLabel (label : String) (count : Binary64) (message : Option String) : Report :=
  .plain .duplicateNode
    (message.getD s!"Node with label {label} appears {count} times in data model")
    [("label", .string label), ("count", .number count)]

def repeatedPattern (pattern : String) (count : Binary64) (message : Option String) : Report :=
  .plain .duplicateRelationship
    (message.getD s!"Relationship with pattern {pattern} appears {count} times in data model")
    [("pattern", .string pattern), ("count", .number count)]

def danglingEnd (pattern missing label : String) : Report :=
  let article := if missing = "end" then "an" else "a"
  .plain .danglingEndpoint
    s!"Relationship {pattern} has {article} {missing} node that does not exist in data model"
    [("pattern", .string pattern), ("missingEnd", .string missing), ("label", .string label)]

/-- A node without a key, with the detail if it says anything. -/
def missingKey (label detail : String) : Report :=
  let tail := if detail.isEmpty then "" else ": " ++ detail
  .plain .missingKeyProperty s!"Node {label} has no key property{tail}"
    [("label", .string label)]

def invalidRecord (subject : String) (issues : List Json) : Report :=
  let line (issue : Json) : String :=
    let place := issue.text "path"
    (if place.isEmpty then "<root>" else place) ++ ": " ++ issue.text "message"
  let summary := "; ".intercalate (issues.map line)
  .plain .invalidRecord s!"Invalid {subject}: {summary}"
    [("subject", .string subject), ("issues", .array issues)]

def structural (path detail : String) : Report :=
  .plain .structural s!"{detail} (at {path})" [("path", .string path)]

def unmapped (propertyId owner : String) : Report :=
  .plain .unmappedProperty s!"Property {propertyId} not found in mapping for {owner}"
    [("propertyId", .string propertyId), ("owner", .string owner)]

/-- The report of a kind made of values: the message, code and context of a kind that has
no texts of its own, and otherwise what the texts of the kind speak of. -/
def ofParts (kind : ErrorKind) (parts : List Json) : Report :=
  let text (i : Nat) : String := ((parts[i]?).bind Json.string?).getD ""
  let text? (i : Nat) : Option String := (parts[i]?).bind Json.string?
  let count (i : Nat) : Binary64 := ((parts[i]?).bind Json.number?).getD .nan
  match kind with
  | .duplicateProperty => ⟨kind, text 0, kind.code, parts[1]?⟩
  | .duplicateNode => repeatedLabel (text 0) (count 1) (text? 2)
  | .duplicateRelationship => repeatedPattern (text 0) (count 1) (text? 2)
  | .danglingEndpoint => danglingEnd (text 0) (text 1) (text 2)
  | .missingKeyProperty => missingKey (text 0) (text 1)
  | .invalidRecord => invalidRecord (text 0) (((parts[1]?).bind Json.array?).getD [])
  | .structural => structural (text 0) (text 1)
  | .unmappedProperty => unmapped (text 0) (text 1)
  | .configuration => ⟨kind, text 0, kind.code, parts[1]?⟩
  | .general | .validation | .lookup => ⟨kind, text 0, (text? 1).getD kind.code, parts[2]?⟩

def text (report : Report) : String := s!"[{report.code}] {report.kind.name}: {report.message}"

def toJson (report : Report) : Json :=
  .object ([("name", .string report.kind.name), ("message", .string report.message),
    ("code", .string report.code)] ++ Json.optional "context" report.context)

/-- The context members that the kind shows as its own. -/
def fields (report : Report) : List (String × Json) :=
  report.kind.ownFields.filterMap fun name =>
    ((report.context.bind (Json.get? name)).map fun value => (name, value))

/-- What a failure looks like before it is reported. -/
inductive Failure
  | known (report : Report)
  | foreign (name message : String)
  | value (json : Json)

/-- The report of any failure. One that is a report stays itself; a foreign error gives its
message unless that is empty; of other values only a text gives a message. -/
def wrap (failure : Failure) (defaultMessage code : Option String) : Report :=
  let fallback := defaultMessage.getD "An unexpected error occurred"
  let code := code.getD ErrorKind.general.code
  match failure with
  | .known report => report
  | .foreign name message =>
    ⟨.general, if message.isEmpty then fallback else message, code,
      some (.object [("originalError", .string name)])⟩
  | .value json => ⟨.general, json.string?.getD fallback, code, none⟩

end Report
end PropertyGraph

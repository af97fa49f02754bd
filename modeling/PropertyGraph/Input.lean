import PropertyGraph.Error.Cause
import PropertyGraph.Json.Reader
import PropertyGraph.Layout
import PropertyGraph.Model.Source

/-! What is given from outside: settings of an export, each with a default, and documents, whose
text must be JSON and whose value must have its shape. -/
namespace PropertyGraph

structure Settings where
  formatVersion : String
  modelVersion : String
  schemaVersion : String
  grid : Grid
  sourceKind : SourceKind
  deriving DecidableEq, Repr

namespace Settings

def standard : Settings := ⟨"2.3.1-beta.0", "2.3.1-beta.0", "1.0.0", .standard, .onSite⟩

def shape : Shape :=
  let version (text : String) : Shape := .withDefault .someText (.string text)
  .closedObject
    [("formatVersion", version standard.formatVersion),
      ("dataModelVersion", version standard.modelVersion),
      ("graphSchemaVersion", version standard.schemaVersion),
      ("layout", .withDefault Grid.shape (.object [])),
      ("defaultSourceKind", .withDefault SourceKind.shape (.string standard.sourceKind.name))]

def ofJson (json : Json) : Settings where
  formatVersion := json.text "formatVersion"
  modelVersion := json.text "dataModelVersion"
  schemaVersion := json.text "graphSchemaVersion"
  grid := Grid.ofJson ((json.get? "layout").getD .null)
  sourceKind := ((json.text? "defaultSourceKind").bind SourceKind.ofName?).getD .onSite

def toJson (settings : Settings) : Json :=
  .object
    [("formatVersion", .string settings.formatVersion),
      ("dataModelVersion", .string settings.modelVersion),
      ("graphSchemaVersion", .string settings.schemaVersion),
      ("layout", settings.grid.toJson),
      ("defaultSourceKind", .string settings.sourceKind.name)]

/-- The settings that a value asks for; an absent value asks for nothing. -/
def resolve (asked : Option Json) : Except ModelError Settings :=
  match shape.parse (some (asked.getD (.object []))) with
  | .ok json => .ok (ofJson json)
  | .error issues => .error (.settings issues)

end Settings

namespace Document

def root : String := "<root>"

/-- The rebuilt value, or a failure at the first issue. -/
def check (shape : Shape) (value : Option Json) (subject : String) : Except ModelError Json :=
  match shape.parse value with
  | .ok json => .ok json
  | .error [] => .error (.document root (.invalid subject "unreadable document"))
  | .error (issue :: _) =>
    .error (.document (if issue.path.isEmpty then root else issue.place)
      (.invalid subject issue.message))

def parse (text subject : String) : Except ModelError Json :=
  match Json.parse text with
  | .ok json => .ok json
  | .error _ => .error (.document root (.malformedText subject))

end Document
end PropertyGraph

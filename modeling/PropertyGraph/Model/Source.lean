import PropertyGraph.Shape.Basic

/-! Where the values of a property come from. -/
namespace PropertyGraph

/-- Whether the data lies at hand or is reached over a network. -/
inductive SourceKind
  | onSite
  | remote
  deriving DecidableEq, Repr

namespace SourceKind

def name : SourceKind → String
  | .onSite => "local"
  | .remote => "remote"

def ofName? : String → Option SourceKind
  | "local" => some .onSite
  | "remote" => some .remote
  | _ => none

def shape : Shape := .choice ["local", "remote"]

theorem ofName?_name (kind : SourceKind) : ofName? kind.name = some kind := by
  cases kind <;> rfl

end SourceKind

/-- The column, the table or file, and the path or address that hold a property's values. -/
structure PropertySource where
  columnName : Option String
  tableName : Option String
  location : Option String
  sourceKind : Option SourceKind
  deriving DecidableEq, Repr

namespace PropertySource

def shape : Shape :=
  .closedObject
    [("columnName", .optional .anyText), ("tableName", .optional .anyText),
      ("location", .optional .anyText), ("sourceKind", .optional SourceKind.shape)]

def toJson (source : PropertySource) : Json :=
  .object
    (Json.optional "columnName" (source.columnName.map .string) ++
      Json.optional "tableName" (source.tableName.map .string) ++
      Json.optional "location" (source.location.map .string) ++
      Json.optional "sourceKind" (source.sourceKind.map fun kind => .string kind.name))

def ofJson (json : Json) : PropertySource where
  columnName := json.text? "columnName"
  tableName := json.text? "tableName"
  location := json.text? "location"
  sourceKind := (json.text? "sourceKind").bind SourceKind.ofName?

end PropertySource
end PropertyGraph

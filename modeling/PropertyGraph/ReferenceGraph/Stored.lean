import PropertyGraph.ReferenceGraph.Rule
import PropertyGraph.ReferenceGraph.Tables

/-! What a model keeps of the reference graph it came from, so that an export without
changes gives it back. -/
namespace PropertyGraph.ReferenceGraph

/-- The versions of a document and the blocks of it that a model does not interpret. -/
structure Stored where
  version : Option String
  modelVersion : Option String
  constraints : Option (List Rule)
  indexes : Option (List Rule)
  configurations : Option (List (String × Json))
  sourceSchema : Option SourceSchema
  deriving DecidableEq, Repr

namespace Stored

def empty : Stored := ⟨none, none, none, none, none, none⟩

def shape : Shape :=
  .closedObject
    [("version", .optional .anyText), ("dataModelVersion", .optional .anyText),
      ("constraints", .optional (.listOf (Rule.shape .constraint))),
      ("indexes", .optional (.listOf (Rule.shape .index))),
      ("configurations", .optional (.dictionary .anything)),
      ("dataSourceSchema", .optional SourceSchema.shape)]

def toJson (stored : Stored) : Json :=
  .object
    (Json.optional "version" (stored.version.map .string) ++
      Json.optional "dataModelVersion" (stored.modelVersion.map .string) ++
      Json.optional "constraints" (stored.constraints.map fun rs => .array (rs.map Rule.toJson)) ++
      Json.optional "indexes" (stored.indexes.map fun rs => .array (rs.map Rule.toJson)) ++
      Json.optional "configurations" (stored.configurations.map .object) ++
      Json.optional "dataSourceSchema" (stored.sourceSchema.map SourceSchema.toJson))

def ofJson (json : Json) : Stored where
  version := json.text? "version"
  modelVersion := json.text? "dataModelVersion"
  constraints := (json.list? "constraints").map (·.map Rule.ofJson)
  indexes := (json.list? "indexes").map (·.map Rule.ofJson)
  configurations := json.members? "configurations"
  sourceSchema := (json.get? "dataSourceSchema").map SourceSchema.ofJson

end Stored
end PropertyGraph.ReferenceGraph

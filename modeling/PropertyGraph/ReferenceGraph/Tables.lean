import PropertyGraph.Model.Source
import PropertyGraph.Text.Basic

/-! Tables that data is read from. A stored description of them is kept as it was read;
without one they are inferred from the fields that mappings use. -/
namespace PropertyGraph.ReferenceGraph

structure Field where
  name : String
  type : String
  deriving DecidableEq, Repr

structure Table where
  name : String
  fields : List Field
  deriving DecidableEq, Repr

namespace Field

def shape : Shape :=
  .openObject
    [("name", .anyText), ("sample", .optional .anyText),
      ("recommendedType", .optional (.openObject [("type", .anyText)]))]

def toJson (field : Field) : Json :=
  .object
    [("name", .string field.name), ("sample", .string ("sample_" ++ field.name)),
      ("recommendedType", .object [("type", .string field.type)])]

/-- The fields under their names, with one more unless there is one of its name. -/
def collect (fields : List (String × Field)) (field : Field) : List (String × Field) :=
  if (Members.get? field.name fields).isSome then fields
  else Members.put field.name field fields

end Field

namespace Table

def shape : Shape := .openObject [("name", .anyText), ("fields", .listOf Field.shape)]

def toJson (table : Table) : Json :=
  .object [("name", .string table.name), ("fields", .array (table.fields.map Field.toJson))]

/-- The fields of the tables under their names, with those of one more entry. -/
def collect (tables : List (String × List (String × Field))) (entry : Table) :
    List (String × List (String × Field)) :=
  Members.put entry.name
    (entry.fields.foldl Field.collect ((Members.get? entry.name tables).getD [])) tables

/-- One table a name, in ascending order of names. Of fields with one name the first is
kept, wherever in the list its table stands. -/
def infer (mapped : List Table) : List Table :=
  let tables := mapped.foldl collect []
  (Text.sortByUnits (tables.map Prod.fst)).map fun name =>
    ⟨name, ((Members.get? name tables).getD []).map Prod.snd⟩

end Table

/-- A description of the source of the data, kept as it was read. -/
structure SourceSchema where
  members : List (String × Json)
  deriving DecidableEq, Repr

namespace SourceSchema

def shape : Shape :=
  .openObject
    [("type", .optional .anyText), ("tableSchemas", .optional (.listOf Table.shape))]

def toJson (schema : SourceSchema) : Json := .object schema.members

def ofJson (json : Json) : SourceSchema := ⟨json.object?.getD []⟩

/-- Any type but `remote` is taken for data at hand. -/
def sourceKind (schema : SourceSchema) : SourceKind :=
  if schema.toJson.text? "type" = some SourceKind.remote.name then .remote else .onSite

def tableNames (schema : SourceSchema) : List String :=
  (schema.toJson.list "tableSchemas").map (Json.text "name")

/-- The description that the mapped fields call for. -/
def infer (kind : SourceKind) (mapped : List Table) : SourceSchema :=
  ⟨[("type", .string kind.name),
    ("tableSchemas", .array ((Table.infer mapped).map Table.toJson))]⟩

end SourceSchema
end PropertyGraph.ReferenceGraph

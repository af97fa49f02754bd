import PropertyGraph.Model.Basic
import PropertyGraph.Record.Metadata
import PropertyGraph.Record.Property

/-! Nodes, relationships and models as plain records. A record is read without regard to
its shape; `Model.parseRecord` checks the shape first. -/
namespace PropertyGraph

namespace Node

def shape : Shape :=
  .closedObject
    [("label", .someText), ("keyProperty", Property.shape),
      ("properties", .optional (.listOf Property.shape)),
      ("metadata", .optional NodeMetadata.shape)]

def toJson (node : Node) : Json :=
  .object
    [("label", .string node.label), ("keyProperty", node.key.toJson),
      ("properties", .array (node.properties.map Property.toJson)),
      ("metadata", node.metadata.toJson)]

def ofRecord (json : Json) : Except ModelError Node := do
  let key ← Property.ofRecord ((json.get? "keyProperty").getD .null)
  let properties ← (json.list "properties").mapM Property.ofRecord
  build (json.text "label") key properties
    (((json.get? "metadata").map NodeMetadata.ofJson).getD .empty)

end Node

namespace Relationship

def shape : Shape :=
  .closedObject
    [("type", .someText), ("startNodeLabel", .someText), ("endNodeLabel", .someText),
      ("keyProperty", .optional Property.shape),
      ("properties", .optional (.listOf Property.shape)),
      ("metadata", .optional RelationshipMetadata.shape)]

def toJson (relationship : Relationship) : Json :=
  .object
    ([("type", .string relationship.type),
        ("startNodeLabel", .string relationship.startLabel),
        ("endNodeLabel", .string relationship.endLabel)] ++
      Json.optional "keyProperty" (relationship.key.map Property.toJson) ++
      [("properties", .array (relationship.properties.map Property.toJson)),
        ("metadata", relationship.metadata.toJson)])

def ofRecord (json : Json) : Except ModelError Relationship := do
  let key ← (json.get? "keyProperty").mapM Property.ofRecord
  let properties ← (json.list "properties").mapM Property.ofRecord
  build (json.text "type") (json.text "startNodeLabel") (json.text "endNodeLabel") key properties
    (((json.get? "metadata").map RelationshipMetadata.ofJson).getD .empty)

end Relationship

namespace Model

def shape : Shape :=
  .closedObject
    [("nodes", .listOf Node.shape), ("relationships", .optional (.listOf Relationship.shape)),
      ("metadata", .optional ModelMetadata.shape)]

def toJson (model : Model) : Json :=
  .object
    [("nodes", .array (model.nodes.map Node.toJson)),
      ("relationships", .array (model.relationships.map Relationship.toJson)),
      ("metadata", model.metadata.toJson)]

def ofRecord (json : Json) : Except ModelError Model := do
  let nodes ← (json.list "nodes").mapM Node.ofRecord
  let relationships ← (json.list "relationships").mapM Relationship.ofRecord
  build nodes relationships (((json.get? "metadata").map ModelMetadata.ofJson).getD .empty)

/-- The model that a value describes, if it has the shape of a model's record. -/
def parseRecord (value : Option Json) : Except ModelError Model :=
  match shape.parse value with
  | .ok json => ofRecord json
  | .error issues => .error (.invalidRecord "data model" issues)

end Model
end PropertyGraph

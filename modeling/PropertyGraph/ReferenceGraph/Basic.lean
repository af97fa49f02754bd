import PropertyGraph.Layout
import PropertyGraph.ReferenceGraph.Mapping
import PropertyGraph.ReferenceGraph.Schema
import PropertyGraph.ReferenceGraph.Tables

/-! Reference graphs: a schema, the keys of its nodes, mappings to tables, and the places of
nodes in a drawing. -/
namespace PropertyGraph
namespace ReferenceGraph

structure Placement where
  id : String
  position : Position
  deriving DecidableEq, Repr

namespace Placement

def shape : Shape := .closedObject [("id", .anyText), ("position", Position.shape)]

def toJson (placement : Placement) : Json :=
  .object [("id", .string placement.id), ("position", placement.position.toJson)]

def ofJson (json : Json) : Placement :=
  ⟨json.text "id", Position.ofJson ((json.get? "position").getD .null)⟩

end Placement

structure NodeKey where
  node : Ref
  property : Ref
  deriving DecidableEq, Repr

namespace NodeKey

def shape : Shape := .closedObject [("node", Ref.shape), ("keyProperty", Ref.shape)]

def toJson (key : NodeKey) : Json :=
  .object [("node", key.node.toJson), ("keyProperty", key.property.toJson)]

def ofJson (json : Json) : NodeKey := ⟨Ref.member "node" json, Ref.member "keyProperty" json⟩

end NodeKey
end ReferenceGraph

/-- The document as a whole. Versions, places and what no model interprets may be left
out. -/
structure ReferenceGraph where
  version : Option String
  placements : Option (List ReferenceGraph.Placement)
  modelVersion : Option String
  schemaVersion : Option String
  schema : ReferenceGraph.Schema
  nodeKeys : List ReferenceGraph.NodeKey
  sourceSchema : Option ReferenceGraph.SourceSchema
  nodeMappings : List ReferenceGraph.NodeMapping
  relationshipMappings : List ReferenceGraph.RelationshipMapping
  configurations : Option (List (String × Json))
  deriving DecidableEq, Repr

namespace ReferenceGraph

def shape : Shape :=
  .closedObject
    [("version", .optional .anyText),
      ("visualisation", .optional (.closedObject [("nodes", .listOf Placement.shape)])),
      ("dataModel", .closedObject
        [("version", .optional .anyText),
          ("graphSchemaRepresentation", .closedObject
            [("version", .optional .anyText), ("graphSchema", Schema.shape)]),
          ("graphSchemaExtensionsRepresentation", .closedObject
            [("nodeKeyProperties", .listOf NodeKey.shape)]),
          ("graphMappingRepresentation", .closedObject
            [("dataSourceSchema", .optional SourceSchema.shape),
              ("nodeMappings", .listOf NodeMapping.shape),
              ("relationshipMappings", .listOf RelationshipMapping.shape)]),
          ("configurations", .optional (.dictionary .anything))])]

def toJson (graph : ReferenceGraph) : Json :=
  let schemaPart :=
    Json.optional "version" (graph.schemaVersion.map .string) ++
      [("graphSchema", graph.schema.toJson)]
  let mappingPart :=
    Json.optional "dataSourceSchema" (graph.sourceSchema.map SourceSchema.toJson) ++
      [("nodeMappings", .array (graph.nodeMappings.map NodeMapping.toJson)),
        ("relationshipMappings",
          .array (graph.relationshipMappings.map RelationshipMapping.toJson))]
  let modelPart :=
    Json.optional "version" (graph.modelVersion.map .string) ++
      [("graphSchemaRepresentation", .object schemaPart),
        ("graphSchemaExtensionsRepresentation",
          .object [("nodeKeyProperties", .array (graph.nodeKeys.map NodeKey.toJson))]),
        ("graphMappingRepresentation", .object mappingPart)] ++
      Json.optional "configurations" (graph.configurations.map .object)
  .object
    (Json.optional "version" (graph.version.map .string) ++
      Json.optional "visualisation"
        (graph.placements.map fun places =>
          .object [("nodes", .array (places.map Placement.toJson))]) ++
      [("dataModel", .object modelPart)])

def ofJson (json : Json) : ReferenceGraph :=
  let part (name : String) (json : Json) : Json := (json.get? name).getD .null
  let modelPart := part "dataModel" json
  let schemaPart := part "graphSchemaRepresentation" modelPart
  let mappingPart := part "graphMappingRepresentation" modelPart
  { version := json.text? "version"
    placements := (json.get? "visualisation").map fun drawing =>
      (drawing.list "nodes").map Placement.ofJson
    modelVersion := modelPart.text? "version"
    schemaVersion := schemaPart.text? "version"
    schema := Schema.ofJson (part "graphSchema" schemaPart)
    nodeKeys :=
      ((part "graphSchemaExtensionsRepresentation" modelPart).list "nodeKeyProperties").map
        NodeKey.ofJson
    sourceSchema := (mappingPart.get? "dataSourceSchema").map SourceSchema.ofJson
    nodeMappings := (mappingPart.list "nodeMappings").map NodeMapping.ofJson
    relationshipMappings :=
      (mappingPart.list "relationshipMappings").map RelationshipMapping.ofJson
    configurations := modelPart.members? "configurations" }

end ReferenceGraph
end PropertyGraph

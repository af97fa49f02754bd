import PropertyGraph.ReferenceGraph.Rule

/-! Schemas of reference graphs: node labels and relationship types with the definitions of
their properties, and the objects that use them. Each part has an id, and the others point
at it with references. -/
namespace PropertyGraph.ReferenceGraph

structure PropertyDef where
  id : String
  token : String
  type : String
  nullable : Option Bool
  deriving DecidableEq, Repr

namespace PropertyDef

def shape : Shape :=
  .closedObject
    [("$id", .someText), ("token", .someText), ("type", .closedObject [("type", .anyText)]),
      ("nullable", .optional .flag)]

def toJson (definition : PropertyDef) : Json :=
  .object
    ([("$id", .string definition.id), ("token", .string definition.token),
        ("type", .object [("type", .string definition.type)])] ++
      Json.optional "nullable" (definition.nullable.map .bool))

def ofJson (json : Json) : PropertyDef where
  id := json.text "$id"
  token := json.text "token"
  type := ((json.get? "type").getD .null).text "type"
  nullable := (json.get? "nullable").bind Json.bool?

end PropertyDef

structure EntityDef where
  id : String
  token : String
  properties : List PropertyDef
  deriving DecidableEq, Repr

namespace EntityDef

def shape : Shape :=
  .closedObject
    [("$id", .someText), ("token", .someText), ("properties", .listOf PropertyDef.shape)]

def toJson (definition : EntityDef) : Json :=
  .object
    [("$id", .string definition.id), ("token", .string definition.token),
      ("properties", .array (definition.properties.map PropertyDef.toJson))]

def ofJson (json : Json) : EntityDef where
  id := json.text "$id"
  token := json.text "token"
  properties := (json.list "properties").map PropertyDef.ofJson

end EntityDef

/-- A kind of nodes, by its labels; the first one counts. -/
structure NodeObject where
  id : String
  labels : List Ref
  deriving DecidableEq, Repr

namespace NodeObject

def shape : Shape := .closedObject [("$id", .someText), ("labels", .listOf Ref.shape)]

def toJson (object : NodeObject) : Json :=
  .object [("$id", .string object.id), ("labels", .array (object.labels.map Ref.toJson))]

def ofJson (json : Json) : NodeObject :=
  ⟨json.text "$id", (json.list "labels").map Ref.ofJson⟩

end NodeObject

/-- A kind of relationships: its type and the kinds of nodes at both ends. -/
structure RelationshipObject where
  id : String
  type : Ref
  start : Ref
  finish : Ref
  deriving DecidableEq, Repr

namespace RelationshipObject

def shape : Shape :=
  .closedObject
    [("$id", .someText), ("type", Ref.shape), ("from", Ref.shape), ("to", Ref.shape)]

def toJson (object : RelationshipObject) : Json :=
  .object
    [("$id", .string object.id), ("type", object.type.toJson), ("from", object.start.toJson),
      ("to", object.finish.toJson)]

def ofJson (json : Json) : RelationshipObject :=
  ⟨json.text "$id", Ref.member "type" json, Ref.member "from" json, Ref.member "to" json⟩

end RelationshipObject

structure Schema where
  nodeLabels : List EntityDef
  relationshipTypes : List EntityDef
  nodeObjects : List NodeObject
  relationshipObjects : List RelationshipObject
  constraints : Option (List Rule)
  indexes : Option (List Rule)
  deriving DecidableEq, Repr

namespace Schema

def shape : Shape :=
  .closedObject
    [("nodeLabels", .listOf EntityDef.shape), ("relationshipTypes", .listOf EntityDef.shape),
      ("nodeObjectTypes", .listOf NodeObject.shape),
      ("relationshipObjectTypes", .listOf RelationshipObject.shape),
      ("constraints", .optional (.listOf (Rule.shape .constraint))),
      ("indexes", .optional (.listOf (Rule.shape .index)))]

def toJson (schema : Schema) : Json :=
  .object
    ([("nodeLabels", .array (schema.nodeLabels.map EntityDef.toJson)),
        ("relationshipTypes", .array (schema.relationshipTypes.map EntityDef.toJson)),
        ("nodeObjectTypes", .array (schema.nodeObjects.map NodeObject.toJson)),
        ("relationshipObjectTypes",
          .array (schema.relationshipObjects.map RelationshipObject.toJson))] ++
      Json.optional "constraints" (schema.constraints.map fun rs => .array (rs.map Rule.toJson)) ++
      Json.optional "indexes" (schema.indexes.map fun rs => .array (rs.map Rule.toJson)))

def ofJson (json : Json) : Schema where
  nodeLabels := (json.list "nodeLabels").map EntityDef.ofJson
  relationshipTypes := (json.list "relationshipTypes").map EntityDef.ofJson
  nodeObjects := (json.list "nodeObjectTypes").map NodeObject.ofJson
  relationshipObjects := (json.list "relationshipObjectTypes").map RelationshipObject.ofJson
  constraints := (json.list? "constraints").map (·.map Rule.ofJson)
  indexes := (json.list? "indexes").map (·.map Rule.ofJson)

end Schema
end PropertyGraph.ReferenceGraph

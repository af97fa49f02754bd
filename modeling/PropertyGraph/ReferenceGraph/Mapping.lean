import PropertyGraph.ReferenceGraph.Ref

/-! Mappings: from which table and fields the properties of a kind of nodes or relationships
are read. -/
namespace PropertyGraph.ReferenceGraph

structure FieldMapping where
  property : Ref
  fieldName : String
  deriving DecidableEq, Repr

namespace FieldMapping

def shape : Shape := .closedObject [("property", Ref.shape), ("fieldName", .anyText)]

def toJson (mapping : FieldMapping) : Json :=
  .object [("property", mapping.property.toJson), ("fieldName", .string mapping.fieldName)]

def ofJson (json : Json) : FieldMapping := ⟨Ref.member "property" json, json.text "fieldName"⟩

end FieldMapping

/-- The table of a kind of nodes or relationships. -/
structure Mapping where
  object : Ref
  tableName : String
  fields : List FieldMapping
  deriving DecidableEq, Repr

namespace Mapping

/-- The field that the property with the id is read from. -/
def fieldOf? (mapping : Mapping) (propertyId : String) : Option String :=
  (mapping.fields.find? (·.property.id = propertyId)).map FieldMapping.fieldName

/-- The shape of a mapping whose object stands under the name. -/
def members (object : String) : List (String × Shape) :=
  [(object, Ref.shape), ("tableName", .anyText),
    ("propertyMappings", .listOf FieldMapping.shape)]

def entries (object : String) (mapping : Mapping) : List (String × Json) :=
  [(object, mapping.object.toJson), ("tableName", .string mapping.tableName),
    ("propertyMappings", .array (mapping.fields.map FieldMapping.toJson))]

def ofMember (object : String) (json : Json) : Mapping where
  object := Ref.member object json
  tableName := json.text "tableName"
  fields := (json.list "propertyMappings").map FieldMapping.ofJson

end Mapping

structure NodeMapping extends Mapping
  deriving DecidableEq, Repr

namespace NodeMapping

def shape : Shape := .closedObject (Mapping.members "node")

def toJson (mapping : NodeMapping) : Json := .object (mapping.toMapping.entries "node")

def ofJson (json : Json) : NodeMapping := ⟨Mapping.ofMember "node" json⟩

end NodeMapping

/-- The table of a kind of relationships, with the fields that hold the keys of both
ends. -/
structure RelationshipMapping extends Mapping where
  startField : Option String
  finishField : Option String
  deriving DecidableEq, Repr

namespace RelationshipMapping

/-- The shape of the field that holds a key. -/
def endShape : Shape := .closedObject [("fieldName", .anyText)]

def shape : Shape :=
  .closedObject
    (Mapping.members "relationship" ++
      [("fromMapping", .optional endShape), ("toMapping", .optional endShape)])

def endToJson (field : String) : Json := .object [("fieldName", .string field)]

def toJson (mapping : RelationshipMapping) : Json :=
  .object
    (mapping.toMapping.entries "relationship" ++
      Json.optional "fromMapping" (mapping.startField.map endToJson) ++
      Json.optional "toMapping" (mapping.finishField.map endToJson))

def ofJson (json : Json) : RelationshipMapping where
  toMapping := Mapping.ofMember "relationship" json
  startField := (json.get? "fromMapping").map (Json.text "fieldName")
  finishField := (json.get? "toMapping").map (Json.text "fieldName")

end RelationshipMapping
end PropertyGraph.ReferenceGraph

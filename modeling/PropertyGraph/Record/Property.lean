import PropertyGraph.Model.Property

/-! Properties as plain records. -/
namespace PropertyGraph

namespace Provenance

def shape : Shape :=
  .closedObject [("originalId", .optional .anyText), ("nullable", .optional .flag)]

def toJson (provenance : Provenance) : Json :=
  .object
    (Json.optional "originalId" (provenance.definitionId.map .string) ++
      Json.optional "nullable" (provenance.nullable.map .bool))

def ofJson (json : Json) : Provenance :=
  ⟨json.text? "originalId", (json.get? "nullable").bind Json.bool?⟩

end Provenance

namespace Property

def shape : Shape :=
  .closedObject
    [("name", .someText), ("type", .optional .anyText),
      ("source", .optional PropertySource.shape), ("description", .optional .anyText),
      ("metadata",
        .optional (.closedObject [("referenceGraph", .optional Provenance.shape)]))]

def toJson (property : Property) : Json :=
  .object
    ([("name", .string property.name), ("type", .string property.type)] ++
      Json.optional "source" (property.source.map PropertySource.toJson) ++
      Json.optional "description" (property.description.map .string) ++
      Json.optional "metadata"
        (property.provenance.map fun p => .object [("referenceGraph", p.toJson)]))

/-- The provenance in a record's metadata. -/
def provenanceOf (metadata : Json) : Option Provenance :=
  (metadata.get? "referenceGraph").map Provenance.ofJson

def Draft.ofJson (json : Json) : Draft where
  name := json.text "name"
  type := json.text? "type"
  source := (json.get? "source").map PropertySource.ofJson
  description := json.text? "description"
  provenance := (json.get? "metadata").bind provenanceOf

def ofRecord (json : Json) : Except ModelError Property := build (Draft.ofJson json)

def Changes.ofJson (json : Json) : Changes where
  name := json.text? "name"
  type := json.text? "type"
  source := (json.get? "source").map PropertySource.ofJson
  description := json.text? "description"
  provenance := (json.get? "metadata").map provenanceOf

end Property
end PropertyGraph

import PropertyGraph.Model.Metadata

/-! Metadata of entities as plain records. -/
namespace PropertyGraph

/-- Style attributes may be anything. -/
def styleShape : Shape := .dictionary .anything

namespace NodeDrawing

def shape : Shape :=
  .closedObject
    [("position", .optional Position.shape), ("caption", .optional .anyText),
      ("style", .optional styleShape)]

def toJson (drawing : NodeDrawing) : Json :=
  .object
    (Json.optional "position" (drawing.position.map Position.toJson) ++
      Json.optional "caption" (drawing.caption.map .string) ++
      Json.optional "style" (drawing.style.map .object))

def ofJson (json : Json) : NodeDrawing where
  position := (json.get? "position").map Position.ofJson
  caption := json.text? "caption"
  style := json.members? "style"

end NodeDrawing

namespace Drawing

def shape : Shape := .closedObject [("style", .optional styleShape)]

def toJson (drawing : Drawing) : Json :=
  .object (Json.optional "style" (drawing.style.map .object))

def ofJson (json : Json) : Drawing := ⟨json.members? "style"⟩

end Drawing

namespace NodeMetadata

def shape : Shape :=
  .closedObject
    [("diagram", .optional NodeDrawing.shape),
      ("visualization", .optional (.closedObject [("position", Position.shape)]))]

def toJson (metadata : NodeMetadata) : Json :=
  .object
    (Json.optional "diagram" (metadata.diagram.map NodeDrawing.toJson) ++
      Json.optional "visualization"
        (metadata.place.map fun position => .object [("position", position.toJson)]))

def ofJson (json : Json) : NodeMetadata where
  diagram := (json.get? "diagram").map NodeDrawing.ofJson
  place := ((json.get? "visualization").bind (Json.get? "position")).map Position.ofJson

end NodeMetadata

namespace RelationshipMetadata

def shape : Shape := .closedObject [("diagram", .optional Drawing.shape)]

def toJson (metadata : RelationshipMetadata) : Json :=
  .object (Json.optional "diagram" (metadata.diagram.map Drawing.toJson))

def ofJson (json : Json) : RelationshipMetadata := ⟨(json.get? "diagram").map Drawing.ofJson⟩

end RelationshipMetadata

namespace ModelMetadata

def shape : Shape :=
  .closedObject
    [("diagram", .optional Drawing.shape),
      ("referenceGraph", .optional ReferenceGraph.Stored.shape)]

def toJson (metadata : ModelMetadata) : Json :=
  .object
    (Json.optional "diagram" (metadata.diagram.map Drawing.toJson) ++
      Json.optional "referenceGraph" (metadata.referenceGraph.map ReferenceGraph.Stored.toJson))

def ofJson (json : Json) : ModelMetadata where
  diagram := (json.get? "diagram").map Drawing.ofJson
  referenceGraph := (json.get? "referenceGraph").map ReferenceGraph.Stored.ofJson

end ModelMetadata
end PropertyGraph

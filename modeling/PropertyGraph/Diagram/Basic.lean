import PropertyGraph.Record.Metadata

/-! Diagrams: boxes with labels and property texts, and arrows between their ids. -/
namespace PropertyGraph

namespace Diagram

/-- A box; `position`, `caption` and `style` may be left out. -/
structure Box where
  id : String
  labels : List String
  properties : List (String × String)
  style : Option Style
  position : Option Position
  caption : Option String
  deriving DecidableEq, Repr

structure Arrow where
  fromId : String
  toId : String
  type : String
  properties : List (String × String)
  style : Option Style
  deriving DecidableEq, Repr

def textsToJson (texts : List (String × String)) : Json :=
  .object (texts.map fun (name, text) => (name, .string text))

/-- The property texts of a member; values of other kinds do not count. -/
def textsOfJson (json : Json) : List (String × String) :=
  ((json.members? "properties").getD []).filterMap fun (name, value) =>
    value.string?.map fun text => (name, text)

namespace Box

def shape : Shape :=
  .closedObject
    [("id", .someText), ("labels", .list true .someText),
      ("properties", .withDefault (.dictionary .anyText) (.object [])),
      ("position", .optional Position.shape), ("caption", .optional .anyText),
      ("style", .optional styleShape)]

def toJson (box : Box) : Json :=
  .object
    ([("id", .string box.id), ("labels", .array (box.labels.map .string)),
        ("properties", textsToJson box.properties)] ++
      Json.optional "style" (box.style.map .object) ++
      Json.optional "position" (box.position.map Position.toJson) ++
      Json.optional "caption" (box.caption.map .string))

def ofJson (json : Json) : Box where
  id := json.text "id"
  labels := (json.list "labels").filterMap Json.string?
  properties := textsOfJson json
  style := json.members? "style"
  position := (json.get? "position").map Position.ofJson
  caption := json.text? "caption"

/-- A box stands for the first of its labels. -/
def label (box : Box) : String := box.labels.head?.getD box.id

end Box

namespace Arrow

def shape : Shape :=
  .closedObject
    [("id", .optional .anyText), ("fromId", .someText), ("toId", .someText),
      ("type", .someText), ("properties", .withDefault (.dictionary .anyText) (.object [])),
      ("style", .optional styleShape)]

def toJson (arrow : Arrow) : Json :=
  .object
    ([("fromId", .string arrow.fromId), ("toId", .string arrow.toId),
        ("type", .string arrow.type), ("properties", textsToJson arrow.properties)] ++
      Json.optional "style" (arrow.style.map .object))

def ofJson (json : Json) : Arrow where
  fromId := json.text "fromId"
  toId := json.text "toId"
  type := json.text "type"
  properties := textsOfJson json
  style := json.members? "style"

end Arrow
end Diagram

structure Diagram where
  boxes : List Diagram.Box
  arrows : List Diagram.Arrow
  style : Option Style
  deriving DecidableEq, Repr

namespace Diagram

def shape : Shape :=
  .closedObject
    [("nodes", .listOf Box.shape),
      ("relationships", .withDefault (.listOf Arrow.shape) (.array [])),
      ("style", .optional styleShape)]

def toJson (diagram : Diagram) : Json :=
  .object
    ([("nodes", .array (diagram.boxes.map Box.toJson)),
        ("relationships", .array (diagram.arrows.map Arrow.toJson))] ++
      Json.optional "style" (diagram.style.map .object))

def ofJson (json : Json) : Diagram where
  boxes := (json.list "nodes").map Box.ofJson
  arrows := (json.list "relationships").map Arrow.ofJson
  style := json.members? "style"

end Diagram
end PropertyGraph

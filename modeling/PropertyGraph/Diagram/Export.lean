import PropertyGraph.Diagram.Basic
import PropertyGraph.Diagram.PropertyText
import PropertyGraph.Event
import PropertyGraph.Json.Printer
import PropertyGraph.Model.Basic
import PropertyGraph.Input

/-! Diagrams of models. A node's label is the id of its box, and nodes without a place of
their own are put on the grid. -/
namespace PropertyGraph.Diagram

/-- Every property's text in member order, the key given first. -/
def writeProperties (key : Option Property) (properties : List Property) :
    List (String × String) :=
  Members.ofAssignments
    ((key.toList.map fun k => (k.name, PropertyText.format k true)) ++
      properties.map fun p => (p.name, PropertyText.format p false))

/-- The place in a diagram, else that in a reference graph, else the cell of the grid. -/
def Box.place (grid : Grid) (index : Nat) (node : Node) : Position :=
  (node.metadata.diagramPosition? <|> node.metadata.place).getD (grid.place index)

def Box.ofNode (grid : Grid) (index : Nat) (node : Node) : Box where
  id := node.label
  labels := [node.label]
  properties := writeProperties (some node.key) node.properties
  style := some ((node.metadata.diagram.bind NodeDrawing.style).getD [])
  position := some (Box.place grid index node)
  caption := some ((node.metadata.diagram.bind NodeDrawing.caption).getD "")

def Arrow.ofRelationship (relationship : Relationship) : Arrow where
  fromId := relationship.startLabel
  toId := relationship.endLabel
  type := relationship.type
  properties := writeProperties relationship.key relationship.properties
  style := some ((relationship.metadata.diagram.bind Drawing.style).getD [])

def ofModel (grid : Grid) (model : Model) : Diagram where
  boxes := model.nodes.mapIdx (Box.ofNode grid)
  arrows := model.relationships.map Arrow.ofRelationship
  style := some ((model.metadata.diagram.bind Drawing.style).getD [])

def write (model : Model) (asked : Option Json) : Conversion Diagram := do
  let settings ← Settings.resolve asked
  let diagram := ofModel settings.grid model
  Conversion.tell (.diagramWritten model.nodes.length model.relationships.length)
  return diagram

def writeText (model : Model) (asked : Option Json) : Conversion String := do
  return (← write model asked).toJson.indentedText

end PropertyGraph.Diagram

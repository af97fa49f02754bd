import PropertyGraph.Diagram.Basic
import PropertyGraph.Diagram.PropertyText
import PropertyGraph.Input
import PropertyGraph.Event
import PropertyGraph.Model.Basic

/-! Models from diagrams. Boxes become nodes and arrows relationships, both in order; an
arrow's ends are the labels of the boxes with its ids. -/
namespace PropertyGraph.Diagram

/-- The key and the other properties of an entity. The first text with a key tag makes the
key, unless there is one already. -/
def readProperties (key : Option Property) :
    List (String × String) → Except ModelError (Option Property × List Property)
  | [] => .ok (key, [])
  | (name, text) :: rest => do
    let parts := PropertyText.parse text
    if parts.isKey && key.isNone then
      readProperties (some (← parts.keyProperty name)) rest
    else
      let property ← parts.plainProperty name
      let (key, properties) ← readProperties key rest
      return (key, property :: properties)

def Box.toNode (box : Box) : Except ModelError Node := do
  match ← readProperties none box.properties with
  | (some key, properties) =>
    Node.build box.label key properties ⟨some ⟨box.position, box.caption, box.style⟩, none⟩
  | (none, _) => .error (.missingKey box.label (.untagged box.id))

/-- The label of the last box with the id. -/
def labelOf? (boxes : List Box) (id : String) : Option String :=
  (boxes.reverse.find? (·.id = id)).map Box.label

def endLabel (boxes : List Box) (index : Nat) (member id : String) : Except ModelError String :=
  match labelOf? boxes id with
  | some label => .ok label
  | none => .error (.document s!"relationships.{index}.{member}" (.unknownNode id))

def Arrow.toRelationship (boxes : List Box) (index : Nat) (arrow : Arrow) :
    Except ModelError Relationship := do
  let startLabel ← endLabel boxes index "fromId" arrow.fromId
  let finishLabel ← endLabel boxes index "toId" arrow.toId
  let (key, properties) ← readProperties none arrow.properties
  Relationship.build arrow.type startLabel finishLabel key properties
    ⟨arrow.style.map fun style => ⟨some style⟩⟩

def toModel (diagram : Diagram) : Except ModelError Model := do
  let nodes ← diagram.boxes.mapM Box.toNode
  let relationships ← diagram.arrows.zipIdx.mapM fun (arrow, index) =>
    arrow.toRelationship diagram.boxes index
  Model.build nodes relationships ⟨diagram.style.map fun style => ⟨some style⟩, none⟩

def read (document : Option Json) : Conversion Model := do
  let json ← Document.check shape document "diagram document"
  let model ← (ofJson json).toModel
  Conversion.tell (.diagramRead model.nodes.length model.relationships.length)
  return model

def readText (text : String) : Conversion Model := do
  read (some (← Document.parse text "diagram"))

end PropertyGraph.Diagram

import PropertyGraph.Model.Node
import PropertyGraph.Model.Relationship

/-! Models: nodes with distinct labels, and relationships with distinct patterns between
them. Every change answers a new model, or the fault that stands against it. -/
namespace PropertyGraph

structure Model where
  nodes : List Node
  relationships : List Relationship
  metadata : ModelMetadata
  deriving DecidableEq, Repr

namespace Model

def empty : Model := ⟨[], [], .empty⟩

/-- The model of these parts, if they obey the rules. -/
def build (nodes : List Node) (relationships : List Relationship) (metadata : ModelMetadata) :
    Except ModelError Model :=
  (checkModel (nodes.map Node.label) (relationships.map Relationship.link)).map fun _ =>
    ⟨nodes, relationships, metadata⟩

def labels (model : Model) : List String := model.nodes.map Node.label

def patterns (model : Model) : List String := model.relationships.map Relationship.pattern

def node? (model : Model) (label : String) : Option Node :=
  model.nodes.find? (·.label = label)

def node (model : Model) (label : String) : Except ModelError Node :=
  match model.node? label with
  | some n => .ok n
  | none => .error (.unknownLabel label)

def relationship? (model : Model) (type startLabel endLabel : String) : Option Relationship :=
  model.relationships.find? (·.pattern = pattern startLabel type endLabel)

def relationship (model : Model) (type startLabel endLabel : String) :
    Except ModelError Relationship :=
  match model.relationship? type startLabel endLabel with
  | some r => .ok r
  | none => .error (.unknownPattern (pattern startLabel type endLabel))

def addNode (model : Model) (node : Node) : Except ModelError Model :=
  (checkLabels (model.labels ++ [node.label])).map fun _ =>
    { model with nodes := model.nodes ++ [node] }

/-- The model with one more relationship, whose pattern must be new and whose ends must be
there. -/
def addRelationship (model : Model) (relationship : Relationship) : Except ModelError Model := do
  checkPatterns (model.patterns ++ [relationship.pattern])
  checkEnds model.labels [relationship.link]
  return { model with relationships := model.relationships ++ [relationship] }

/-- The model without the node of that label. The relationships at it go too with `cascade`
and forbid the removal without. -/
def removeNode (model : Model) (label : String) (cascade : Bool) : Except ModelError Model :=
  if label ∉ model.labels then .ok model
  else
    match model.relationships.find? (·.touches label), cascade with
    | some r, false =>
      .error (.danglingEnd r.pattern (if r.startLabel = label then .start else .finish) label)
    | _, _ =>
      .ok { model with
        nodes := model.nodes.eraseP (·.label = label)
        relationships := model.relationships.filter (!·.touches label) }

def removeRelationship (model : Model) (type startLabel endLabel : String) : Model :=
  { model with
    relationships := model.relationships.eraseP (·.pattern = pattern startLabel type endLabel) }

def replaceNode (model : Model) (node : Node) : Model :=
  { model with nodes := model.nodes.map fun n => if n.label = node.label then node else n }

def replaceRelationship (model : Model) (relationship : Relationship) : Model :=
  { model with
    relationships := model.relationships.map fun r =>
      if r.pattern = relationship.pattern then relationship else r }

end Model
end PropertyGraph

import PropertyGraph.Model.Basic

/-! Edits of a model, one at a time. An edit that fails leaves no trace, for it answers no
model. -/
namespace PropertyGraph

/-- How an entity of a model is named. -/
inductive Place
  | node (label : String)
  | relationship (type startLabel endLabel : String)
  deriving DecidableEq, Repr

inductive Entity
  | node (node : Node)
  | relationship (relationship : Relationship)
  deriving Repr

namespace Entity

def allProperties : Entity → List Property
  | .node n => n.allProperties
  | .relationship r => r.allProperties

def hasProperty (name : String) : Entity → Bool
  | .node n => n.hasProperty name
  | .relationship r => r.hasProperty name

def typeTable : Entity → List (String × String)
  | .node n => n.typeTable
  | .relationship r => r.typeTable

end Entity

/-- The entity at a place, which must be there. -/
def Model.entity (model : Model) : Place → Except ModelError Entity
  | .node label => (model.node label).map .node
  | .relationship type startLabel endLabel =>
    (model.relationship type startLabel endLabel).map .relationship

inductive Edit
  | addNode (node : Node)
  | addRelationship (relationship : Relationship)
  | removeNode (label : String) (cascade : Bool)
  | removeRelationship (type startLabel endLabel : String)
  | addProperty (place : Place) (property : Property)
  | removeProperty (place : Place) (name : String)
  | setMetadata (metadata : ModelMetadata)
  | setNodeMetadata (label : String) (metadata : NodeMetadata)
  | setRelationshipMetadata (type startLabel endLabel : String) (metadata : RelationshipMetadata)
  deriving Repr

namespace Edit

def apply (model : Model) : Edit → Except ModelError Model
  | .addNode node => model.addNode node
  | .addRelationship relationship => model.addRelationship relationship
  | .removeNode label cascade => model.removeNode label cascade
  | .removeRelationship type startLabel endLabel =>
    .ok (model.removeRelationship type startLabel endLabel)
  | .addProperty (.node label) property => do
    let node ← model.node label
    return model.replaceNode (← node.addProperty property)
  | .addProperty (.relationship type startLabel endLabel) property => do
    let relationship ← model.relationship type startLabel endLabel
    return model.replaceRelationship (← relationship.addProperty property)
  | .removeProperty (.node label) name => do
    let node ← model.node label
    return model.replaceNode (node.removeProperty name)
  | .removeProperty (.relationship type startLabel endLabel) name => do
    let relationship ← model.relationship type startLabel endLabel
    return model.replaceRelationship (relationship.removeProperty name)
  | .setMetadata metadata => .ok { model with metadata }
  | .setNodeMetadata label metadata => do
    let node ← model.node label
    return model.replaceNode { node with metadata }
  | .setRelationshipMetadata type startLabel endLabel metadata => do
    let relationship ← model.relationship type startLabel endLabel
    return model.replaceRelationship { relationship with metadata }

end Edit
end PropertyGraph

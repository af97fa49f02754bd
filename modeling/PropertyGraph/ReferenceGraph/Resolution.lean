import PropertyGraph.Error.Cause
import PropertyGraph.ReferenceGraph.Schema

/-! Resolution of the references in a schema. Every reference between the parts of a schema
is replaced by the part it points at; a repeated id or a dangling reference is refused at
its place. -/
namespace PropertyGraph.ReferenceGraph

def schemaPath : String := "dataModel.graphSchemaRepresentation.graphSchema"

structure NodeKind where
  id : String
  label : EntityDef
  deriving DecidableEq, Repr

/-- A kind of relationships with its type and the kinds of nodes at both ends. -/
structure RelationshipKind where
  id : String
  type : EntityDef
  start : NodeKind
  finish : NodeKind
  deriving DecidableEq, Repr

structure Resolved where
  nodeKinds : List NodeKind
  relationshipKinds : List RelationshipKind
  deriving DecidableEq, Repr

/-- The first of the parts that has the id a reference points at. -/
def lookUp {α : Type} (parts : List α) (id : α → String) (ref : Ref) (path : String)
    (target : Target) : Except ModelError α :=
  match parts.find? fun part => id part = ref.id with
  | some part => .ok part
  | none => .error (.document path (.dangling ref.text target))

/-- Ids must be distinct; the first repetition is refused. -/
def checkIds (path : String) (ids : List String) : Except ModelError Unit :=
  match ids.zipIdx.find? fun (id, i) => (ids.take i).contains id with
  | some (id, i) => .error (.document s!"{path}.{i}.$id" (.duplicateId id))
  | none => .ok ()

namespace Resolved

/-- The kind of nodes at a position, whose id none before it may have. -/
def nodeKind (schema : Schema) (index : Nat) (object : NodeObject) :
    Except ModelError NodeKind :=
  let path := s!"{schemaPath}.nodeObjectTypes.{index}"
  if ((schema.nodeObjects.take index).map NodeObject.id).contains object.id then
    .error (.document (path ++ ".$id") (.duplicateId object.id))
  else
    match object.labels with
    | [] => .error (.document (path ++ ".labels") (.noLabel object.id))
    | ref :: _ =>
      (lookUp schema.nodeLabels EntityDef.id ref (path ++ ".labels.0") .nodeLabel).map fun label =>
        ⟨object.id, label⟩

/-- The kind of relationships at a position; its type is looked up before its ends. -/
def relationshipKind (schema : Schema) (kinds : List NodeKind) (index : Nat)
    (object : RelationshipObject) : Except ModelError RelationshipKind := do
  let path := s!"{schemaPath}.relationshipObjectTypes.{index}"
  let type ←
    lookUp schema.relationshipTypes EntityDef.id object.type (path ++ ".type") .relationshipType
  let start ← lookUp kinds NodeKind.id object.start (path ++ ".from") .nodeObject
  let finish ← lookUp kinds NodeKind.id object.finish (path ++ ".to") .nodeObject
  return ⟨object.id, type, start, finish⟩

/-- Resolve a schema: its labels and types first, then nodes, then relationships. -/
def ofSchema (schema : Schema) : Except ModelError Resolved := do
  checkIds (schemaPath ++ ".nodeLabels") (schema.nodeLabels.map EntityDef.id)
  checkIds (schemaPath ++ ".relationshipTypes") (schema.relationshipTypes.map EntityDef.id)
  let nodeKinds ← schema.nodeObjects.zipIdx.mapM fun (object, i) => nodeKind schema i object
  let relationshipKinds ← schema.relationshipObjects.zipIdx.mapM fun (object, i) =>
    relationshipKind schema nodeKinds i object
  return ⟨nodeKinds, relationshipKinds⟩

def node (resolved : Resolved) (ref : Ref) (path : String) : Except ModelError NodeKind :=
  lookUp resolved.nodeKinds NodeKind.id ref path .nodeObject

def relationship (resolved : Resolved) (ref : Ref) (path : String) :
    Except ModelError RelationshipKind :=
  lookUp resolved.relationshipKinds RelationshipKind.id ref path .relationshipObject

/-- The first kind of nodes with the label. -/
def nodeOfLabel? (resolved : Resolved) (labelId : String) : Option NodeKind :=
  resolved.nodeKinds.find? (·.label.id = labelId)

end Resolved
end PropertyGraph.ReferenceGraph

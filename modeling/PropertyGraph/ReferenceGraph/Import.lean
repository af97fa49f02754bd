import PropertyGraph.Input
import PropertyGraph.Event
import PropertyGraph.Model.Basic
import PropertyGraph.ReferenceGraph.Basic
import PropertyGraph.ReferenceGraph.Resolution

/-! Models from reference graphs. Every node label becomes a node and every kind of
relationships a relationship, in order; each property keeps the table and field it is mapped
to, and the blocks that a model does not interpret are stored. -/
namespace PropertyGraph.ReferenceGraph

def mappingPath : String := "dataModel.graphMappingRepresentation"

/-- What the keys, mappings and places of a document say of its kinds. -/
structure Bindings where
  resolved : Resolved
  keys : List (String × String)
  nodeMappings : List (String × Mapping)
  relationshipMappings : List (String × Mapping)
  places : List (String × Position)
  sourceKind : SourceKind
  deriving DecidableEq, Repr

namespace Bindings

/-- Bind keys, then mappings of nodes, then those of relationships, to the kinds that they
point at. -/
def ofGraph (graph : ReferenceGraph) : Except ModelError Bindings := do
  let resolved ← Resolved.ofSchema graph.schema
  let keys ← graph.nodeKeys.zipIdx.mapM fun (key, i) => do
    let path := s!"dataModel.graphSchemaExtensionsRepresentation.nodeKeyProperties.{i}.node"
    return ((← resolved.node key.node path).id, key.property.id)
  let nodeMappings ← graph.nodeMappings.zipIdx.mapM fun (mapping, i) => do
    let kind ← resolved.node mapping.object s!"{mappingPath}.nodeMappings.{i}.node"
    return (kind.id, mapping.toMapping)
  let relationshipMappings ← graph.relationshipMappings.zipIdx.mapM fun (mapping, i) => do
    let path := s!"{mappingPath}.relationshipMappings.{i}.relationship"
    return ((← resolved.relationship mapping.object path).id, mapping.toMapping)
  return {
    resolved, keys, nodeMappings, relationshipMappings
    places := (graph.placements.getD []).map fun place => (place.id, place.position)
    sourceKind := (graph.sourceSchema.map SourceSchema.sourceKind).getD .onSite }

/-- The key declared first for a kind. -/
def keyOf? (bindings : Bindings) (kindId : String) : Option String := bindings.keys.lookup kindId

/-- The mapping given last for a kind of nodes. -/
def nodeMapping? (bindings : Bindings) (kindId : String) : Option Mapping :=
  bindings.nodeMappings.reverse.lookup kindId

/-- The mapping given last for a kind of relationships. -/
def relationshipMapping? (bindings : Bindings) (kindId : String) : Option Mapping :=
  bindings.relationshipMappings.reverse.lookup kindId

/-- The place given last for a kind of nodes. -/
def place? (bindings : Bindings) (kindId : String) : Option Position :=
  bindings.places.reverse.lookup kindId

end Bindings

/-- The property of a definition, which the mapping must mention. -/
def PropertyDef.toProperty (mapping : Option Mapping) (kind : SourceKind) (owner : Owner)
    (definition : PropertyDef) : Except ModelError Property :=
  match mapping.bind fun m => (m.fieldOf? definition.id).map fun field => (m.tableName, field) with
  | some (table, field) =>
    Property.build
      ⟨definition.token, some (TypeTag.fromReferenceGraph definition.type),
        some ⟨some field, some table, none, some kind⟩, none,
        some ⟨some definition.id, definition.nullable⟩⟩
  | none => .error (.unmapped definition.id owner)

/-- The key's definition and the other ones. -/
structure KeyChoice where
  key : PropertyDef
  others : List PropertyDef
  deriving DecidableEq, Repr

/-- Why no declared key was found; an empty id counts as no declaration. -/
def keyFault (label : EntityDef) (declared : Option String) : KeyFault :=
  match declared.filter (!·.isEmpty) with
  | some keyId => .foreignKey keyId label.id
  | none => .undeclared label.id

/-- The definition with the declared id, else the first one. The second choice is told, or
refused when only declared keys are allowed. -/
def EntityDef.chooseKey (label : EntityDef) (declared : Option String) (strict : Bool) :
    Conversion KeyChoice :=
  let isDeclared (definition : PropertyDef) : Bool := declared = some definition.id
  match label.properties.find? isDeclared, label.properties with
  | some key, properties => return ⟨key, properties.eraseP isDeclared⟩
  | none, [] => throw (.missingKey label.token (.noProperties label.id))
  | none, first :: others =>
    if strict then throw (.missingKey label.token (keyFault label declared))
    else do
      Conversion.tell (.keyReplaced label.token declared first.token)
      return ⟨first, others⟩

/-- The node of a label, placed and mapped as the first kind of nodes with the label is. -/
def EntityDef.toNode (bindings : Bindings) (strict : Bool) (label : EntityDef) :
    Conversion Node := do
  let kind := bindings.resolved.nodeOfLabel? label.id
  let declared := kind.bind fun k => bindings.keyOf? k.id
  let choice ← label.chooseKey declared strict
  let convert := PropertyDef.toProperty (kind.bind fun k => bindings.nodeMapping? k.id)
    bindings.sourceKind (.node label.token)
  let key ← convert choice.key
  let others ← choice.others.mapM fun definition => (convert definition : Conversion Property)
  Node.build label.token key others ⟨none, kind.bind fun k => bindings.place? k.id⟩

/-- The relationship of a kind; none of its properties is a key. -/
def RelationshipKind.toRelationship (bindings : Bindings) (kind : RelationshipKind) :
    Except ModelError Relationship := do
  let start := kind.start.label.token
  let finish := kind.finish.label.token
  let owner := Owner.relationship (pattern start kind.type.token finish)
  let properties ← kind.type.properties.mapM
    (PropertyDef.toProperty (bindings.relationshipMapping? kind.id) bindings.sourceKind owner)
  Relationship.build kind.type.token start finish none properties .empty

def stored (graph : ReferenceGraph) : Stored where
  version := graph.version
  modelVersion := graph.modelVersion
  constraints := graph.schema.constraints
  indexes := graph.schema.indexes
  configurations := graph.configurations
  sourceSchema := graph.sourceSchema

/-- The model of a reference graph. With `strict`, every node needs a declared key. -/
def toModel (strict : Bool) (graph : ReferenceGraph) : Conversion Model := do
  let bindings ← Bindings.ofGraph graph
  let nodes ← graph.schema.nodeLabels.mapM (EntityDef.toNode bindings strict)
  let relationships ← bindings.resolved.relationshipKinds.mapM fun kind =>
    (kind.toRelationship bindings : Conversion Relationship)
  let model ← Model.build nodes relationships ⟨none, some graph.stored⟩
  Conversion.tell (.referenceGraphRead nodes.length relationships.length)
  return model

def read (document : Option Json) (strict : Bool) : Conversion Model := do
  let json ← Document.check shape document "reference-graph document"
  (ofJson json).toModel strict

def readText (text : String) (strict : Bool) : Conversion Model := do
  read (some (← Document.parse text "reference-graph")) strict

end PropertyGraph.ReferenceGraph

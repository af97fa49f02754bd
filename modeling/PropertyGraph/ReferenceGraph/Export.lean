import PropertyGraph.Event
import PropertyGraph.Json.Printer
import PropertyGraph.ReferenceGraph.Basic
import PropertyGraph.ReferenceGraph.Ids
import PropertyGraph.ReferenceGraph.Import
import PropertyGraph.Input

/-! Reference graphs of models. First every property gets its id, in order; then each block
of the document is read off the numbered entities. Stored blocks are given back while they
still fit the model, and made anew otherwise. -/
namespace PropertyGraph.ReferenceGraph

/-- A property with the id it is exported under. -/
structure Numbered where
  id : String
  property : Property
  isKey : Bool
  deriving DecidableEq, Repr

namespace Numbered

/-- The column of the property, which is named like it unless recorded otherwise. -/
def fieldName (numbered : Numbered) : String :=
  numbered.property.column?.getD numbered.property.name

/-- Only keys are not nullable unless recorded otherwise. -/
def definition (numbered : Numbered) : PropertyDef where
  id := numbered.id
  token := numbered.property.name
  type := TypeTag.toReferenceGraph numbered.property.type
  nullable := some ((numbered.property.provenance.bind Provenance.nullable).getD !numbered.isKey)

def mapping (numbered : Numbered) : FieldMapping := ⟨.toId numbered.id, numbered.fieldName⟩

def field (numbered : Numbered) : Field :=
  ⟨numbered.fieldName, TypeTag.toReferenceGraph numbered.property.type⟩

end Numbered

def number (ids : Ids) (isKey : Bool) : List Property → List Numbered × Ids
  | [] => ([], ids)
  | property :: properties =>
    let (id, ids) := ids.take property
    let (rest, ids) := number ids isKey properties
    (⟨id, property, isKey⟩ :: rest, ids)

/-- The field of a mapping that holds the key of an end. A column that is not recorded is
the key's name in lower case. -/
def endField (key : Property) : Field :=
  ⟨key.column?.getD (Text.lower key.name), TypeTag.toReferenceGraph key.type⟩

/-- A node at its position, its properties numbered. -/
structure NumberedNode where
  index : Nat
  node : Node
  key : Numbered
  others : List Numbered
  deriving DecidableEq, Repr

namespace NumberedNode

def properties (entry : NumberedNode) : List Numbered := entry.key :: entry.others

def labelId (entry : NumberedNode) : String := nodeLabelId entry.index

def kindId (entry : NumberedNode) : String := nodeKindId entry.index

def definition (entry : NumberedNode) : EntityDef :=
  ⟨entry.labelId, entry.node.label, entry.properties.map Numbered.definition⟩

def kind (entry : NumberedNode) : NodeObject := ⟨entry.kindId, [.toId entry.labelId]⟩

def nodeKey (entry : NumberedNode) : NodeKey := ⟨.toId entry.kindId, .toId entry.key.id⟩

def rule (kind : RuleKind) (entry : NumberedNode) : Rule :=
  .forKey kind entry.index entry.node.label (.node (.toId entry.labelId)) entry.key.id

/-- The table of the key, else one named after the label. -/
def tableName (entry : NumberedNode) : String :=
  entry.node.key.table?.getD (Text.lower entry.node.label ++ ".csv")

def mapping (entry : NumberedNode) : NodeMapping :=
  ⟨⟨.toId entry.kindId, entry.tableName, entry.properties.map Numbered.mapping⟩⟩

def table (entry : NumberedNode) : Table :=
  ⟨entry.tableName, entry.properties.map Numbered.field⟩

/-- The place in a reference graph, else that in a diagram, else the cell of the grid. -/
def placement (grid : Grid) (entry : NumberedNode) : Placement :=
  ⟨entry.kindId,
    (entry.node.metadata.place <|> entry.node.metadata.diagramPosition?).getD
      (grid.place entry.index)⟩

end NumberedNode

def numberNodes (ids : Ids) (index : Nat) : List Node → List NumberedNode × Ids
  | [] => ([], ids)
  | node :: nodes =>
    let (id, ids) := ids.take node.key
    let (others, ids) := number ids false node.properties
    let (rest, ids) := numberNodes ids (index + 1) nodes
    (⟨index, node, ⟨id, node.key, true⟩, others⟩ :: rest, ids)

/-- A relationship at its position, its properties numbered and its ends found. -/
structure NumberedRelationship where
  index : Nat
  relationship : Relationship
  key : Option Numbered
  others : List Numbered
  start : NumberedNode
  finish : NumberedNode
  deriving DecidableEq, Repr

namespace NumberedRelationship

def properties (entry : NumberedRelationship) : List Numbered := entry.key.toList ++ entry.others

def typeId (entry : NumberedRelationship) : String := relationshipTypeId entry.index

def kindId (entry : NumberedRelationship) : String := relationshipKindId entry.index

def definition (entry : NumberedRelationship) : EntityDef :=
  ⟨entry.typeId, entry.relationship.type, entry.properties.map Numbered.definition⟩

def kind (entry : NumberedRelationship) : RelationshipObject :=
  ⟨entry.kindId, .toId entry.typeId, .toId entry.start.kindId, .toId entry.finish.kindId⟩

/-- The rule for the key, if there is one; its number comes after those of the nodes. -/
def rule? (kind : RuleKind) (nodeCount : Nat) (entry : NumberedRelationship) : Option Rule :=
  entry.key.map fun key =>
    .forKey kind (nodeCount + entry.index) entry.relationship.type
      (.relationship (.toId entry.typeId)) key.id

/-- The table of the key, else of the first property that has one, else of the start node's
key, else one named after the ends and the type. -/
def tableName (entry : NumberedRelationship) : String :=
  let relationship := entry.relationship
  (relationship.key.bind Property.table? <|>
    relationship.properties.findSome? Property.table? <|>
    entry.start.node.key.table?).getD
      (Text.lower
        (relationship.startLabel ++ "_" ++ relationship.type ++ "_" ++ relationship.endLabel ++
          ".csv"))

def mapping (entry : NumberedRelationship) : RelationshipMapping where
  object := .toId entry.kindId
  tableName := entry.tableName
  fields := entry.properties.map Numbered.mapping
  startField := some (endField entry.start.node.key).name
  finishField := some (endField entry.finish.node.key).name

def table (entry : NumberedRelationship) : Table :=
  ⟨entry.tableName,
    endField entry.start.node.key :: endField entry.finish.node.key ::
      entry.properties.map Numbered.field⟩

end NumberedRelationship

/-- The node at an end of a relationship. -/
def endNode (nodes : List NumberedNode) (label : String) : Except ModelError NumberedNode :=
  match nodes.find? (·.node.label = label) with
  | some entry => .ok entry
  | none => .error (.unknownLabel label)

def numberRelationships (nodes : List NumberedNode) (ids : Ids) (index : Nat) :
    List Relationship → Except ModelError (List NumberedRelationship)
  | [] => .ok []
  | relationship :: relationships => do
    let start ← endNode nodes relationship.startLabel
    let finish ← endNode nodes relationship.endLabel
    let (key, ids) := number ids true relationship.key.toList
    let (others, ids) := number ids false relationship.properties
    let rest ← numberRelationships nodes ids (index + 1) relationships
    return ⟨index, relationship, key.head?, others, start, finish⟩ :: rest

structure NumberedModel where
  nodes : List NumberedNode
  relationships : List NumberedRelationship
  deriving DecidableEq, Repr

namespace NumberedModel

def ofModel (model : Model) : Except ModelError NumberedModel := do
  let (nodes, ids) := numberNodes (.ofModel model) 0 model.nodes
  return ⟨nodes, ← numberRelationships nodes ids 0 model.relationships⟩

def nodeLabels (numbered : NumberedModel) : List EntityDef :=
  numbered.nodes.map NumberedNode.definition

def relationshipTypes (numbered : NumberedModel) : List EntityDef :=
  numbered.relationships.map NumberedRelationship.definition

/-- The rules for keys, those of nodes first. -/
def rules (kind : RuleKind) (numbered : NumberedModel) : List Rule :=
  numbered.nodes.map (NumberedNode.rule kind) ++
    numbered.relationships.filterMap (NumberedRelationship.rule? kind numbered.nodes.length)

/-- The tables that are mapped, with the fields used of each. -/
def tables (numbered : NumberedModel) : List Table :=
  numbered.nodes.map NumberedNode.table ++ numbered.relationships.map NumberedRelationship.table

end NumberedModel

/-- Whether one of the definitions has the id, and all of the properties. -/
def ownsAll (definitions : List EntityDef) (owner : Ref) (properties : List Ref) : Bool :=
  match definitions.find? (·.id = owner.id) with
  | some definition =>
    properties.all fun ref => (definition.properties.map PropertyDef.id).contains ref.id
  | none => false

/-- Whether a rule still fits: its owner is exported and owns all of its properties. -/
def Rule.fits (numbered : NumberedModel) (rule : Rule) : Bool :=
  match rule.owner? with
  | some (.node label) => ownsAll numbered.nodeLabels label rule.properties
  | some (.relationship type) => ownsAll numbered.relationshipTypes type rule.properties
  | none => false

/-- The stored rules if all of them fit, else those for keys. -/
def chooseRules (numbered : NumberedModel) (generated : List Rule) :
    Option (List Rule) → List Rule × List Event
  | none => (generated, [])
  | some rules =>
    if rules.all (Rule.fits numbered) then (rules, [])
    else (generated, [.rulesReplaced rules.length generated.length])

/-- The source kind of the first property that says it. -/
def declaredSourceKind? (model : Model) : Option SourceKind :=
  (propertiesOf model).findSome? fun property =>
    property.source.bind PropertySource.sourceKind

/-- The stored description of the source if it names tables, among them every mapped one;
else the description that the mapped fields call for. -/
def chooseSource (default : SourceKind) (tables : List Table) (stored : Option SourceSchema) :
    SourceSchema :=
  match stored.filter fun schema =>
      !schema.tableNames.isEmpty && tables.all fun t => schema.tableNames.contains t.name with
  | some schema => schema
  | none => .infer default tables

/-- The reference graph of a numbered model, and what there is to tell of it. -/
def build (settings : Settings) (model : Model) (numbered : NumberedModel) :
    ReferenceGraph × List Event :=
  let stored := model.metadata.referenceGraph.getD .empty
  let (constraints, constraintEvents) :=
    chooseRules numbered (numbered.rules .constraint) stored.constraints
  let (indexes, indexEvents) := chooseRules numbered (numbered.rules .index) stored.indexes
  let kind := (declaredSourceKind? model).getD settings.sourceKind
  let graph : ReferenceGraph := {
    version := some (stored.version.getD settings.formatVersion)
    placements := some (numbered.nodes.map (NumberedNode.placement settings.grid))
    modelVersion := some (stored.modelVersion.getD settings.modelVersion)
    schemaVersion := some settings.schemaVersion
    schema := {
      nodeLabels := numbered.nodeLabels
      relationshipTypes := numbered.relationshipTypes
      nodeObjects := numbered.nodes.map NumberedNode.kind
      relationshipObjects := numbered.relationships.map NumberedRelationship.kind
      constraints := some constraints
      indexes := some indexes }
    nodeKeys := numbered.nodes.map NumberedNode.nodeKey
    sourceSchema := some (chooseSource kind numbered.tables stored.sourceSchema)
    nodeMappings := numbered.nodes.map NumberedNode.mapping
    relationshipMappings := numbered.relationships.map NumberedRelationship.mapping
    configurations := some (stored.configurations.getD [("idsToIgnore", .array [])]) }
  (graph, constraintEvents ++ indexEvents ++
    [.referenceGraphWritten model.nodes.length model.relationships.length constraints.length])

def ofModel (settings : Settings) (model : Model) :
    Except ModelError (ReferenceGraph × List Event) :=
  (NumberedModel.ofModel model).map (build settings model)

def write (model : Model) (asked : Option Json) : Conversion ReferenceGraph := do
  let settings ← Settings.resolve asked
  let (graph, events) ← ofModel settings model
  events.forM Conversion.tell
  return graph

def writeText (model : Model) (asked : Option Json) : Conversion String := do
  return (← write model asked).toJson.indentedText

/-- A document read and written again. -/
def normalize (asked : Option Json) (strict : Bool) (document : Option Json) :
    Conversion ReferenceGraph := do
  write (← read document strict) asked

end PropertyGraph.ReferenceGraph

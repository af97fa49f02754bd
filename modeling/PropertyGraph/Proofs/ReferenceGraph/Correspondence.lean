import PropertyGraph.Proofs.ReferenceGraph.Resolution
import PropertyGraph.Proofs.Trimming

/-! What each part of a document becomes in the model that is read from it. Labels become nodes
and objects between them relationships, one for one and in order; a definition becomes one
property, with the table and the field that the last mapping of its owner gives it, unless it is
named like the key. -/
namespace PropertyGraph.ReferenceGraph

/-- The id of the key that is declared first for an object. -/
def declaredKey? (graph : ReferenceGraph) (object : NodeObject) : Option String :=
  (graph.nodeKeys.find? (·.node.id = object.id)).map fun key => key.property.id

/-- The mapping that is given last for a kind of nodes. -/
def nodeMapping? (graph : ReferenceGraph) (object : NodeObject) : Option Mapping :=
  (graph.nodeMappings.filter (·.object.id = object.id)).getLast?.map NodeMapping.toMapping

/-- The mapping that is given last for a kind of relationships. -/
def relationshipMapping? (graph : ReferenceGraph) (object : RelationshipObject) :
    Option Mapping :=
  (graph.relationshipMappings.filter (·.object.id = object.id)).getLast?.map
    RelationshipMapping.toMapping

def Schema.labelAt? (schema : Schema) (ref : Ref) : Option String := do
  let object ← schema.nodeObjects.find? (·.id = ref.id)
  let label ← schema.nodeLabels.find? fun label => object.firstLabel? = some label.id
  return label.token

/-- The property that a definition becomes, with its type and the mapping of its owner. -/
structure PropertyDef.ImportedAs (mapping : Option Mapping) (kind : SourceKind)
    (definition : PropertyDef) (property : Property) : Prop
    extends definition.Becomes mapping kind property where
  type : property.type = TypeTag.fromReferenceGraph definition.type

/-- The node that a label becomes. The key comes from the definition that is declared for the
first kind of nodes with the label, else from the first one; the others follow in order, except
those with the key's token. -/
structure EntityDef.ImportedAs (graph : ReferenceGraph) (entity : EntityDef) (node : Node) :
    Prop where
  label : node.label = entity.token
  properties : ∃ object before key after,
    graph.schema.nodeObjects.find? (·.firstLabel? = some entity.id) = some object ∧
    entity.KeyedBetween (graph.declaredKey? object) before key after ∧
    PropertyDef.ImportedAs (graph.nodeMapping? object) graph.sourceKind key node.key ∧
    List.Forall₂ (PropertyDef.ImportedAs (graph.nodeMapping? object) graph.sourceKind)
      (List.filter (·.token ≠ key.token) (before ++ after)) node.properties

/-- The relationship that an object becomes: its texts are what its references lead to, and each
definition of its type is a property. -/
structure RelationshipObject.ImportedAs (graph : ReferenceGraph) (object : RelationshipObject)
    (relationship : Relationship) : Prop where
  startLabel : graph.schema.labelAt? object.start = some relationship.startLabel
  endLabel : graph.schema.labelAt? object.finish = some relationship.endLabel
  key : relationship.key = none
  properties : ∃ type,
    graph.schema.relationshipTypes.find? (·.id = object.type.id) = some type ∧
    relationship.type = type.token ∧
    List.Forall₂ (PropertyDef.ImportedAs (graph.relationshipMapping? object) graph.sourceKind)
      type.properties relationship.properties

section Definitions

lemma normalize_fromReferenceGraph (tag : String) :
    TypeTag.normalize (TypeTag.fromReferenceGraph tag) = TypeTag.fromReferenceGraph tag := by
  unfold TypeTag.fromReferenceGraph
  cases known : TypeTag.exchange.find? (·.2 = tag) with
  | none =>
    simp only [Option.map_none, Option.getD_none]
    exact TypeTag.normalize_eq_self tag
  | some entry =>
    have fixed : ∀ entry ∈ TypeTag.exchange, TypeTag.normalize entry.1 = entry.1 := by decide
    simp only [Option.map_some, Option.getD_some]
    exact fixed entry (List.mem_of_find?_eq_some known)

lemma PropertyDef.importedAs_of_toProperty {definition : PropertyDef} {mapping : Option Mapping}
    {kind : SourceKind} {owner : Owner} {property : Property}
    (made : definition.toProperty mapping kind owner = .ok property) :
    definition.ImportedAs mapping kind property := by
  refine ⟨becomes_of_toProperty made, ?_⟩
  unfold toProperty at made
  split at made
  · unfold Property.build at made
    split_ifs at made
    obtain rfl := Except.ok.inj made
    simp only [Option.getD_some, normalize_fromReferenceGraph]
  · cases made

lemma forall₂_importedAs_withoutKey {mapping : Option Mapping} {kind : SourceKind}
    {definition : PropertyDef} {key : Property} {definitions : List PropertyDef}
    {properties : List Property} (keyed : key.name = definition.token)
    (imported : List.Forall₂ (PropertyDef.ImportedAs mapping kind) definitions properties) :
    List.Forall₂ (PropertyDef.ImportedAs mapping kind)
      (definitions.filter (·.token ≠ definition.token)) (withoutKey (some key) properties) := by
  refine List.rel_filter (fun other property becomes => ?_) imported
  simp [becomes.name, keyed]

end Definitions

section Bound

variable {graph : ReferenceGraph} {bindings : Bindings}

lemma sourceKind_of_ofGraph (made : Bindings.ofGraph graph = .ok bindings) :
    bindings.sourceKind = graph.sourceKind := by
  simp only [Bindings.ofGraph, Except.bind_eq_ok_iff] at made
  obtain ⟨_, -, _, -, _, -, _, -, finish⟩ := made
  cases finish
  rfl

lemma Bindings.Of.keyOf?_eq (made : bindings.Of graph) (object : NodeObject) :
    bindings.keyOf? object.id = graph.declaredKey? object := by
  rw [keyOf?, made.keys, Members.lookup_map, declaredKey?]

lemma Bindings.Of.nodeMapping?_eq (made : bindings.Of graph) (object : NodeObject) :
    bindings.nodeMapping? object.id = graph.nodeMapping? object := by
  rw [Bindings.nodeMapping?, made.nodeMappings, lookup_reverse_map, ReferenceGraph.nodeMapping?]

lemma Bindings.Of.relationshipMapping?_object (made : bindings.Of graph)
    (object : RelationshipObject) :
    bindings.relationshipMapping? object.id = graph.relationshipMapping? object := by
  rw [Bindings.relationshipMapping?, made.relationshipMappings, lookup_reverse_map,
    ReferenceGraph.relationshipMapping?]

lemma labelAt?_of_mem {schema : Schema} {resolved : Resolved}
    (made : Resolved.ofSchema schema = .ok resolved) {kind : NodeKind} {ref : Ref}
    (points : kind ∈ resolved.nodeKinds ∧ kind.id = ref.id) :
    schema.labelAt? ref = some kind.label.token := by
  obtain ⟨labels, -, distinct, stand, -⟩ := ofSchema_eq_ok_iff.1 made
  obtain ⟨object, listed, id, label, first⟩ := exists_mem_of_forall₂ stand points.1
  have found := find?_of_mem distinct listed (id.symm.trans points.2)
  have named : schema.nodeLabels.find? (fun other => object.firstLabel? = some other.id) =
      some kind.label := by
    simpa [first, eq_comm] using find?_of_mem labels label rfl
  simp [Schema.labelAt?, found, named]

lemma EntityDef.importedAs_of_toNode (made : Bindings.ofGraph graph = .ok bindings)
    {strict : Bool} {label : EntityDef} {node : Node}
    (converted : (label.toNode bindings strict).answer = .ok node) :
    label.ImportedAs graph node := by
  have bound := Bindings.of_ofGraph made
  simp only [answer_toNode, Except.bind_eq_ok_iff] at converted
  obtain ⟨choice, hc, key, hk, others, ho, built⟩ := converted
  obtain ⟨-, rfl⟩ := Node.build_eq_ok_iff.1 built
  have keyed := PropertyDef.importedAs_of_toProperty hk
  have rest : List.Forall₂ (PropertyDef.ImportedAs _ _) choice.others others :=
    (Except.mapM_eq_ok_iff.1 ho).imp fun _ _ => PropertyDef.importedAs_of_toProperty
  obtain ⟨mapping, -, mapped, -⟩ := keyed.source
  obtain ⟨kind, known, -⟩ := Option.bind_eq_some_iff.1 mapped
  have stands := (of_ofSchema bound.resolved).nodeOfLabel label.id
  rw [known] at stands hc keyed rest
  cases found : graph.schema.nodeObjects.find? (·.firstLabel? = some label.id) with
  | none => simp [found] at stands
  | some object =>
    rw [found, Option.rel_some_some] at stands
    obtain ⟨before, after, between, others⟩ := keyedBetween_of_chooseKey hc
    simp only [Option.bind_some, stands.id, bound.keyOf?_eq, bound.nodeMapping?_eq,
      sourceKind_of_ofGraph made] at between keyed rest
    rw [others] at rest
    exact ⟨rfl, object, before, choice.key, after, found, between, keyed,
      forall₂_importedAs_withoutKey keyed.name rest⟩

lemma RelationshipObject.importedAs_of_toRelationship
    (made : Bindings.ofGraph graph = .ok bindings) {object : RelationshipObject}
    {kind : RelationshipKind} {relationship : Relationship}
    (between : kind.Between graph.schema bindings.resolved.nodeKinds object)
    (converted : kind.toRelationship bindings = .ok relationship) :
    object.ImportedAs graph relationship := by
  have bound := Bindings.of_ofGraph made
  obtain ⟨-, types, -⟩ := ofSchema_eq_ok_iff.1 bound.resolved
  obtain ⟨type, start, finish, key, owner, properties⟩ :=
    RelationshipKind.converted_of_toRelationship converted
  rw [between.id, bound.relationshipMapping?_object, sourceKind_of_ofGraph made] at properties
  exact ⟨start ▸ labelAt?_of_mem bound.resolved between.start,
    finish ▸ labelAt?_of_mem bound.resolved between.finish, key, kind.type,
    find?_of_mem types between.type.1 between.type.2, type,
    properties.imp fun _ _ => PropertyDef.importedAs_of_toProperty⟩

end Bound

/-- A model that was read has a node for every label and a relationship for every object between
labels, in order, each with what the document says of it. -/
theorem importedAs_of_read {document : Option Json} {strict : Bool} {model : Model}
    (read : (read document strict).answer = .ok model) :
    ∃ json, Document.check shape document "reference-graph document" = .ok json ∧
      List.Forall₂ (EntityDef.ImportedAs (ofJson json)) (ofJson json).schema.nodeLabels
        model.nodes ∧
      List.Forall₂ (RelationshipObject.ImportedAs (ofJson json))
        (ofJson json).schema.relationshipObjects model.relationships := by
  obtain ⟨json, bindings, checked, made, bound, nodes, relationships⟩ := exists_of_read read
  refine ⟨json, checked, nodes.imp fun _ _ => EntityDef.importedAs_of_toNode made, ?_⟩
  have kinds := (of_ofSchema bound.resolved).relationshipKinds
  refine forall₂_trans (fun object kind relationship between converted => ?_) kinds relationships
  exact RelationshipObject.importedAs_of_toRelationship made between converted

/-- A key that is declared second, a name that is its own and a definition's too, and a table
that is given twice. -/
def remapped : ReferenceGraph where
  version := none
  placements := none
  modelVersion := none
  schemaVersion := none
  schema := {
    nodeLabels :=
      [⟨"nl:0", "Author", [⟨"p:0", "name", "string", none⟩, ⟨"p:1", "id", "integer", some false⟩,
        ⟨"p:2", "id", "string", none⟩]⟩]
    relationshipTypes := [⟨"rt:1", "KNOWS", [⟨"p:3", "since", "DATE", some true⟩]⟩]
    nodeObjects := [⟨"n:0", [.toId "nl:0"]⟩]
    relationshipObjects := [⟨"r:1", .toId "rt:1", .toId "n:0", .toId "n:0"⟩]
    constraints := none
    indexes := none }
  nodeKeys := [⟨.toId "n:0", .toId "p:1"⟩, ⟨.toId "n:0", .toId "p:0"⟩]
  sourceSchema := none
  nodeMappings :=
    [⟨⟨.toId "n:0", "people.csv", []⟩⟩,
      ⟨⟨.toId "n:0", "authors.csv",
        [⟨.toId "p:0", "Name"⟩, ⟨.toId "p:1", "Id"⟩, ⟨.toId "p:2", "Code"⟩]⟩⟩]
  relationshipMappings :=
    [⟨⟨.toId "r:1", "friends.csv", [⟨.toId "p:3", "Since"⟩]⟩, none, none⟩]
  configurations := none

theorem importedAs_of_read_remapped : ∃ model json,
    (read (some remapped.toJson) true).answer = .ok model ∧
      model.nodes.map (·.allProperties.map fun p => (p.name, p.column?)) =
        [[("id", some "Id"), ("name", some "Name")]] ∧
      Document.check shape (some remapped.toJson) "reference-graph document" = .ok json ∧
      List.Forall₂ (EntityDef.ImportedAs (ofJson json)) (ofJson json).schema.nodeLabels
        model.nodes ∧
      List.Forall₂ (RelationshipObject.ImportedAs (ofJson json))
        (ofJson json).schema.relationshipObjects model.relationships := by
  have computed : (read (some remapped.toJson) true).answer.map (fun model =>
      model.nodes.map (·.allProperties.map fun p => (p.name, p.column?))) =
        .ok [[("id", some "Id"), ("name", some "Name")]] := by decide +kernel
  obtain ⟨model, read, listed⟩ := Except.map_eq_ok_iff.1 computed
  obtain ⟨json, imported⟩ := importedAs_of_read read
  exact ⟨model, json, read, listed, imported⟩

end PropertyGraph.ReferenceGraph

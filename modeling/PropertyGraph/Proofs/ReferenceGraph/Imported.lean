import PropertyGraph.Proofs.Lists
import PropertyGraph.Proofs.ReferenceGraph.Answers
import PropertyGraph.Proofs.Validity

/-! Where a model that was read has its parts from: each node from a label, each relationship
from a kind of relationships, and each property from a definition and the mapping of its
owner. -/
namespace PropertyGraph.ReferenceGraph

lemma lookUp_eq_ok {α : Type} {parts : List α} {id : α → String} {ref : Ref} {path : String}
    {target : Target} {part : α} (found : lookUp parts id ref path target = .ok part) :
    part ∈ parts ∧ id part = ref.id := by
  unfold lookUp at found
  split at found
  · rename_i first known
    cases found
    exact ⟨List.mem_of_find?_eq_some known, by simpa using List.find?_some known⟩
  · cases found

section Resolving

variable {schema : Schema} {resolved : Resolved}

/-- A kind of relationships with the parts of the schema that its references point at. -/
structure RelationshipKind.Of (schema : Schema) (object : RelationshipObject)
    (kind : RelationshipKind) : Prop where
  id : kind.id = object.id
  type : kind.type ∈ schema.relationshipTypes ∧ kind.type.id = object.type.id
  start : kind.start.label ∈ schema.nodeLabels ∧ kind.start.id = object.start.id
  finish : kind.finish.label ∈ schema.nodeLabels ∧ kind.finish.id = object.finish.id

lemma Resolved.label_mem {index : Nat} {object : NodeObject} {kind : NodeKind}
    (made : nodeKind schema index object = .ok kind) : kind.label ∈ schema.nodeLabels := by
  simp only [nodeKind] at made
  split_ifs at made
  split at made
  · cases made
  · obtain ⟨label, found, rfl⟩ := Except.map_eq_ok_iff.1 made
    exact (lookUp_eq_ok found).1

theorem Resolved.relationshipKinds_of (made : ofSchema schema = .ok resolved) :
    List.Forall₂ (RelationshipKind.Of schema) schema.relationshipObjects
      resolved.relationshipKinds := by
  simp only [ofSchema, Except.bind_eq_ok_iff] at made
  obtain ⟨-, -, -, -, nodeKinds, hn, relationshipKinds, hr, finish⟩ := made
  cases finish
  have labels : ∀ kind ∈ nodeKinds, kind.label ∈ schema.nodeLabels :=
    Except.forall_mem_of_mapM (fun entry kind => label_mem) hn
  refine Except.forall₂_of_mapM_zipIdx (fun object i kind resolved => ?_) hr
  simp only [relationshipKind, Except.bind_eq_ok_iff] at resolved
  obtain ⟨type, ht, start, hs, last, hf, finish⟩ := resolved
  cases finish
  obtain ⟨startKind, startId⟩ := lookUp_eq_ok hs
  obtain ⟨finishKind, finishId⟩ := lookUp_eq_ok hf
  exact ⟨rfl, lookUp_eq_ok ht, ⟨labels _ startKind, startId⟩, ⟨labels _ finishKind, finishId⟩⟩

end Resolving

structure Bindings.Of (graph : ReferenceGraph) (bindings : Bindings) : Prop where
  resolved : Resolved.ofSchema graph.schema = .ok bindings.resolved
  keys : bindings.keys = graph.nodeKeys.map fun key => (key.node.id, key.property.id)
  nodeMappings : bindings.nodeMappings =
    graph.nodeMappings.map fun mapping => (mapping.object.id, mapping.toMapping)
  relationshipMappings : bindings.relationshipMappings =
    graph.relationshipMappings.map fun mapping => (mapping.object.id, mapping.toMapping)

theorem Bindings.of_ofGraph {graph : ReferenceGraph} {bindings : Bindings}
    (made : ofGraph graph = .ok bindings) : bindings.Of graph := by
  simp only [ofGraph, Except.bind_eq_ok_iff] at made
  obtain ⟨resolved, hr, keys, hk, nodeMappings, hn, relationshipMappings, hm, finish⟩ := made
  cases finish
  refine ⟨hr, Except.eq_map_of_mapM_zipIdx (fun key i bound h => ?_) hk,
    Except.eq_map_of_mapM_zipIdx (fun mapping i bound h => ?_) hn,
    Except.eq_map_of_mapM_zipIdx (fun mapping i bound h => ?_) hm⟩
  · obtain ⟨kind, found, bound⟩ := Except.bind_eq_ok_iff.1 h
    cases bound
    rw [(lookUp_eq_ok found).2]
  · obtain ⟨kind, found, bound⟩ := Except.bind_eq_ok_iff.1 h
    cases bound
    rw [(lookUp_eq_ok found).2]
  · obtain ⟨kind, found, bound⟩ := Except.bind_eq_ok_iff.1 h
    cases bound
    rw [(lookUp_eq_ok found).2]

lemma Bindings.Of.relationshipMapping?_eq {graph : ReferenceGraph} {bindings : Bindings}
    (made : bindings.Of graph) {id : String} {mapping : RelationshipMapping}
    (only : graph.relationshipMappings.filter (·.object.id = id) = [mapping]) :
    bindings.relationshipMapping? id = some mapping.toMapping := by
  rw [relationshipMapping?, made.relationshipMappings, lookup_reverse_map, only]
  rfl

/-- The property that a definition becomes, with the mapping of its owner. -/
structure PropertyDef.Becomes (definition : PropertyDef) (mapping : Option Mapping)
    (kind : SourceKind) (property : Property) : Prop where
  name : property.name = definition.token
  source : ∃ m field, mapping = some m ∧ m.fieldOf? definition.id = some field ∧
    property.source = some ⟨some field, some m.tableName, none, some kind⟩
  provenance : property.provenance = some ⟨some definition.id, definition.nullable⟩

lemma PropertyDef.becomes_of_toProperty {definition : PropertyDef} {mapping : Option Mapping}
    {kind : SourceKind} {owner : Owner} {property : Property}
    (made : definition.toProperty mapping kind owner = .ok property) :
    definition.Becomes mapping kind property := by
  unfold toProperty at made
  split at made
  · rename_i table field known
    obtain ⟨m, given, mapped⟩ := Option.bind_eq_some_iff.1 known
    obtain ⟨found, there, same⟩ := Option.map_eq_some_iff.1 mapped
    cases same
    unfold Property.build at made
    split_ifs at made
    cases made
    exact ⟨rfl, ⟨m, _, given, there, rfl⟩, rfl⟩
  · cases made

/-- The definition that becomes the key of a label's node: the declared one, else the first. -/
def EntityDef.key? (bindings : Bindings) (label : EntityDef) : Option PropertyDef :=
  let declared := (bindings.resolved.nodeOfLabel? label.id).bind fun kind =>
    bindings.keyOf? kind.id
  label.properties.find? (fun definition => declared = some definition.id) <|>
    label.properties.head?

lemma EntityDef.key_of_chooseKey {label : EntityDef} {declared : Option String} {strict : Bool}
    {choice : KeyChoice} (chosen : (label.chooseKey declared strict).answer = .ok choice) :
    (label.properties.find? (fun definition => declared = some definition.id) <|>
      label.properties.head?) = some choice.key := by
  simp only [chooseKey] at chosen
  cases declaredKey : label.properties.find? fun definition =>
      declared = some definition.id with
  | some key =>
    simp only [declaredKey] at chosen
    cases chosen
    rfl
  | none =>
    simp only [declaredKey] at chosen
    cases listed : label.properties with
    | nil =>
      rw [listed] at chosen
      cases chosen
    | cons first others =>
      rw [listed] at chosen
      cases strict
      · cases chosen
        rfl
      · cases chosen

structure EntityDef.KeyAt (bindings : Bindings) (label : EntityDef) (key : PropertyDef)
    (table field : String) : Prop where
  chosen : label.key? bindings = some key
  mapped : ∃ kind mapping, bindings.resolved.nodeOfLabel? label.id = some kind ∧
    bindings.nodeMapping? kind.id = some mapping ∧ mapping.tableName = table ∧
    mapping.fieldOf? key.id = some field

structure ReadFrom (name table field : String) (property : Property) : Prop where
  name : property.name = name
  column : property.column? = if field = "" then none else some field
  table : property.table? = if table = "" then none else some table

lemma PropertyDef.Becomes.readFrom {definition : PropertyDef} {mapping : Option Mapping}
    {kind : SourceKind} {property : Property} (becomes : definition.Becomes mapping kind property) :
    ∃ m field, mapping = some m ∧ m.fieldOf? definition.id = some field ∧
      ReadFrom definition.token m.tableName field property := by
  obtain ⟨name, ⟨m, field, given, mapped, source⟩, -⟩ := becomes
  refine ⟨m, field, given, mapped, name, ?_, ?_⟩
  · by_cases empty : field = "" <;> simp [Property.column?, source, empty]
  · by_cases empty : m.tableName = "" <;> simp [Property.table?, source, empty]

/-- The node of a label has its key where the document has it. -/
lemma EntityDef.key_of_toNode {bindings : Bindings} {strict : Bool} {label : EntityDef}
    {node : Node} (made : (label.toNode bindings strict).answer = .ok node) :
    node.label = label.token ∧ ∃ key table field, label.KeyAt bindings key table field ∧
      ReadFrom key.token table field node.key := by
  simp only [answer_toNode, Except.bind_eq_ok_iff] at made
  obtain ⟨choice, hc, key, hk, others, -, built⟩ := made
  obtain ⟨-, rfl⟩ := Node.build_eq_ok_iff.1 built
  obtain ⟨m, field, given, mapped, read⟩ := (PropertyDef.becomes_of_toProperty hk).readFrom
  obtain ⟨kind, hkind, hm⟩ := Option.bind_eq_some_iff.1 given
  exact ⟨rfl, choice.key, m.tableName, field,
    ⟨key_of_chooseKey hc, kind, m, hkind, hm, rfl, mapped⟩, read⟩

lemma RelationshipKind.converted_of_toRelationship {bindings : Bindings}
    {kind : RelationshipKind} {relationship : Relationship}
    (made : kind.toRelationship bindings = .ok relationship) :
    relationship.type = kind.type.token ∧ relationship.startLabel = kind.start.label.token ∧
      relationship.endLabel = kind.finish.label.token ∧ relationship.key = none ∧
      ∃ owner, List.Forall₂ (fun definition property =>
        PropertyDef.toProperty (bindings.relationshipMapping? kind.id) bindings.sourceKind owner
          definition = .ok property) kind.type.properties relationship.properties := by
  simp only [toRelationship, Except.bind_eq_ok_iff] at made
  obtain ⟨properties, hp, built⟩ := made
  obtain ⟨-, rfl⟩ := Relationship.build_eq_ok_iff.1 built
  have same : withoutKey none properties = properties := by simp [withoutKey]
  exact ⟨rfl, rfl, rfl, rfl, _, same.symm ▸ Except.mapM_eq_ok_iff.1 hp⟩

/-- The relationship of a kind has its properties where the document has them. -/
lemma RelationshipKind.of_toRelationship {bindings : Bindings} {kind : RelationshipKind}
    {relationship : Relationship} (made : kind.toRelationship bindings = .ok relationship) :
    relationship.type = kind.type.token ∧ relationship.startLabel = kind.start.label.token ∧
      relationship.endLabel = kind.finish.label.token ∧ relationship.key = none ∧
      List.Forall₂ (fun definition property =>
        PropertyDef.Becomes definition (bindings.relationshipMapping? kind.id)
          bindings.sourceKind property) kind.type.properties relationship.properties := by
  obtain ⟨type, start, finish, key, owner, properties⟩ := converted_of_toRelationship made
  exact ⟨type, start, finish, key, properties.imp fun _ _ => PropertyDef.becomes_of_toProperty⟩

/-- The parts of a model that was read, one for each part of the graph. -/
theorem exists_of_read {document : Option Json} {strict : Bool} {model : Model}
    (read : (read document strict).answer = .ok model) :
    ∃ json bindings, Document.check shape document "reference-graph document" = .ok json ∧
      Bindings.ofGraph (ofJson json) = .ok bindings ∧ bindings.Of (ofJson json) ∧
      List.Forall₂ (fun label node => (EntityDef.toNode bindings strict label).answer = .ok node)
        (ofJson json).schema.nodeLabels model.nodes ∧
      List.Forall₂ (fun kind relationship => kind.toRelationship bindings = .ok relationship)
        bindings.resolved.relationshipKinds model.relationships := by
  rw [answer_read] at read
  obtain ⟨json, checked, made⟩ := Except.bind_eq_ok_iff.1 read
  simp only [answer_toModel, Except.bind_eq_ok_iff] at made
  obtain ⟨bindings, hb, nodes, hn, relationships, hr, built⟩ := made
  obtain ⟨-, -, rfl⟩ := Except.map_eq_ok_iff.1 built
  exact ⟨json, bindings, checked, hb, Bindings.of_ofGraph hb, Except.mapM_eq_ok_iff.1 hn,
    Except.mapM_eq_ok_iff.1 hr⟩

lemma exists_bindings {document : Option Json} {strict : Bool} {model : Model} {json : Json}
    (read : (read document strict).answer = .ok model)
    (checked : Document.check shape document "reference-graph document" = .ok json) :
    ∃ bindings, Bindings.ofGraph (ofJson json) = .ok bindings ∧ bindings.Of (ofJson json) ∧
      List.Forall₂ (fun label node => (EntityDef.toNode bindings strict label).answer = .ok node)
        (ofJson json).schema.nodeLabels model.nodes ∧
      List.Forall₂ (fun kind relationship => kind.toRelationship bindings = .ok relationship)
        bindings.resolved.relationshipKinds model.relationships := by
  obtain ⟨other, bindings, same, parts⟩ := exists_of_read read
  obtain rfl := Except.ok.inj (same.symm.trans checked)
  exact ⟨bindings, parts⟩

end PropertyGraph.ReferenceGraph

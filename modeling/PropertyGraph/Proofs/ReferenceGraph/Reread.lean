import PropertyGraph.Proofs.Lists
import PropertyGraph.Proofs.ReferenceGraph.Answers
import PropertyGraph.Proofs.ReferenceGraph.Numbering
import PropertyGraph.Proofs.TypeTag

/-! What a reader makes of the graph of a numbered model. Every reference in it is found
where it was written, so nothing is refused, and every entity comes back with the ids,
fields and tables that the graph gives it. -/
namespace PropertyGraph.ReferenceGraph

lemma lookUp_of_mem {α : Type} {parts : List α} {id : α → String} {part : α} {ref : Ref}
    (distinct : (parts.map id).Nodup) (member : part ∈ parts) (same : id part = ref.id)
    (path : String) (target : Target) : lookUp parts id ref path target = .ok part := by
  rw [lookUp, find?_of_mem distinct member same]

lemma checkIds_of_nodup {ids : List String} (distinct : ids.Nodup) (path : String) :
    checkIds path ids = .ok () := by
  have none : ids.zipIdx.find? (fun entry => (ids.take entry.2).contains entry.1) = none := by
    rw [List.find?_eq_none]
    rintro ⟨id, i⟩ member repeated
    have here := List.mem_zipIdx_iff_getElem?.1 member
    exact not_mem_take distinct here (List.contains_iff_mem.1 repeated)
  rw [checkIds, none]

def Numbered.reread (kind : SourceKind) (table : String) (numbered : Numbered) : Property where
  name := numbered.property.name
  type := TypeTag.carried numbered.property.type
  source := some ⟨some numbered.fieldName, some table, none, some kind⟩
  description := none
  provenance := some ⟨some numbered.id, numbered.definition.nullable⟩

def NumberedNode.reread (grid : Grid) (kind : SourceKind) (entry : NumberedNode) : Node where
  label := entry.node.label
  key := entry.key.reread kind entry.tableName
  properties := entry.others.map (Numbered.reread kind entry.tableName)
  metadata := ⟨none, some (entry.placement grid).position⟩

/-- The relationship as a reader of the graph has it: the key is a property like others. -/
def NumberedRelationship.reread (kind : SourceKind) (entry : NumberedRelationship) :
    Relationship where
  type := entry.relationship.type
  startLabel := entry.relationship.startLabel
  endLabel := entry.relationship.endLabel
  key := none
  properties := entry.properties.map (Numbered.reread kind entry.tableName)
  metadata := .empty

/-- A graph that shows the entities of a numbered model, whatever else it stores. -/
structure Shows (grid : Grid) (numbered : NumberedModel) (graph : ReferenceGraph) : Prop where
  nodeLabels : graph.schema.nodeLabels = numbered.nodes.map NumberedNode.definition
  relationshipTypes : graph.schema.relationshipTypes =
    numbered.relationships.map NumberedRelationship.definition
  nodeObjects : graph.schema.nodeObjects = numbered.nodes.map NumberedNode.kind
  relationshipObjects : graph.schema.relationshipObjects =
    numbered.relationships.map NumberedRelationship.kind
  nodeKeys : graph.nodeKeys = numbered.nodes.map NumberedNode.nodeKey
  nodeMappings : graph.nodeMappings = numbered.nodes.map NumberedNode.mapping
  relationshipMappings : graph.relationshipMappings =
    numbered.relationships.map NumberedRelationship.mapping
  placements : graph.placements = some (numbered.nodes.map (NumberedNode.placement grid))

def NumberedNode.resolved (entry : NumberedNode) : NodeKind := ⟨entry.kindId, entry.definition⟩

def NumberedRelationship.resolved (entry : NumberedRelationship) : RelationshipKind :=
  ⟨entry.kindId, entry.definition, entry.start.resolved, entry.finish.resolved⟩

def NumberedModel.resolved (numbered : NumberedModel) : Resolved :=
  ⟨numbered.nodes.map NumberedNode.resolved,
    numbered.relationships.map NumberedRelationship.resolved⟩

section Resolving

variable {model : Model} {numbered : NumberedModel} {grid : Grid} {graph : ReferenceGraph}

namespace NumberedModel.Fits

lemma nodup_nodes (fits : numbered.Fits model) {id : Nat → String}
    (injective : Function.Injective id) : (numbered.nodes.map fun e => id e.index).Nodup := by
  have positions : (numbered.nodes.map NumberedNode.index).Nodup :=
    fits.nodeIndexes ▸ List.nodup_range
  have ids := positions.map injective
  rwa [List.map_map] at ids

lemma nodup_relationships (fits : numbered.Fits model) {id : Nat → String}
    (injective : Function.Injective id) :
    (numbered.relationships.map fun e => id e.index).Nodup := by
  have positions : (numbered.relationships.map NumberedRelationship.index).Nodup :=
    fits.relationshipIndexes ▸ List.nodup_range
  have ids := positions.map injective
  rwa [List.map_map] at ids

lemma labelIds (fits : numbered.Fits model) :
    (numbered.nodes.map NumberedNode.labelId).Nodup := fits.nodup_nodes nodeLabelId_injective

lemma nodeKindIds (fits : numbered.Fits model) :
    (numbered.nodes.map NumberedNode.kindId).Nodup := fits.nodup_nodes nodeKindId_injective

lemma typeIds (fits : numbered.Fits model) :
    (numbered.relationships.map NumberedRelationship.typeId).Nodup :=
  fits.nodup_relationships relationshipTypeId_injective

lemma relationshipKindIds (fits : numbered.Fits model) :
    (numbered.relationships.map NumberedRelationship.kindId).Nodup :=
  fits.nodup_relationships relationshipKindId_injective

end NumberedModel.Fits

lemma mem_of_endNode {nodes : List NumberedNode} {label : String} {entry : NumberedNode}
    (found : endNode nodes label = .ok entry) : entry ∈ nodes ∧ entry.node.label = label := by
  unfold endNode at found
  split at found
  · rename_i first known
    cases found
    exact ⟨List.mem_of_find?_eq_some known, by simpa using List.find?_some known⟩
  · cases found

lemma lookUp_label (fits : numbered.Fits model) {entry : NumberedNode}
    (member : entry ∈ numbered.nodes) (path : String) (target : Target) :
    lookUp (numbered.nodes.map NumberedNode.definition) EntityDef.id (.toId entry.labelId) path
      target = .ok entry.definition := by
  refine lookUp_of_mem ?_ (List.mem_map_of_mem member) (by simp [NumberedNode.definition]) _ _
  simpa [Function.comp_def, NumberedNode.definition] using fits.labelIds

lemma lookUp_type (fits : numbered.Fits model) {entry : NumberedRelationship}
    (member : entry ∈ numbered.relationships) (path : String) (target : Target) :
    lookUp (numbered.relationships.map NumberedRelationship.definition) EntityDef.id
      (.toId entry.typeId) path target = .ok entry.definition := by
  refine lookUp_of_mem ?_ (List.mem_map_of_mem member)
    (by simp [NumberedRelationship.definition]) _ _
  simpa [Function.comp_def, NumberedRelationship.definition] using fits.typeIds

lemma lookUp_nodeKind (fits : numbered.Fits model) {entry : NumberedNode}
    (member : entry ∈ numbered.nodes) (path : String) (target : Target) :
    lookUp (numbered.nodes.map NumberedNode.resolved) NodeKind.id (.toId entry.kindId) path
      target = .ok entry.resolved := by
  refine lookUp_of_mem ?_ (List.mem_map_of_mem member) (by simp [NumberedNode.resolved]) _ _
  simpa [Function.comp_def, NumberedNode.resolved] using fits.nodeKindIds

lemma lookUp_relationshipKind (fits : numbered.Fits model) {entry : NumberedRelationship}
    (member : entry ∈ numbered.relationships) (path : String) (target : Target) :
    lookUp (numbered.relationships.map NumberedRelationship.resolved) RelationshipKind.id
      (.toId entry.kindId) path target = .ok entry.resolved := by
  refine lookUp_of_mem ?_ (List.mem_map_of_mem member)
    (by simp [NumberedRelationship.resolved]) _ _
  simpa [Function.comp_def, NumberedRelationship.resolved] using fits.relationshipKindIds

lemma nodeKind_eq (fits : numbered.Fits model) (shows : Shows grid numbered graph) {i : Nat}
    {entry : NumberedNode} (here : numbered.nodes[i]? = some entry) :
    Resolved.nodeKind graph.schema i entry.kind = .ok entry.resolved := by
  have member : entry ∈ numbered.nodes := List.mem_of_getElem? here
  have ids : graph.schema.nodeObjects.map NodeObject.id =
      numbered.nodes.map NumberedNode.kindId := by
    simp [shows.nodeObjects, Function.comp_def, NumberedNode.kind]
  have new : ((graph.schema.nodeObjects.take i).map NodeObject.id).contains entry.kindId =
      false := by
    have place : (numbered.nodes.map NumberedNode.kindId)[i]? = some entry.kindId := by
      simp [here]
    rw [List.map_take, ids]
    simpa using not_mem_take fits.nodeKindIds place
  simp only [Resolved.nodeKind, NumberedNode.kind, new, Bool.false_eq_true, if_false,
    shows.nodeLabels, lookUp_label fits member]
  rfl

lemma relationshipKind_eq (fits : numbered.Fits model) (shows : Shows grid numbered graph)
    {entry : NumberedRelationship} (member : entry ∈ numbered.relationships) (i : Nat) :
    Resolved.relationshipKind graph.schema (numbered.nodes.map NumberedNode.resolved) i
      entry.kind = .ok entry.resolved := by
  have start := (mem_of_endNode (fits.eachRelationship entry member).start).1
  have finish := (mem_of_endNode (fits.eachRelationship entry member).finish).1
  simp only [Resolved.relationshipKind, NumberedRelationship.kind, shows.relationshipTypes,
    lookUp_type fits member, lookUp_nodeKind fits start, lookUp_nodeKind fits finish]
  rfl

theorem Resolved.ofSchema_eq (fits : numbered.Fits model) (shows : Shows grid numbered graph) :
    Resolved.ofSchema graph.schema = .ok numbered.resolved := by
  have labels : (graph.schema.nodeLabels.map EntityDef.id).Nodup := by
    simpa [shows.nodeLabels, Function.comp_def, NumberedNode.definition] using fits.labelIds
  have types : (graph.schema.relationshipTypes.map EntityDef.id).Nodup := by
    simpa [shows.relationshipTypes, Function.comp_def, NumberedRelationship.definition] using
      fits.typeIds
  have nodes : graph.schema.nodeObjects.zipIdx.mapM (fun entry =>
      nodeKind graph.schema entry.2 entry.1) = .ok (numbered.nodes.map NumberedNode.resolved) := by
    rw [shows.nodeObjects]
    exact Except.mapM_zipIdx_eq_map fun i entry here => nodeKind_eq fits shows here
  have relationships : graph.schema.relationshipObjects.zipIdx.mapM (fun entry =>
      relationshipKind graph.schema (numbered.nodes.map NumberedNode.resolved) entry.2 entry.1) =
        .ok (numbered.relationships.map NumberedRelationship.resolved) := by
    rw [shows.relationshipObjects]
    exact Except.mapM_zipIdx_eq_map fun i entry here =>
      relationshipKind_eq fits shows (List.mem_of_getElem? here) i
  unfold ofSchema
  exact Except.bind_eq_ok_iff.2 ⟨(), checkIds_of_nodup labels _, Except.bind_eq_ok_iff.2
    ⟨(), checkIds_of_nodup types _, Except.bind_eq_ok_iff.2 ⟨_, nodes, Except.bind_eq_ok_iff.2
      ⟨_, relationships, rfl⟩⟩⟩⟩

def NumberedModel.bindings (grid : Grid) (kind : SourceKind) (numbered : NumberedModel) :
    Bindings where
  resolved := numbered.resolved
  keys := numbered.nodes.map fun e => (e.kindId, e.key.id)
  nodeMappings := numbered.nodes.map fun e => (e.kindId, e.mapping.toMapping)
  relationshipMappings := numbered.relationships.map fun e => (e.kindId, e.mapping.toMapping)
  places := numbered.nodes.map fun e => (e.kindId, (e.placement grid).position)
  sourceKind := kind

/-- The kind of source that a reader takes the data to have. -/
def sourceKind (graph : ReferenceGraph) : SourceKind :=
  (graph.sourceSchema.map SourceSchema.sourceKind).getD .onSite

theorem Bindings.ofGraph_eq (fits : numbered.Fits model) (shows : Shows grid numbered graph) :
    Bindings.ofGraph graph = .ok (numbered.bindings grid graph.sourceKind) := by
  have keys : graph.nodeKeys.zipIdx.mapM (fun entry => do
      let path := s!"dataModel.graphSchemaExtensionsRepresentation.nodeKeyProperties.{entry.2}.node"
      return ((← numbered.resolved.node entry.1.node path).id, entry.1.property.id)) =
        .ok (numbered.nodes.map fun e => (e.kindId, e.key.id)) := by
    rw [shows.nodeKeys]
    refine Except.mapM_zipIdx_eq_map fun i entry here => ?_
    simp only [NumberedNode.nodeKey, Resolved.node, NumberedModel.resolved,
      lookUp_nodeKind fits (List.mem_of_getElem? here), Ref.id_toId]
    rfl
  have nodeMappings : graph.nodeMappings.zipIdx.mapM (fun entry => do
      let kind ← numbered.resolved.node entry.1.object s!"{mappingPath}.nodeMappings.{entry.2}.node"
      return (kind.id, entry.1.toMapping)) =
        .ok (numbered.nodes.map fun e => (e.kindId, e.mapping.toMapping)) := by
    rw [shows.nodeMappings]
    refine Except.mapM_zipIdx_eq_map fun i entry here => ?_
    simp only [NumberedNode.mapping, Resolved.node, NumberedModel.resolved,
      lookUp_nodeKind fits (List.mem_of_getElem? here)]
    rfl
  have relationshipMappings : graph.relationshipMappings.zipIdx.mapM (fun entry => do
      let path := s!"{mappingPath}.relationshipMappings.{entry.2}.relationship"
      return ((← numbered.resolved.relationship entry.1.object path).id, entry.1.toMapping)) =
        .ok (numbered.relationships.map fun e => (e.kindId, e.mapping.toMapping)) := by
    rw [shows.relationshipMappings]
    refine Except.mapM_zipIdx_eq_map fun i entry here => ?_
    simp only [NumberedRelationship.mapping, Resolved.relationship, NumberedModel.resolved,
      lookUp_relationshipKind fits (List.mem_of_getElem? here)]
    rfl
  have places : (graph.placements.getD []).map (fun place => (place.id, place.position)) =
      numbered.nodes.map fun e => (e.kindId, (e.placement grid).position) := by
    rw [shows.placements, Option.getD_some, List.map_map]
    rfl
  unfold ofGraph
  refine Except.bind_eq_ok_iff.2 ⟨_, Resolved.ofSchema_eq fits shows, Except.bind_eq_ok_iff.2
    ⟨_, keys, Except.bind_eq_ok_iff.2 ⟨_, nodeMappings, Except.bind_eq_ok_iff.2
      ⟨_, relationshipMappings, ?_⟩⟩⟩⟩
  rw [places]
  rfl

end Resolving

section Rereading

variable {model : Model} {numbered : NumberedModel} {grid : Grid} {graph : ReferenceGraph}
  {kind : SourceKind}

namespace NumberedModel.Fits

lemma nodup_node_ids (fits : numbered.Fits model) {entry : NumberedNode}
    (member : entry ∈ numbered.nodes) : (entry.properties.map Numbered.id).Nodup :=
  (List.nodup_flatMap.1 (List.Nodup.of_append_left fits.distinct)).1 entry member

lemma nodup_relationship_ids (fits : numbered.Fits model) {entry : NumberedRelationship}
    (member : entry ∈ numbered.relationships) : (entry.properties.map Numbered.id).Nodup :=
  (List.nodup_flatMap.1 (List.Nodup.of_append_right fits.distinct)).1 entry member

lemma node_mem (fits : numbered.Fits model) {entry : NumberedNode}
    (member : entry ∈ numbered.nodes) : entry.node ∈ model.nodes :=
  fits.nodes ▸ List.mem_map_of_mem member

lemma relationship_mem (fits : numbered.Fits model) {entry : NumberedRelationship}
    (member : entry ∈ numbered.relationships) : entry.relationship ∈ model.relationships :=
  fits.relationships ▸ List.mem_map_of_mem member

end NumberedModel.Fits

lemma NumberedModel.FitsValid.eq_endNode (fits : numbered.FitsValid model) {label : String}
    {entry : NumberedNode} (found : endNode numbered.nodes label = .ok entry) {node : Node}
    (member : node ∈ model.nodes) (same : node.label = label) : node = entry.node := by
  obtain ⟨inside, labelled⟩ := mem_of_endNode found
  exact List.inj_on_of_nodup_map fits.valid.labels member (fits.node_mem inside)
    (same.trans labelled.symm)

lemma NumberedNode.Fits.map_property {entry : NumberedNode} (fits : entry.Fits) :
    entry.properties.map Numbered.property = entry.node.allProperties := by
  simp [NumberedNode.properties, Node.allProperties, withKey, fits.key, fits.others.properties]

lemma NumberedRelationship.Fits.map_property {nodes : List NumberedNode}
    {entry : NumberedRelationship} (fits : entry.Fits nodes) :
    entry.properties.map Numbered.property = entry.relationship.allProperties := by
  simp [NumberedRelationship.properties, Relationship.allProperties, withKey,
    fits.key.properties, fits.others.properties]

lemma upper_type_of_valid {property : Property} (valid : property.Valid) :
    Text.upper property.type = property.type := by
  obtain ⟨text, same⟩ := valid.type
  rw [same, TypeTag.upper_normalize]

lemma toProperty_eq {mapping : Mapping} {properties : List Numbered}
    (fields : mapping.fields = properties.map Numbered.mapping)
    (distinct : (properties.map Numbered.id).Nodup) {n : Numbered} (member : n ∈ properties)
    (valid : n.property.Valid) (kind : SourceKind) (owner : Owner) :
    n.definition.toProperty (some mapping) kind owner =
      .ok (n.reread kind mapping.tableName) := by
  have ids : ((properties.map Numbered.mapping).map (·.property.id)).Nodup := by
    simpa [Function.comp_def, Numbered.mapping] using distinct
  have same : n.mapping.property.id = n.id := by simp [Numbered.mapping]
  have found := find?_of_mem ids (List.mem_map_of_mem member) same
  have field : mapping.fieldOf? n.id = some n.fieldName := by
    rw [Mapping.fieldOf?, fields, found]
    rfl
  have type : TypeTag.normalize (TypeTag.fromReferenceGraph
      (TypeTag.toReferenceGraph n.property.type)) = TypeTag.carried n.property.type := by
    rw [TypeTag.fromReferenceGraph_toReferenceGraph (upper_type_of_valid valid),
      TypeTag.normalize_carried]
  simp [PropertyDef.toProperty, Numbered.definition, field, Property.build, valid.name, type,
    Numbered.reread]

lemma answer_chooseKey (entry : NumberedNode) (strict : Bool) :
    (entry.definition.chooseKey (some entry.key.id) strict).answer =
      .ok ⟨entry.key.definition, entry.others.map Numbered.definition⟩ := by
  simp [EntityDef.chooseKey, NumberedNode.definition, NumberedNode.properties,
    Numbered.definition]

lemma nodeOfLabel?_eq (fits : numbered.Fits model) {entry : NumberedNode}
    (member : entry ∈ numbered.nodes) :
    numbered.resolved.nodeOfLabel? entry.labelId = some entry.resolved := by
  refine find?_of_mem ?_ (List.mem_map_of_mem member) rfl
  simpa [Function.comp_def, NumberedNode.resolved, NumberedNode.definition] using fits.labelIds

lemma names_reread (kind : SourceKind) (table : String) (properties : List Numbered) :
    (properties.map (Numbered.reread kind table)).map Property.name =
      (properties.map Numbered.property).map Property.name := by
  simp [Function.comp_def, Numbered.reread]

theorem answer_toNode_eq (fits : numbered.FitsValid model)
    {entry : NumberedNode} (member : entry ∈ numbered.nodes) (strict : Bool) :
    (entry.definition.toNode (numbered.bindings grid kind) strict).answer =
      .ok (entry.reread grid kind) := by
  have fit := fits.eachNode entry member
  have nodeValid := fits.valid.nodes _ (fits.node_mem member)
  have object : (numbered.bindings grid kind).resolved.nodeOfLabel? entry.definition.id =
      some entry.resolved := nodeOfLabel?_eq fits.toFits member
  have key : (numbered.bindings grid kind).keyOf? entry.resolved.id = some entry.key.id :=
    lookup_of_mem fits.nodeKindIds member
  have mapping : (numbered.bindings grid kind).nodeMapping? entry.resolved.id =
      some entry.mapping.toMapping := lookup_reverse_of_mem fits.nodeKindIds member
  have place : (numbered.bindings grid kind).place? entry.resolved.id =
      some (entry.placement grid).position := lookup_reverse_of_mem fits.nodeKindIds member
  have convert (n : Numbered) (inside : n ∈ entry.properties) (owner : Owner) :
      n.definition.toProperty (some entry.mapping.toMapping) kind owner =
        .ok (n.reread kind entry.tableName) := by
    have listed : n.property ∈ entry.node.allProperties :=
      fit.map_property ▸ List.mem_map_of_mem inside
    exact toProperty_eq rfl (fits.nodup_node_ids member) inside
      (nodeValid.properties.each _ listed) kind owner
  have others : (entry.others.map Numbered.definition).mapM (fun definition =>
      definition.toProperty (some entry.mapping.toMapping) kind (.node entry.node.label)) =
        .ok (entry.others.map (Numbered.reread kind entry.tableName)) := by
    rw [List.mapM_map]
    exact Except.mapM_eq_map fun n inside => convert n (List.mem_cons_of_mem _ inside) _
  have distinct : ((withKey (some (entry.key.reread kind entry.tableName))
      (entry.others.map (Numbered.reread kind entry.tableName))).map Property.name).Nodup := by
    have names := nodeValid.properties.names
    change (entry.node.allProperties.map Property.name).Nodup at names
    rw [← fit.map_property, ← names_reread kind entry.tableName] at names
    exact names
  have built : Node.build entry.node.label (entry.key.reread kind entry.tableName)
      (entry.others.map (Numbered.reread kind entry.tableName))
      ⟨none, some (entry.placement grid).position⟩ = .ok (entry.reread grid kind) :=
    Node.build_of_nodup nodeValid.label distinct _
  rw [EntityDef.answer_toNode]
  simp only [object, Option.bind_some, key, mapping, place]
  exact Except.bind_eq_ok_iff.2 ⟨_, answer_chooseKey entry strict, Except.bind_eq_ok_iff.2
    ⟨_, convert entry.key List.mem_cons_self _, Except.bind_eq_ok_iff.2 ⟨_, others, built⟩⟩⟩

theorem toRelationship_eq (fits : numbered.FitsValid model)
    {entry : NumberedRelationship} (member : entry ∈ numbered.relationships) :
    entry.resolved.toRelationship (numbered.bindings grid kind) = .ok (entry.reread kind) := by
  have fit := fits.eachRelationship entry member
  have relationshipValid := fits.valid.relationships _ (fits.relationship_mem member)
  have start : entry.resolved.start.label.token = entry.relationship.startLabel :=
    (mem_of_endNode fit.start).2
  have finish : entry.resolved.finish.label.token = entry.relationship.endLabel :=
    (mem_of_endNode fit.finish).2
  have mapping : (numbered.bindings grid kind).relationshipMapping? entry.resolved.id =
      some entry.mapping.toMapping := lookup_reverse_of_mem fits.relationshipKindIds member
  have properties (owner : Owner) : (entry.properties.map Numbered.definition).mapM
      (PropertyDef.toProperty (some entry.mapping.toMapping) kind owner) =
        .ok (entry.properties.map (Numbered.reread kind entry.tableName)) := by
    rw [List.mapM_map]
    refine Except.mapM_eq_map fun n inside => ?_
    have listed : n.property ∈ entry.relationship.allProperties :=
      fit.map_property ▸ List.mem_map_of_mem inside
    exact toProperty_eq rfl (fits.nodup_relationship_ids member) inside
      (relationshipValid.properties.each _ listed) kind owner
  have distinct : ((withKey none
      (entry.properties.map (Numbered.reread kind entry.tableName))).map Property.name).Nodup := by
    have names := relationshipValid.properties.names
    change (entry.relationship.allProperties.map Property.name).Nodup at names
    rw [← fit.map_property, ← names_reread kind entry.tableName] at names
    exact names
  have built : Relationship.build entry.relationship.type entry.relationship.startLabel
      entry.relationship.endLabel none
      (entry.properties.map (Numbered.reread kind entry.tableName)) .empty =
        .ok (entry.reread kind) :=
    Relationship.build_of_nodup relationshipValid.type relationshipValid.startLabel
      relationshipValid.endLabel distinct _
  simp only [RelationshipKind.toRelationship, mapping, start, finish]
  exact Except.bind_eq_ok_iff.2 ⟨_, properties _, built⟩

/-- The model as a reader of its graph has it, apart from what the graph stores. -/
def NumberedModel.reread (grid : Grid) (kind : SourceKind) (metadata : ModelMetadata)
    (numbered : NumberedModel) : Model where
  nodes := numbered.nodes.map (NumberedNode.reread grid kind)
  relationships := numbered.relationships.map (NumberedRelationship.reread kind)
  metadata := metadata

lemma NumberedModel.Fits.labels_reread (fits : numbered.Fits model) (grid : Grid)
    (kind : SourceKind) :
    (numbered.nodes.map (NumberedNode.reread grid kind)).map Node.label = model.labels := by
  simp [Model.labels, ← fits.nodes, Function.comp_def, NumberedNode.reread]

lemma NumberedModel.Fits.patterns_reread (fits : numbered.Fits model) (kind : SourceKind) :
    (numbered.relationships.map (NumberedRelationship.reread kind)).map Relationship.pattern =
      model.patterns := by
  simp [Model.patterns, ← fits.relationships, Function.comp_def, NumberedRelationship.reread,
    Relationship.pattern]

/-- The graph of a valid model is read as that model with what the graph adds, strict or
not. -/
theorem answer_toModel_eq (fits : numbered.FitsValid model)
    (shows : Shows grid numbered graph) (strict : Bool) :
    (graph.toModel strict).answer =
      .ok (numbered.reread grid graph.sourceKind ⟨none, some graph.stored⟩) := by
  have nodes : graph.schema.nodeLabels.mapM (fun label =>
      (label.toNode (numbered.bindings grid graph.sourceKind) strict).answer) =
        .ok (numbered.nodes.map (NumberedNode.reread grid graph.sourceKind)) := by
    rw [shows.nodeLabels, List.mapM_map]
    exact Except.mapM_eq_map fun entry member => answer_toNode_eq fits member strict
  have relationships : numbered.resolved.relationshipKinds.mapM
      (RelationshipKind.toRelationship (numbered.bindings grid graph.sourceKind)) =
        .ok (numbered.relationships.map (NumberedRelationship.reread graph.sourceKind)) := by
    simp only [NumberedModel.resolved, List.mapM_map]
    exact Except.mapM_eq_map fun entry member => toRelationship_eq fits member
  have labels := fits.labels_reread grid graph.sourceKind
  have patterns := fits.patterns_reread graph.sourceKind
  have ends : ∀ r ∈ numbered.relationships.map (NumberedRelationship.reread graph.sourceKind),
      r.startLabel ∈ model.labels ∧ r.endLabel ∈ model.labels := by
    intro r member
    obtain ⟨entry, inside, rfl⟩ := List.mem_map.1 member
    exact fits.valid.ends entry.relationship (fits.relationship_mem inside)
  have built : Model.build (numbered.nodes.map (NumberedNode.reread grid graph.sourceKind))
      (numbered.relationships.map (NumberedRelationship.reread graph.sourceKind))
      ⟨none, some graph.stored⟩ =
        .ok (numbered.reread grid graph.sourceKind ⟨none, some graph.stored⟩) := by
    refine Model.build_eq_ok_iff.2 ⟨Model.consistent_iff.2 ?_, rfl⟩
    rw [labels, patterns]
    exact ⟨fits.valid.labels, fits.valid.patterns, ends⟩
  rw [answer_toModel]
  exact Except.bind_eq_ok_iff.2 ⟨_, Bindings.ofGraph_eq fits.toFits shows, Except.bind_eq_ok_iff.2
    ⟨_, nodes, Except.bind_eq_ok_iff.2 ⟨_, relationships, built⟩⟩⟩

end Rereading

end PropertyGraph.ReferenceGraph

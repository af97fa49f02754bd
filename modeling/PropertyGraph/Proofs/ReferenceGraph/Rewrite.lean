import PropertyGraph.Proofs.LowerCase
import PropertyGraph.Proofs.ReferenceGraph.Normal
import PropertyGraph.Proofs.ReferenceGraph.Renumbering

/-! The graph that is written for a reread model. Everything is read back into the place that
the writer consults, except the fields of ends and the tables of relationships without
properties, for which a reread key says more than the first one did. -/
namespace PropertyGraph.ReferenceGraph

section Names

lemma column?_ne_empty {property : Property} {column : String}
    (known : property.column? = some column) : column ≠ "" := by
  have kept := (Option.filter_eq_some_iff.1 known).2
  simpa using kept

lemma table?_ne_empty {property : Property} {table : String}
    (known : property.table? = some table) : table ≠ "" := by
  have kept := (Option.filter_eq_some_iff.1 known).2
  simpa using kept

lemma Numbered.fieldName_ne_empty {n : Numbered} (valid : n.property.Valid) :
    n.fieldName ≠ "" := by
  unfold Numbered.fieldName
  cases known : n.property.column? with
  | none => exact ne_empty_of_not_blank valid.name
  | some column => exact column?_ne_empty known

lemma NumberedNode.tableName_ne_empty (entry : NumberedNode) : entry.tableName ≠ "" := by
  unfold NumberedNode.tableName
  cases known : entry.node.key.table? with
  | none => simp
  | some table => exact table?_ne_empty known

lemma NumberedRelationship.tableName_ne_empty (entry : NumberedRelationship) :
    entry.tableName ≠ "" := by
  unfold NumberedRelationship.tableName
  simp only
  cases own : entry.relationship.key.bind Property.table? with
  | some table =>
    obtain ⟨key, -, known⟩ := Option.bind_eq_some_iff.1 own
    exact table?_ne_empty known
  | none =>
    cases other : entry.relationship.properties.findSome? Property.table? with
    | some table =>
      obtain ⟨property, -, known⟩ := List.exists_of_findSome?_eq_some other
      exact table?_ne_empty known
    | none =>
      cases start : entry.start.node.key.table? with
      | some table => exact table?_ne_empty start
      | none => exact Text.lower_ne_empty (by simp)

end Names

section Again

variable {grid : Grid} {kind : SourceKind} {table : String}

lemma Numbered.column?_reread {n : Numbered} (valid : n.property.Valid) :
    (n.reread kind table).column? = some n.fieldName := by
  have nonEmpty := Numbered.fieldName_ne_empty valid
  simp [Numbered.reread, Property.column?, nonEmpty]

lemma Numbered.table?_reread {n : Numbered} (ht : table ≠ "") :
    (n.reread kind table).table? = some table := by
  simp [Numbered.reread, Property.table?, ht]

lemma Numbered.definition_again {n : Numbered} (valid : n.property.Valid) (isKey : Bool) :
    (n.again kind table isKey).definition = n.definition := by
  have type := TypeTag.toReferenceGraph_carried (upper_type_of_valid valid)
  simp [Numbered.definition, Numbered.again, Numbered.reread, type]

lemma Numbered.mapping_again {n : Numbered} (valid : n.property.Valid) (isKey : Bool) :
    (n.again kind table isKey).mapping = n.mapping := by
  have column : (n.again kind table isKey).property.column? = some n.fieldName :=
    Numbered.column?_reread valid
  simp [Numbered.mapping, Numbered.again, Numbered.fieldName] at column ⊢
  simp [column]

variable {properties : List Numbered}

lemma definitions_again (valid : ∀ n ∈ properties, n.property.Valid) (isKey : Bool) :
    (properties.map (Numbered.again kind table isKey)).map Numbered.definition =
      properties.map Numbered.definition := by
  rw [List.map_map]
  exact List.map_congr_left fun n member => Numbered.definition_again (valid n member) isKey

lemma mappings_again (valid : ∀ n ∈ properties, n.property.Valid) (isKey : Bool) :
    (properties.map (Numbered.again kind table isKey)).map Numbered.mapping =
      properties.map Numbered.mapping := by
  rw [List.map_map]
  exact List.map_congr_left fun n member => Numbered.mapping_again (valid n member) isKey

namespace NumberedNode

variable {entry : NumberedNode}

lemma tableName_again : (entry.again grid kind).tableName = entry.tableName := by
  have table : (entry.again grid kind).node.key.table? = some entry.tableName :=
    Numbered.table?_reread entry.tableName_ne_empty
  rw [tableName, table, Option.getD_some]

lemma definition_again (valid : ∀ n ∈ entry.properties, n.property.Valid) :
    (entry.again grid kind).definition = entry.definition := by
  have key : (entry.key.again kind entry.tableName true).definition = entry.key.definition :=
    Numbered.definition_again (valid entry.key List.mem_cons_self) true
  have others : (entry.others.map (Numbered.again kind entry.tableName false)).map
      Numbered.definition = entry.others.map Numbered.definition :=
    definitions_again (fun n member => valid n (List.mem_cons_of_mem _ member)) false
  simp only [definition, properties, again, List.map_cons, key, others]
  rfl

lemma mapping_again (valid : ∀ n ∈ entry.properties, n.property.Valid) :
    (entry.again grid kind).mapping = entry.mapping := by
  have key : (entry.key.again kind entry.tableName true).mapping = entry.key.mapping :=
    Numbered.mapping_again (valid entry.key List.mem_cons_self) true
  have others : (entry.others.map (Numbered.again kind entry.tableName false)).map
      Numbered.mapping = entry.others.map Numbered.mapping :=
    mappings_again (fun n member => valid n (List.mem_cons_of_mem _ member)) false
  simp only [mapping, tableName_again]
  simp only [properties, again, List.map_cons, key, others]
  rfl

end NumberedNode

namespace NumberedRelationship

variable {entry : NumberedRelationship}

lemma definition_again (valid : ∀ n ∈ entry.properties, n.property.Valid) :
    (entry.again grid kind).definition = entry.definition := by
  have others : (entry.properties.map (Numbered.again kind entry.tableName false)).map
      Numbered.definition = entry.properties.map Numbered.definition := definitions_again valid _
  change EntityDef.mk entry.typeId entry.relationship.type
    ((entry.properties.map (Numbered.again kind entry.tableName false)).map
      Numbered.definition) = _
  rw [others]
  rfl

lemma tableName_again : (entry.again grid kind).tableName =
    if entry.properties = [] then entry.start.tableName else entry.tableName := by
  have start : (entry.start.again grid kind).node.key.table? = some entry.start.tableName :=
    Numbered.table?_reread entry.start.tableName_ne_empty
  cases known : entry.properties with
  | nil => simp [tableName, again, reread, known, start]
  | cons n rest =>
    have own : (n.reread kind entry.tableName).table? = some entry.tableName :=
      Numbered.table?_reread entry.tableName_ne_empty
    have first : (entry.again grid kind).relationship.properties.findSome? Property.table? =
        some entry.tableName := by
      simp [again, reread, known, own]
    rw [if_neg (by simp), tableName, first]
    rfl

lemma mapping_again (valid : ∀ n ∈ entry.properties, n.property.Valid)
    (hs : entry.start.key.property.Valid) (hf : entry.finish.key.property.Valid) :
    (entry.again grid kind).mapping =
      { entry.mapping with
        tableName := if entry.properties = [] then entry.start.tableName else entry.tableName
        startField := some entry.start.key.fieldName
        finishField := some entry.finish.key.fieldName } := by
  have others : (entry.properties.map (Numbered.again kind entry.tableName false)).map
      Numbered.mapping = entry.properties.map Numbered.mapping := mappings_again valid _
  have start : (entry.start.again grid kind).node.key.column? =
      some entry.start.key.fieldName := Numbered.column?_reread hs
  have finish : (entry.finish.again grid kind).node.key.column? =
      some entry.finish.key.fieldName := Numbered.column?_reread hf
  change RelationshipMapping.mk ⟨.toId entry.kindId, (entry.again grid kind).tableName,
      (entry.properties.map (Numbered.again kind entry.tableName false)).map Numbered.mapping⟩
    (some (endField (entry.start.again grid kind).node.key).name)
    (some (endField (entry.finish.again grid kind).node.key).name) = _
  rw [others, tableName_again, endField, endField, start, finish]
  rfl

end NumberedRelationship

end Again

section Rules

variable {model : Model} {numbered : NumberedModel} {rule : Rule} {kind : RuleKind}

lemma ownsAll_of_mem {definitions : List EntityDef} {definition : EntityDef}
    (distinct : (definitions.map EntityDef.id).Nodup) (member : definition ∈ definitions)
    {property : PropertyDef} (listed : property ∈ definition.properties) :
    ownsAll definitions (.toId definition.id) [.toId property.id] = true := by
  have found : definitions.find? (·.id = (Ref.toId definition.id).id) = some definition :=
    find?_of_mem distinct member (Ref.id_toId definition.id).symm
  rw [ownsAll, found]
  simpa using ⟨property, listed, rfl⟩

lemma Rule.owner?_forKey (number : Nat) (name : String) (owner : RuleOwner) (keyId : String) :
    (Rule.forKey kind number name owner keyId).owner? = some owner := by
  cases owner <;> cases kind <;> rfl

lemma Rule.properties_forKey (number : Nat) (name : String) (owner : RuleOwner) (keyId : String) :
    (Rule.forKey kind number name owner keyId).properties = [.toId keyId] := by
  cases owner <;> cases kind <;> rfl

lemma fits_of_mem_rules (fits : numbered.Fits model) (member : rule ∈ numbered.rules kind) :
    rule.fits numbered = true := by
  rcases List.mem_append.1 member with ofNode | ofRelationship
  · obtain ⟨entry, inside, rfl⟩ := List.mem_map.1 ofNode
    have ids : (numbered.nodeLabels.map EntityDef.id).Nodup := by
      simpa [NumberedModel.nodeLabels, Function.comp_def, NumberedNode.definition] using
        fits.labelIds
    have key : entry.key.definition ∈ entry.definition.properties := List.mem_cons_self
    have owned := ownsAll_of_mem ids (List.mem_map_of_mem inside) key
    rw [Rule.fits, NumberedNode.rule, Rule.owner?_forKey, Rule.properties_forKey]
    exact owned
  · obtain ⟨entry, inside, made⟩ := List.mem_filterMap.1 ofRelationship
    obtain ⟨key, known, rfl⟩ := Option.map_eq_some_iff.1 made
    have ids : (numbered.relationshipTypes.map EntityDef.id).Nodup := by
      simpa [NumberedModel.relationshipTypes, Function.comp_def,
        NumberedRelationship.definition] using fits.typeIds
    have listed : key.definition ∈ entry.definition.properties := by
      refine List.mem_map_of_mem (List.mem_append_left _ ?_)
      simp [known]
    have owned := ownsAll_of_mem ids (List.mem_map_of_mem inside) listed
    rw [Rule.fits, Rule.owner?_forKey, Rule.properties_forKey]
    exact owned

lemma fits_of_mem_chooseRules (fits : numbered.Fits model) {stored : Option (List Rule)}
    (member : rule ∈ (chooseRules numbered (numbered.rules kind) stored).1) :
    rule.fits numbered = true := by
  cases stored with
  | none => exact fits_of_mem_rules fits member
  | some rules =>
    rw [chooseRules] at member
    split at member
    · rename_i all
      exact List.all_eq_true.1 all rule member
    · exact fits_of_mem_rules fits member

end Rules

section Graphs

variable {model : Model} {numbered : NumberedModel} {grid : Grid} {kind : SourceKind}

lemma nodeLabels_again (fits : numbered.FitsValid model) :
    (numbered.again grid kind).nodeLabels = numbered.nodeLabels := by
  simp only [NumberedModel.nodeLabels, NumberedModel.again, List.map_map]
  exact List.map_congr_left fun entry member =>
    NumberedNode.definition_again (valid_of_node fits member)

lemma relationshipTypes_again (fits : numbered.FitsValid model) :
    (numbered.again grid kind).relationshipTypes = numbered.relationshipTypes := by
  simp only [NumberedModel.relationshipTypes, NumberedModel.again, List.map_map]
  exact List.map_congr_left fun entry member =>
    NumberedRelationship.definition_again (valid_of_relationship fits member)

lemma nodeMappings_again (fits : numbered.FitsValid model) :
    (numbered.again grid kind).nodes.map NumberedNode.mapping =
      numbered.nodes.map NumberedNode.mapping := by
  simp only [NumberedModel.again, List.map_map]
  exact List.map_congr_left fun entry member =>
    NumberedNode.mapping_again (valid_of_node fits member)

/-- The rules that were written still fit and are given back. -/
lemma chooseRules_again (fits : numbered.FitsValid model) (grid : Grid)
    (kind : SourceKind) {rule : RuleKind}
    {stored : Option (List Rule)} (accepted : ∀ rules ∈ stored, ∀ r ∈ rules, r.Passes rule) :
    (chooseRules (numbered.again grid kind) ((numbered.again grid kind).rules rule)
        (some ((chooseRules numbered (numbered.rules rule) stored).1.map (Rule.normal rule)))).1 =
      (chooseRules numbered (numbered.rules rule) stored).1.map (Rule.normal rule) := by
  have all : ((chooseRules numbered (numbered.rules rule) stored).1.map
      (Rule.normal rule)).all (Rule.fits (numbered.again grid kind)) = true := by
    refine List.all_eq_true.2 fun r member => ?_
    obtain ⟨first, inside, rfl⟩ := List.mem_map.1 member
    have known : first.fits numbered = true := fits_of_mem_chooseRules fits.toFits inside
    rw [Rule.fits_normal (chooseRules_pass accepted first inside)]
    simpa only [Rule.fits, nodeLabels_again fits, relationshipTypes_again fits]
      using known
  rw [chooseRules, if_pos all]

/-- What is written for a reread model: only the tables and fields of relationships, and with
them the description of the source, may differ. -/
theorem build_reread (fits : numbered.FitsValid model)
    (accepted : ∀ stored ∈ model.metadata.referenceGraph, stored.Accepted)
    (settings : Settings) (kind : SourceKind) :
    let graph := (build settings model numbered).1.normal
    let back := numbered.reread settings.grid kind ⟨none, some graph.stored⟩
    let again := numbered.again settings.grid kind
    (build settings back again).1 =
      { graph with
        sourceSchema := some (chooseSource
          ((declaredSourceKind? back).getD settings.sourceKind) again.tables graph.sourceSchema)
        relationshipMappings := again.relationships.map NumberedRelationship.mapping } := by
  intro graph back again
  have stored := Stored.accepted_getD accepted
  have constraints := chooseRules_again fits settings.grid kind (stored.rules .constraint)
  have indexes := chooseRules_again fits settings.grid kind (stored.rules .index)
  have schema : (build settings back again).1.schema = graph.schema := by
    refine (Schema.mk.injEq ..).mpr ⟨nodeLabels_again fits,
      relationshipTypes_again fits, ?_, ?_, congrArg some constraints,
      congrArg some indexes⟩
    · exact List.map_map
    · exact List.map_map
  have placements : again.nodes.map (NumberedNode.placement settings.grid) =
      numbered.nodes.map (NumberedNode.placement settings.grid) := List.map_map
  have keys : again.nodes.map NumberedNode.nodeKey = numbered.nodes.map NumberedNode.nodeKey :=
    List.map_map
  exact (ReferenceGraph.mk.injEq ..).mpr ⟨rfl, congrArg some placements, rfl, rfl, schema, keys,
    rfl, nodeMappings_again fits, rfl, rfl⟩

end Graphs

end PropertyGraph.ReferenceGraph

import PropertyGraph.Proofs.ReferenceGraph.RuleRetention

/-! The ids of a written graph. No two parts of a kind share one. Properties are written in the
order of the model, and an id that some of them are stored with stands once, at the first of
these, whatever it looks like. -/
namespace PropertyGraph.ReferenceGraph

/-- A label or type that is written with these properties, in order. -/
structure EntityDef.Lists (definition : EntityDef) (token : String) (properties : List Property) :
    Prop where
  token : definition.token = token
  properties : definition.properties.map PropertyDef.token = properties.map Property.name

def Schema.entities (schema : Schema) : List EntityDef :=
  schema.nodeLabels ++ schema.relationshipTypes

/-- A schema in which no two parts of a kind share an id. -/
structure Schema.Identified (schema : Schema) : Prop where
  properties : (EntityDef.propertyIds schema.entities).Nodup
  nodeLabels : (schema.nodeLabels.map EntityDef.id).Nodup
  nodeObjects : (schema.nodeObjects.map NodeObject.id).Nodup
  relationshipTypes : (schema.relationshipTypes.map EntityDef.id).Nodup
  relationshipObjects : (schema.relationshipObjects.map RelationshipObject.id).Nodup

section Rules

lemma ruleId_injective (kind : RuleKind) : Function.Injective kind.ruleId := by
  cases kind with
  | constraint => exact (append_injective "c:").comp toString_injective
  | index => exact (append_injective "i:").comp toString_injective

lemma Rule.id_forKey (kind : RuleKind) (number : Nat) (name : String) (owner : RuleOwner)
    (keyId : String) : (forKey kind number name owner keyId).id = kind.ruleId number := by
  cases kind <;> cases owner <;> rfl

def NumberedModel.ruleNumbers (numbered : NumberedModel) : List Nat :=
  numbered.nodes.map NumberedNode.index ++
    numbered.relationships.filterMap fun entry =>
      entry.key.map fun _ => numbered.nodes.length + entry.index

variable {model : Model} {numbered : NumberedModel}

lemma NumberedModel.map_id_rules (kind : RuleKind) (numbered : NumberedModel) :
    (numbered.rules kind).map Rule.id = numbered.ruleNumbers.map kind.ruleId := by
  simp only [rules, ruleNumbers, List.map_append, List.map_map, List.map_filterMap]
  refine congrArg₂ _ (List.map_congr_left fun entry _ => Rule.id_forKey ..)
    (List.filterMap_congr fun entry _ => ?_)
  cases key : entry.key with
  | none => simp [NumberedRelationship.rule?, key]
  | some _ => simp [NumberedRelationship.rule?, key, Rule.id_forKey]

/-- The numbers go on behind those of the nodes; a relationship without a key leaves its own
unused. -/
lemma NumberedModel.Fits.ruleNumbers_sublist (fits : numbered.Fits model) :
    numbered.ruleNumbers.Sublist
      (List.range (model.nodes.length + model.relationships.length)) := by
  have count : numbered.nodes.length = model.nodes.length := by
    rw [← fits.nodes, List.length_map]
  have keyed : (numbered.relationships.filterMap fun entry =>
      entry.key.map fun _ => numbered.nodes.length + entry.index).Sublist
        (numbered.relationships.map fun entry => numbered.nodes.length + entry.index) := by
    induction numbered.relationships with
    | nil => exact .slnil
    | cons entry rest ih =>
      cases key : entry.key with
      | none => simpa [key] using ih.cons _
      | some k => simpa [key] using ih.cons_cons (numbered.nodes.length + entry.index)
  have numbers : numbered.relationships.map (fun entry => numbered.nodes.length + entry.index) =
      (List.range model.relationships.length).map (model.nodes.length + ·) := by
    rw [← fits.relationshipIndexes, List.map_map, count]
    rfl
  rw [List.range_add, ← numbers, ← fits.nodeIndexes]
  exact (List.Sublist.refl _).append keyed

lemma NumberedModel.Fits.nodup_rules (fits : numbered.Fits model) (kind : RuleKind) :
    ((numbered.rules kind).map Rule.id).Nodup := by
  rw [map_id_rules]
  exact (List.nodup_range.sublist fits.ruleNumbers_sublist).map (ruleId_injective kind)

end Rules

section Written

variable {model : Model} {numbered : NumberedModel} {settings : Settings}

lemma propertyIds_build (settings : Settings) (model : Model) (numbered : NumberedModel) :
    EntityDef.propertyIds (build settings model numbered).1.schema.entities =
      numbered.properties.map Numbered.id := by
  simp [EntityDef.propertyIds, Schema.entities, build, NumberedModel.nodeLabels,
    NumberedModel.relationshipTypes, NumberedModel.properties, NumberedNode.definition,
    NumberedRelationship.definition, Numbered.definition, List.flatMap_map, List.map_flatMap,
    Function.comp_def]

lemma identified_build (fits : numbered.Fits model) (settings : Settings) :
    (build settings model numbered).1.schema.Identified := by
  refine ⟨?_, fits.nodup_definitions settings (.node ⟨""⟩), ?_,
    fits.nodup_definitions settings (.relationship ⟨""⟩), ?_⟩
  · rw [propertyIds_build, NumberedModel.map_id]
    exact fits.distinct
  · simpa [build, Function.comp_def, NumberedNode.kind] using fits.nodeKindIds
  · simpa [build, Function.comp_def, NumberedRelationship.kind] using fits.relationshipKindIds

lemma lists_build (fits : numbered.Fits model) (settings : Settings) :
    List.Forall₂ (fun node label => EntityDef.Lists label node.label node.allProperties)
        model.nodes (build settings model numbered).1.schema.nodeLabels ∧
      List.Forall₂ (fun relationship type => EntityDef.Lists type relationship.type
          relationship.allProperties)
        model.relationships (build settings model numbered).1.schema.relationshipTypes := by
  constructor
  · rw [← fits.nodes]
    refine List.forall₂_map_left_iff.2 (List.forall₂_map_right_iff.2 (List.forall₂_same.2 ?_))
    intro entry member
    refine ⟨rfl, ?_⟩
    rw [← (fits.eachNode entry member).map_property]
    simp [NumberedNode.definition, Numbered.definition]
  · rw [← fits.relationships]
    refine List.forall₂_map_left_iff.2 (List.forall₂_map_right_iff.2 (List.forall₂_same.2 ?_))
    intro entry member
    refine ⟨rfl, ?_⟩
    rw [← (fits.eachRelationship entry member).map_property]
    simp [NumberedRelationship.definition, Numbered.definition]

lemma NumberedModel.idxOf_of_stored (made : ofModel model = .ok numbered) {id : String}
    (stored : id ∈ storedIds model) :
    (numbered.properties.map Numbered.id).count id = 1 ∧
      (numbered.properties.map Numbered.id).idxOf id =
        (propertiesOf model).findIdx (·.storedId? = some id) := by
  have fits := fits_of_ofModel made
  obtain ⟨property, member, own⟩ := mem_storedIds.1 stored
  rw [← fits.map_property] at member ⊢
  obtain ⟨n, inside, rfl⟩ := List.mem_map.1 member
  have found : (numbered.properties.find? (·.property.storedId? = some id)).isSome := by
    simpa using ⟨n, inside, own⟩
  obtain ⟨first, known⟩ := Option.isSome_iff_exists.1 found
  obtain ⟨holds, before, after, split, others⟩ := List.find?_eq_some_iff_append.1 known
  have kept : first.id = id :=
    id_of_first made split (by simpa using holds) fun m former => by simpa using others m former
  have distinct : (numbered.properties.map Numbered.id).Nodup := by
    rw [map_id]
    exact fits.distinct
  have former : id ∉ before.map Numbered.id := by
    rw [split, List.map_append, List.map_cons, kept] at distinct
    exact fun taken => (List.nodup_append.1 distinct).2.2 _ taken _ List.mem_cons_self rfl
  have listed : id ∈ numbered.properties.map Numbered.id := by simp [split, kept]
  refine ⟨List.count_eq_one_of_mem distinct listed, ?_⟩
  have position : numbered.properties.findIdx (·.property.storedId? = some id) = before.length := by
    rw [split, List.findIdx_append,
      List.findIdx_eq_length_of_false fun n former => by simpa using others n former]
    simp [holds, List.findIdx_cons]
  rw [List.findIdx_map]
  refine Eq.trans ?_ position.symm
  rw [split, List.map_append, List.map_cons, kept, List.idxOf_append_of_notMem former,
    List.idxOf_cons_self, List.length_map, Nat.add_zero]

/-- Whatever ids are stored with a model, no two parts of the written graph that are of one
kind share an id, the rules that are made anew included. A stored id is written once, for the
first property that is stored with it. -/
theorem identified_of_write (reachable : model.Reachable) {asked : Option Json}
    (resolved : Settings.resolve asked = .ok settings) :
    ∃ numbered graph, NumberedModel.ofModel model = .ok numbered ∧
      (write model asked).answer = .ok graph ∧ graph.schema.Identified ∧
      List.Forall₂ (fun node label => EntityDef.Lists label node.label node.allProperties)
        model.nodes graph.schema.nodeLabels ∧
      List.Forall₂ (fun relationship type => EntityDef.Lists type relationship.type
          relationship.allProperties)
        model.relationships graph.schema.relationshipTypes ∧
      (∀ id ∈ storedIds model, (EntityDef.propertyIds graph.schema.entities).count id = 1 ∧
        (EntityDef.propertyIds graph.schema.entities).idxOf id =
          (propertiesOf model).findIdx (·.storedId? = some id)) ∧
      ∀ kind, ((numbered.rules kind).map Rule.id).Nodup ∧
        (graph.schema.rules kind = some (numbered.rules kind) ∨
          ∃ stored ∈ model.metadata.referenceGraph,
            (stored.rules kind).isSome ∧ graph.schema.rules kind = stored.rules kind) := by
  obtain ⟨numbered, made⟩ := NumberedModel.exists_ofModel reachable.valid
  have fits := NumberedModel.fits_of_ofModel made
  obtain ⟨nodes, relationships⟩ := lists_build fits settings
  refine ⟨numbered, _, made, answer_write_of_ofModel made resolved, identified_build fits settings,
    nodes, relationships, fun id stored => ?_, fun kind => ⟨fits.nodup_rules kind, ?_⟩⟩
  · rw [propertyIds_build]
    exact NumberedModel.idxOf_of_stored made stored
  · rw [rules_build]
    rcases chooseRules_cases numbered (numbered.rules kind)
      (model.metadata.referenceGraph.bind (·.rules kind)) with ⟨rules, given, chosen⟩ | fresh
    · obtain ⟨stored, present, known⟩ := Option.bind_eq_some_iff.1 given
      exact .inr ⟨stored, present, by simp [known], by rw [known, chosen]⟩
    · exact .inl (by rw [fresh])

/-- A property that is stored with the first id that would be made up. -/
def reissuedProperty (name : String) : Property :=
  ⟨name, "STRING", none, none, some ⟨some (freshId 0), none⟩⟩

/-- A key that is stored without an id, and two properties of one id. -/
def reissuedNode : Node :=
  ⟨"Book", .ofName "isbn", [reissuedProperty "title", reissuedProperty "pages"], .empty⟩

def reissued : Model := ⟨[reissuedNode], [], .empty⟩

theorem identified_of_write_reissued : ∃ graph : ReferenceGraph,
    (write reissued none).answer = .ok graph ∧ graph.schema.Identified ∧
      EntityDef.propertyIds graph.schema.entities = [freshId 1, freshId 0, freshId 2] ∧
      (EntityDef.propertyIds graph.schema.entities).count (freshId 0) = 1 ∧
      (EntityDef.propertyIds graph.schema.entities).idxOf (freshId 0) = 1 := by
  have built (name : String) (hn : Text.isBlank name = false) : (reissuedProperty name).Built := by
    refine ⟨⟨name, none, none, none, some ⟨some (freshId 0), none⟩⟩, ?_⟩
    simp only [Property.build, hn]
    rfl
  have made : Node.build "Book" (.ofName "isbn")
      [reissuedProperty "title", reissuedProperty "pages"] .empty = .ok reissuedNode := rfl
  have node : reissuedNode.Reachable :=
    .build (Property.ofName_built rfl) (by simp [built "title" rfl, built "pages" rfl]) made
  have whole : Model.build [reissuedNode] [] .empty = .ok reissued := rfl
  have reachable : reissued.Reachable := .initial (.build (by simpa using node) (by simp) whole)
  have resolved : Settings.resolve none = .ok Settings.standard := by decide +kernel
  obtain ⟨numbered, graph, -, written, identified, -, -, kept, -⟩ :=
    identified_of_write reachable resolved
  have computed : (write reissued none).answer.map (fun graph =>
      EntityDef.propertyIds graph.schema.entities) = .ok [freshId 1, freshId 0, freshId 2] := by
    decide +kernel
  rw [written] at computed
  have stored : freshId 0 ∈ storedIds reissued := by decide +kernel
  have second : (propertiesOf reissued).findIdx (·.storedId? = some (freshId 0)) = 1 := by
    decide +kernel
  obtain ⟨once, position⟩ := kept _ stored
  exact ⟨graph, written, identified, Except.ok.inj computed, once, position.trans second⟩

end Written
end PropertyGraph.ReferenceGraph

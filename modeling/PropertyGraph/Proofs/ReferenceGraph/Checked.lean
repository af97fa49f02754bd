import PropertyGraph.Proofs.Recheck
import PropertyGraph.Proofs.ReferenceGraph.Imported
import PropertyGraph.Proofs.ReferenceGraph.Normal

/-! Documents that have passed the check of reference graphs. Their ids say something, the
references in their rules say only their targets, and what a model stores of them passes
again. -/
namespace PropertyGraph.ReferenceGraph
open Document (exists_given)
open Members (mem_of_lookup)
open Shape (yields_object yields_anyText yields_dictionary)

def Schema.rules (schema : Schema) : RuleKind → Option (List Rule)
  | .constraint => schema.constraints
  | .index => schema.indexes

section Rules

variable {kind : RuleKind} {rule : Rule} {v w : Json} {name : String}

def Rule.Rebuilt (kind : RuleKind) (rule : Rule) : Prop :=
  ∃ given, (Rule.shape kind).Yields given rule.toJson

lemma Rule.isWellNamed_shape (kind : RuleKind) : (Rule.shape kind).isWellNamed = true := by
  cases kind <;> decide +kernel

lemma Rule.Rebuilt.passes : rule.Rebuilt kind → rule.Passes kind
  | ⟨_, made⟩ => ⟨_, made.again (isWellNamed_shape kind)⟩

lemma Rule.Rebuilt.same_normal (rebuilt : rule.Rebuilt kind) :
    Json.Same rule.toJson (rule.normal kind).toJson := by
  obtain ⟨_, made⟩ := rebuilt
  exact (Rebuilt.passes ⟨_, made⟩).yields.same (isWellNamed_shape kind)
    (made.keeps (isWellNamed_shape kind))

lemma rules_rebuilt (h : ∀ list ∈ w.get? name, ∃ given,
      (Shape.listOf (Rule.shape kind)).Yields given list) :
    ∀ rules ∈ (w.list? name).map (·.map Rule.ofJson), ∀ rule ∈ rules, rule.Rebuilt kind := by
  intro rules present rule member
  obtain ⟨items, listed, rfl⟩ := Option.map_eq_some_iff.1 present
  obtain ⟨list, here, same⟩ := Option.bind_eq_some_iff.1 listed
  obtain ⟨_, made⟩ := h list here
  obtain ⟨refs, rfl, each⟩ := made.items
  cases same
  obtain ⟨item, inside, rfl⟩ := List.mem_map.1 member
  obtain ⟨given, made⟩ := each item inside
  obtain ⟨members, rfl⟩ := Shape.exists_rebuilt made
  exact ⟨given, made⟩

end Rules

section Schemas

variable {schema : Schema} {v w : Json} {name : String}

lemma definitions_rebuilt
    (h : ∃ given list, w.get? name = some list ∧ (Shape.listOf EntityDef.shape).Yields given list) :
    ∀ definition ∈ (w.list name).map EntityDef.ofJson, ∀ property ∈ definition.properties,
      property.id ≠ "" := by
  obtain ⟨_, list, here, made⟩ := h
  obtain ⟨items, rfl, each⟩ := made.items
  intro definition member property listed
  simp only [Json.list, Json.list?, here, Option.bind_some, Json.array?_array,
    Option.getD_some] at member
  obtain ⟨item, inside, rfl⟩ := List.mem_map.1 member
  obtain ⟨_, entity⟩ := each item inside
  obtain ⟨_, properties, there, propertiesMade⟩ :=
    entity.member (by decide) (mem_of_lookup "properties" rfl) (by decide)
  obtain ⟨definitions, rfl, each⟩ := propertiesMade.items
  simp only [EntityDef.ofJson, Json.list, Json.list?, there, Option.bind_some,
    Json.array?_array, Option.getD_some] at listed
  obtain ⟨one, inside, rfl⟩ := List.mem_map.1 listed
  obtain ⟨_, propertyMade⟩ := each one inside
  obtain ⟨_, id, found, idMade⟩ :=
    propertyMade.member (by decide) (mem_of_lookup "$id" rfl) (by decide)
  obtain ⟨text, rfl, nonEmpty⟩ := idMade.someText
  simpa [PropertyDef.ofJson, Json.text, Json.text?, found] using nonEmpty

def Schema.Rebuilt (schema : Schema) : Prop :=
  ∃ given made, shape.Yields given made ∧ schema = ofJson made

namespace Schema.Rebuilt

lemma rules (rebuilt : schema.Rebuilt) (kind : RuleKind) :
    ∀ rules ∈ schema.rules kind, ∀ rule ∈ rules, rule.Rebuilt kind := by
  obtain ⟨given, made, h, rfl⟩ := rebuilt
  cases kind with
  | constraint => exact rules_rebuilt (h.optional_member (by decide) (by simp))
  | index => exact rules_rebuilt (h.optional_member (by decide) (by simp))

lemma nodeLabels (rebuilt : schema.Rebuilt) :
    ∀ label ∈ schema.nodeLabels, ∀ definition ∈ label.properties, definition.id ≠ "" := by
  obtain ⟨given, made, h, rfl⟩ := rebuilt
  exact definitions_rebuilt (h.member (by decide) (by simp) (by decide))

lemma relationshipTypes (rebuilt : schema.Rebuilt) :
    ∀ type ∈ schema.relationshipTypes, ∀ definition ∈ type.properties, definition.id ≠ "" := by
  obtain ⟨given, made, h, rfl⟩ := rebuilt
  exact definitions_rebuilt (h.member (by decide) (by simp) (by decide))

end Schema.Rebuilt
end Schemas

section Storing

variable {stored : Stored}

def SourceSchema.Rebuilt (schema : SourceSchema) : Prop :=
  ∃ given, shape.Yields given schema.toJson

lemma SourceSchema.Rebuilt.passes {schema : SourceSchema} : schema.Rebuilt → schema.Passes
  | ⟨_, made⟩ => ⟨_, made.again (by decide +kernel)⟩

lemma SourceSchema.Rebuilt.same_normal {schema : SourceSchema} (rebuilt : schema.Rebuilt) :
    Json.Same schema.toJson schema.normal.toJson := by
  obtain ⟨_, made⟩ := rebuilt
  exact (Rebuilt.passes ⟨_, made⟩).yields.same (by decide +kernel) (made.keeps (by decide +kernel))

/-- What is stored of a reference graph, as a check has made it. -/
structure Stored.Rebuilt (stored : Stored) : Prop where
  rules : ∀ kind, ∀ rules ∈ stored.rules kind, ∀ rule ∈ rules, rule.Rebuilt kind
  configurations : stored.configurations.map Members.assign = stored.configurations
  sourceSchema : ∀ source ∈ stored.sourceSchema, source.Rebuilt

def Stored.normal (stored : Stored) : Stored :=
  { stored with
    constraints := stored.constraints.map (·.map (Rule.normal .constraint))
    indexes := stored.indexes.map (·.map (Rule.normal .index))
    configurations := stored.configurations.map Members.assign
    sourceSchema := stored.sourceSchema.map SourceSchema.normal }

lemma Stored.Rebuilt.yields (rebuilt : stored.Rebuilt) :
    Stored.shape.Yields stored.toJson stored.normal.toJson := by
  have rules (kind : RuleKind) : ∀ rules ∈ stored.rules kind, ∀ rule ∈ rules, rule.Passes kind :=
    fun rules present rule member => (rebuilt.rules kind rules present rule member).passes
  simp only [Stored.toJson, Stored.normal, List.append_assoc, Option.map_map]
  exact yields_object
    (.optional (fun text _ => yields_anyText text) <|
      .optional (fun text _ => yields_anyText text) <|
      .optional (fun given present => yields_rules (rules .constraint given present)) <|
      .optional (fun given present => yields_rules (rules .index given present)) <|
      .optional (fun members _ => yields_dictionary members) <|
      .optional_last fun source present => (rebuilt.sourceSchema source present).passes.yields)
    (by decide) (by decide)

lemma Stored.Rebuilt.accepted (rebuilt : stored.Rebuilt) : stored.Accepted :=
  ⟨_, rebuilt.yields.parse⟩

theorem Stored.Rebuilt.same_normal (rebuilt : stored.Rebuilt) :
    Json.Same stored.toJson stored.normal.toJson := by
  let written (rs : List Rule) : Json := .array (rs.map Rule.toJson)
  have rules (kind : RuleKind) : ∀ rs ∈ stored.rules kind,
      Json.Same (written rs) (written (rs.map (Rule.normal kind))) := by
    intro rs present
    exact Json.Same.list fun rule member => (rebuilt.rules kind rs present rule member).same_normal
  have source : ∀ schema ∈ stored.sourceSchema, Json.Same schema.toJson schema.normal.toJson :=
    fun schema present => (rebuilt.sourceSchema schema present).same_normal
  rw [Stored.toJson, Stored.toJson, Stored.normal, rebuilt.configurations]
  exact .members
    (((((Json.SameMembers.refl _).append (.optional_map (k := written) (rules .constraint))).append
      (.optional_map (k := written) (rules .index))).append
      (.refl _)).append (.optional_map source))

end Storing

section Documents

variable {document : Option Json} {subject : String} {json : Json}

/-- The parts of a document that a check has made, as far as a model stores them or goes by
their ids, and the places in it. -/
structure Rebuilt (graph : ReferenceGraph) : Prop where
  placements : ∀ place ∈ graph.placements.getD [],
    place.position.x.isNaN = false ∧ place.position.y.isNaN = false
  schema : graph.schema.Rebuilt
  configurations : graph.configurations.map Members.assign = graph.configurations
  sourceSchema : ∀ source ∈ graph.sourceSchema, source.Rebuilt

lemma placements_rebuilt (h : ∀ drawing ∈ json.get? "visualisation", ∃ given,
      (Shape.closedObject [("nodes", .listOf Placement.shape)]).Yields given drawing) :
    ∀ place ∈ (ofJson json).placements.getD [],
      place.position.x.isNaN = false ∧ place.position.y.isNaN = false := by
  intro place member
  cases given : json.get? "visualisation" with
  | none => simp [ofJson, given] at member
  | some drawing =>
    obtain ⟨_, made⟩ := h drawing given
    obtain ⟨_, list, here, listMade⟩ :=
      made.member (by decide) (mem_of_lookup "nodes" rfl) (by decide)
    obtain ⟨items, rfl, each⟩ := listMade.items
    simp only [ofJson, given, Option.map_some, Option.getD_some, Json.list, Json.list?, here,
      Option.bind_some, Json.array?_array] at member
    obtain ⟨item, inside, rfl⟩ := List.mem_map.1 member
    obtain ⟨_, placeMade⟩ := each item inside
    obtain ⟨_, position, there, positionMade⟩ :=
      placeMade.member (by decide) (mem_of_lookup "position" rfl) (by decide)
    simpa [Placement.ofJson, there] using Position.number_of_rebuilt positionMade

theorem rebuilt_of_check (checked : Document.check shape document subject = .ok json) :
    (ofJson json).Rebuilt := by
  obtain ⟨_, -, made⟩ := exists_given checked
  obtain ⟨_, model, hm, modelMade⟩ :=
    made.member (by decide) (mem_of_lookup "dataModel" rfl) (by decide)
  obtain ⟨_, schemaPart, hs, schemaPartMade⟩ :=
    modelMade.member (by decide) (mem_of_lookup "graphSchemaRepresentation" rfl) (by decide)
  obtain ⟨_, schema, hg, schemaMade⟩ :=
    schemaPartMade.member (by decide) (mem_of_lookup "graphSchema" rfl) (by decide)
  obtain ⟨_, mapping, hr, mappingMade⟩ :=
    modelMade.member (by decide) (mem_of_lookup "graphMappingRepresentation" rfl) (by decide)
  refine ⟨placements_rebuilt (made.optional_member (by decide)
    (mem_of_lookup "visualisation" rfl)), ⟨_, schema, schemaMade, ?_⟩, ?_, fun source present => ?_⟩
  · simp only [ofJson, hm, hs, hg, Option.getD_some]
  · simpa only [ofJson, hm, Option.getD_some] using
      modelMade.members?_eq (by decide) (mem_of_lookup "configurations" rfl)
  · simp only [ofJson, hm, hr, Option.getD_some] at present
    obtain ⟨found, here, rfl⟩ := Option.map_eq_some_iff.1 present
    obtain ⟨_, sourceMade⟩ :=
      mappingMade.optional_member (by decide) (mem_of_lookup "dataSourceSchema" rfl) found here
    obtain ⟨members, rfl⟩ := Shape.exists_rebuilt sourceMade
    exact ⟨_, sourceMade⟩

lemma Rebuilt.stored {graph : ReferenceGraph} (rebuilt : graph.Rebuilt) : graph.stored.Rebuilt :=
  ⟨fun | .constraint => rebuilt.schema.rules .constraint | .index => rebuilt.schema.rules .index,
    rebuilt.configurations, rebuilt.sourceSchema⟩

/-- What a model stores of a checked document passes again. -/
theorem Rebuilt.accepted {graph : ReferenceGraph} (rebuilt : graph.Rebuilt) :
    graph.stored.Accepted := rebuilt.stored.accepted

end Documents
end PropertyGraph.ReferenceGraph

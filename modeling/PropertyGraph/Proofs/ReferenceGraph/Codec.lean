import PropertyGraph.Proofs.Recheck
import PropertyGraph.ReferenceGraph.Basic

/-! Reference graphs as JSON. Whatever is written is read back, and what is written passes
the shape of documents. Of stored rules and descriptions of the source the check keeps
what it knows first and what it does not know behind. -/
namespace PropertyGraph

lemma Position.ofJson_toJson (position : Position) :
    Position.ofJson position.toJson = position := by
  simp [Position.ofJson, Position.toJson]

lemma Position.yields {position : Position}
    (number : position.x.isNaN = false ∧ position.y.isNaN = false) :
    shape.Yields position.toJson position.toJson :=
  Shape.yields_object
    (.member (Shape.yields_anyNumber number.1) <|
      .member (Shape.yields_anyNumber number.2) .nil)
    (by decide) (by decide)

lemma Position.number_of_rebuilt {v w : Json} (h : Position.shape.Yields v w) :
    (ofJson w).x.isNaN = false ∧ (ofJson w).y.isNaN = false := by
  obtain ⟨_, _, atX, madeX⟩ := h.member (by decide) (Members.mem_of_lookup "x" rfl) (by decide)
  obtain ⟨_, _, atY, madeY⟩ := h.member (by decide) (Members.mem_of_lookup "y" rfl) (by decide)
  obtain ⟨x, rfl, number⟩ := madeX.number
  obtain ⟨y, rfl, number'⟩ := madeY.number
  simp [ofJson, atX, atY, number, number']

namespace ReferenceGraph

section Reading

@[simp] lemma Ref.ofJson_toJson (ref : Ref) : Ref.ofJson ref.toJson = ref := by
  simp [Ref.ofJson, Ref.toJson]

@[simp] lemma Ref.member_object (name : String) (members : List (String × Json)) :
    Ref.member name (.object members) = Ref.ofJson ((Members.get? name members).getD .null) := rfl

@[simp] lemma PropertyDef.ofJson_toJson (definition : PropertyDef) :
    PropertyDef.ofJson definition.toJson = definition := by
  simp [PropertyDef.ofJson, PropertyDef.toJson]

@[simp] lemma EntityDef.ofJson_toJson (definition : EntityDef) :
    EntityDef.ofJson definition.toJson = definition := by
  simp [EntityDef.ofJson, EntityDef.toJson, Function.comp_def]

@[simp] lemma NodeObject.ofJson_toJson (object : NodeObject) :
    NodeObject.ofJson object.toJson = object := by
  simp [NodeObject.ofJson, NodeObject.toJson, Function.comp_def]

@[simp] lemma RelationshipObject.ofJson_toJson (object : RelationshipObject) :
    RelationshipObject.ofJson object.toJson = object := by
  simp [RelationshipObject.ofJson, RelationshipObject.toJson]

@[simp] lemma Rule.ofJson_toJson (rule : Rule) : Rule.ofJson rule.toJson = rule := rfl

@[simp] lemma SourceSchema.ofJson_toJson (schema : SourceSchema) :
    SourceSchema.ofJson schema.toJson = schema := rfl

@[simp] lemma Schema.ofJson_toJson (schema : Schema) : Schema.ofJson schema.toJson = schema := by
  obtain ⟨_, _, _, _, constraints, indexes⟩ := schema
  cases constraints <;> cases indexes <;>
    simp [Schema.ofJson, Schema.toJson, Function.comp_def]

@[simp] lemma Placement.ofJson_toJson (placement : Placement) :
    Placement.ofJson placement.toJson = placement := by
  simp [Placement.ofJson, Placement.toJson, Position.ofJson_toJson]

@[simp] lemma NodeKey.ofJson_toJson (key : NodeKey) : NodeKey.ofJson key.toJson = key := by
  simp [NodeKey.ofJson, NodeKey.toJson]

@[simp] lemma FieldMapping.ofJson_toJson (mapping : FieldMapping) :
    FieldMapping.ofJson mapping.toJson = mapping := by
  simp [FieldMapping.ofJson, FieldMapping.toJson]

@[simp] lemma NodeMapping.ofJson_toJson (mapping : NodeMapping) :
    NodeMapping.ofJson mapping.toJson = mapping := by
  simp [NodeMapping.ofJson, NodeMapping.toJson, Mapping.ofMember, Mapping.entries,
    Function.comp_def]

@[simp] lemma RelationshipMapping.ofJson_toJson (mapping : RelationshipMapping) :
    RelationshipMapping.ofJson mapping.toJson = mapping := by
  obtain ⟨_, start, finish⟩ := mapping
  cases start <;> cases finish <;>
    simp [RelationshipMapping.ofJson, RelationshipMapping.toJson, RelationshipMapping.endToJson,
      Mapping.ofMember, Mapping.entries, Function.comp_def]

theorem ofJson_toJson (graph : ReferenceGraph) : ofJson graph.toJson = graph := by
  simp [ofJson, toJson, Function.comp_def]

end Reading

def Rule.normal (kind : RuleKind) (rule : Rule) : Rule :=
  .ofJson ((Rule.shape kind).rebuild rule.toJson)

def Rule.Passes (kind : RuleKind) (rule : Rule) : Prop :=
  ∃ result, (Rule.shape kind).Yields rule.toJson result

def SourceSchema.normal (schema : SourceSchema) : SourceSchema :=
  .ofJson (shape.rebuild schema.toJson)

def SourceSchema.Passes (schema : SourceSchema) : Prop := ∃ result, shape.Yields schema.toJson result

def Schema.normal (schema : Schema) : Schema :=
  { schema with
    constraints := schema.constraints.map (·.map (Rule.normal .constraint))
    indexes := schema.indexes.map (·.map (Rule.normal .index)) }

/-- The graph as it comes out of a check. -/
def normal (graph : ReferenceGraph) : ReferenceGraph :=
  { graph with
    schema := graph.schema.normal
    sourceSchema := graph.sourceSchema.map SourceSchema.normal
    configurations := graph.configurations.map Members.assign }

section Writing

open Shape (Writes yields_object yields_anyText yields_someText yields_list yields_anyNumber
  yields_flag yields_choice yields_null yields_dictionary)

lemma Rule.Passes.yields {kind : RuleKind} {rule : Rule} (h : rule.Passes kind) :
    (Rule.shape kind).Yields rule.toJson (rule.normal kind).toJson := by
  obtain ⟨result, hr⟩ := h
  obtain ⟨rebuilt, rfl⟩ := Shape.exists_rebuilt hr
  have made : rule.normal kind = ⟨rebuilt⟩ := by
    rw [Rule.normal, hr.rebuild_eq]
    rfl
  rwa [made]

lemma SourceSchema.Passes.yields {schema : SourceSchema} (h : schema.Passes) :
    shape.Yields schema.toJson schema.normal.toJson := by
  obtain ⟨result, hr⟩ := h
  obtain ⟨rebuilt, rfl⟩ := Shape.exists_rebuilt hr
  have made : schema.normal = ⟨rebuilt⟩ := by
    rw [SourceSchema.normal, hr.rebuild_eq]
    rfl
  rwa [made]

lemma Ref.yields {ref : Ref} (h : ref.text ≠ "") : shape.Yields ref.toJson ref.toJson :=
  yields_object (.member (yields_someText h) .nil) (by decide) (by decide)

lemma Ref.toId_yields (id : String) : shape.Yields (toId id).toJson (toId id).toJson :=
  Ref.yields (by simp [toId])

lemma PropertyDef.yields {definition : PropertyDef} (hid : definition.id ≠ "")
    (ht : definition.token ≠ "") : shape.Yields definition.toJson definition.toJson := by
  have type : (Shape.closedObject [("type", .anyText)]).Yields
      (.object [("type", .string definition.type)])
      (.object [("type", .string definition.type)]) :=
    yields_object (.member (yields_anyText _) .nil) (by decide) (by decide)
  exact yields_object
    (.member (yields_someText hid) <| .member (yields_someText ht) <| .member type <|
      .optional_last fun b _ => yields_flag b)
    (by decide) (by decide)

lemma EntityDef.yields {definition : EntityDef} (hid : definition.id ≠ "")
    (ht : definition.token ≠ "")
    (hp : ∀ p ∈ definition.properties, p.id ≠ "" ∧ p.token ≠ "") :
    shape.Yields definition.toJson definition.toJson :=
  yields_object
    (.member (yields_someText hid) <| .member (yields_someText ht) <|
      .member (yields_list fun p member => PropertyDef.yields (hp p member).1 (hp p member).2)
        .nil)
    (by decide) (by decide)

lemma NodeObject.yields {object : NodeObject} (hid : object.id ≠ "")
    (hl : ∀ ref ∈ object.labels, ref.text ≠ "") : shape.Yields object.toJson object.toJson :=
  yields_object
    (.member (yields_someText hid) <|
      .member (yields_list fun ref member => Ref.yields (hl ref member)) .nil)
    (by decide) (by decide)

lemma RelationshipObject.yields {object : RelationshipObject} (hid : object.id ≠ "")
    (ht : object.type.text ≠ "") (hs : object.start.text ≠ "") (hf : object.finish.text ≠ "") :
    shape.Yields object.toJson object.toJson :=
  yields_object
    (.member (yields_someText hid) <| .member (Ref.yields ht) <| .member (Ref.yields hs) <|
      .member (Ref.yields hf) .nil)
    (by decide) (by decide)

lemma Placement.yields {placement : Placement} (hx : placement.position.x.isNaN = false)
    (hy : placement.position.y.isNaN = false) :
    shape.Yields placement.toJson placement.toJson :=
  yields_object (.member (yields_anyText _) <| .member (Position.yields ⟨hx, hy⟩) .nil)
    (by decide) (by decide)

lemma NodeKey.yields {key : NodeKey} (hn : key.node.text ≠ "") (hp : key.property.text ≠ "") :
    shape.Yields key.toJson key.toJson :=
  yields_object (.member (Ref.yields hn) <| .member (Ref.yields hp) .nil)
    (by decide) (by decide)

lemma FieldMapping.yields {mapping : FieldMapping} (hp : mapping.property.text ≠ "") :
    shape.Yields mapping.toJson mapping.toJson :=
  yields_object (.member (Ref.yields hp) <| .member (yields_anyText _) .nil)
    (by decide) (by decide)

lemma NodeMapping.yields {mapping : NodeMapping} (ho : mapping.object.text ≠ "")
    (hf : ∀ field ∈ mapping.fields, field.property.text ≠ "") :
    shape.Yields mapping.toJson mapping.toJson :=
  yields_object
    (.member (Ref.yields ho) <| .member (yields_anyText _) <|
      .member (yields_list fun field member => FieldMapping.yields (hf field member)) .nil)
    (by decide) (by decide)

lemma RelationshipMapping.yields {mapping : RelationshipMapping} (ho : mapping.object.text ≠ "")
    (hf : ∀ field ∈ mapping.fields, field.property.text ≠ "") :
    shape.Yields mapping.toJson mapping.toJson := by
  have atEnd (field : String) : endShape.Yields (endToJson field) (endToJson field) :=
    yields_object (.member (yields_anyText _) .nil) (by decide) (by decide)
  simp only [toJson, List.append_assoc]
  exact yields_object
    (.member (Ref.yields ho) <| .member (yields_anyText _) <|
      .member (yields_list fun field member => FieldMapping.yields (hf field member)) <|
      .optional (fun field _ => atEnd field) <| .optional_last fun field _ => atEnd field)
    (by decide) (by decide)

end Writing

/-- A part that a check gives back as it is written. -/
def Unchanged {α : Type} (shape : Shape) (toJson : α → Json) (part : α) : Prop :=
  shape.Yields (toJson part) (toJson part)

structure Schema.Passes (schema : Schema) : Prop where
  nodeLabels : ∀ d ∈ schema.nodeLabels, Unchanged EntityDef.shape EntityDef.toJson d
  relationshipTypes : ∀ d ∈ schema.relationshipTypes, Unchanged EntityDef.shape EntityDef.toJson d
  nodeObjects : ∀ o ∈ schema.nodeObjects, Unchanged NodeObject.shape NodeObject.toJson o
  relationshipObjects : ∀ o ∈ schema.relationshipObjects,
    Unchanged RelationshipObject.shape RelationshipObject.toJson o
  constraints : ∀ rules ∈ schema.constraints, ∀ rule ∈ rules, rule.Passes .constraint
  indexes : ∀ rules ∈ schema.indexes, ∀ rule ∈ rules, rule.Passes .index

/-- A graph that a check has nothing to say against. -/
structure Passes (graph : ReferenceGraph) : Prop where
  placements : ∀ places ∈ graph.placements, ∀ place ∈ places,
    Unchanged Placement.shape Placement.toJson place
  schema : graph.schema.Passes
  nodeKeys : ∀ key ∈ graph.nodeKeys, Unchanged NodeKey.shape NodeKey.toJson key
  sourceSchema : ∀ schema ∈ graph.sourceSchema, schema.Passes
  nodeMappings : ∀ mapping ∈ graph.nodeMappings,
    Unchanged NodeMapping.shape NodeMapping.toJson mapping
  relationshipMappings : ∀ mapping ∈ graph.relationshipMappings,
    Unchanged RelationshipMapping.shape RelationshipMapping.toJson mapping

open Shape (Writes yields_object yields_anyText yields_list yields_dictionary)

lemma yields_rules {kind : RuleKind} {rules : List Rule} (h : ∀ rule ∈ rules, rule.Passes kind) :
    (Shape.listOf (Rule.shape kind)).Yields (.array (rules.map Rule.toJson))
      (.array ((rules.map (Rule.normal kind)).map Rule.toJson)) := by
  rw [List.map_map]
  exact yields_list fun rule member => (h rule member).yields

lemma Schema.Passes.yields {schema : Schema} (h : schema.Passes) :
    shape.Yields schema.toJson schema.normal.toJson := by
  simp only [toJson, normal, List.append_assoc, Option.map_map]
  exact yields_object
    (.member (yields_list h.nodeLabels) <| .member (yields_list h.relationshipTypes) <|
      .member (yields_list h.nodeObjects) <| .member (yields_list h.relationshipObjects) <|
      .optional (fun rules member => yields_rules (h.constraints rules member)) <|
      .optional_last fun rules member => yields_rules (h.indexes rules member))
    (by decide) (by decide)

theorem Passes.yields {graph : ReferenceGraph} (h : graph.Passes) :
    shape.Yields graph.toJson graph.normal.toJson := by
  have drawing : ∀ places ∈ graph.placements,
      (Shape.closedObject [("nodes", .listOf Placement.shape)]).Yields
        (.object [("nodes", .array (places.map Placement.toJson))])
        (.object [("nodes", .array (places.map Placement.toJson))]) := fun places member =>
    yields_object (.member (yields_list (h.placements places member)) .nil)
      (by decide) (by decide)
  simp only [toJson, normal, List.append_assoc, Option.map_map]
  refine yields_object
    (.optional (fun text _ => yields_anyText text) <| .optional drawing <|
      .member (yields_object
        (.optional (fun text _ => yields_anyText text) <|
          .member (yields_object
            (.optional (fun text _ => yields_anyText text) <| .member h.schema.yields .nil)
            (by decide) (by decide)) <|
          .member (yields_object (.member (yields_list h.nodeKeys) .nil)
            (by decide) (by decide)) <|
          .member (yields_object
            (.optional (fun schema member => (h.sourceSchema schema member).yields) <|
              .member (yields_list h.nodeMappings) <|
              .member (yields_list h.relationshipMappings) .nil)
            (by decide) (by decide)) <|
          .optional_last fun members _ => yields_dictionary members)
        (by decide) (by decide)) .nil)
    (by decide) (by decide)

/-- A graph that passes is read back in its normal form. -/
theorem Passes.check_eq {graph : ReferenceGraph} (h : graph.Passes) (subject : String) :
    Document.check shape (some graph.toJson) subject = .ok graph.normal.toJson := by
  simp [Document.check, h.yields.parse]

end ReferenceGraph
end PropertyGraph

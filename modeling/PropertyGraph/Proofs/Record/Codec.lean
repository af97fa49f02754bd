import PropertyGraph.Proofs.Diagram.Codec
import PropertyGraph.Proofs.Reachable
import PropertyGraph.Proofs.ReferenceGraph.Checked

/-! Models as plain records. The record of a valid model passes the check of records if its
positions are numbers, its styles are assigned and what it stores of a reference graph has its
form, and the model is read back with the members of what it stores in order. -/
namespace PropertyGraph
open Shape (Writes yields_object yields_anyText yields_someText yields_list yields_flag
  yields_choice yields_dictionary)

section Properties

lemma PropertySource.yields (source : PropertySource) :
    shape.Yields source.toJson source.toJson := by
  have kind (k : SourceKind) : SourceKind.shape.Yields (.string k.name) (.string k.name) :=
    yields_choice (by cases k <;> decide)
  simp only [toJson, List.append_assoc]
  exact yields_object
    (.optional (fun text _ => yields_anyText text) <|
      .optional (fun text _ => yields_anyText text) <|
      .optional (fun text _ => yields_anyText text) <| .optional_last fun k _ => kind k)
    (by decide) (by decide)

@[simp] lemma PropertySource.ofJson_toJson (source : PropertySource) :
    ofJson source.toJson = source := by
  obtain ⟨column, table, location, kind⟩ := source
  cases kind <;> simp [ofJson, toJson, SourceKind.ofName?_name]

lemma Provenance.yields (provenance : Provenance) :
    shape.Yields provenance.toJson provenance.toJson :=
  yields_object
    (.optional (fun text _ => yields_anyText text) <| .optional_last fun b _ => yields_flag b)
    (by decide) (by decide)

@[simp] lemma Provenance.ofJson_toJson (provenance : Provenance) :
    ofJson provenance.toJson = provenance := by
  simp [ofJson, toJson]

namespace Property

variable {property : Property}

lemma yields (named : property.name ≠ "") : shape.Yields property.toJson property.toJson := by
  have metadata (p : Provenance) :
      (Shape.closedObject [("referenceGraph", .optional Provenance.shape)]).Yields
        (.object [("referenceGraph", p.toJson)]) (.object [("referenceGraph", p.toJson)]) :=
    yields_object (.member p.yields.optional .nil) (by decide) (by decide)
  simp only [toJson, List.append_assoc]
  exact yields_object
    (.member (yields_someText named) <| .member (yields_anyText _).optional <|
      .optional (fun source _ => source.yields) <| .optional (fun text _ => yields_anyText text) <|
      .optional_last fun p _ => metadata p)
    (by decide) (by decide)

lemma draft_toJson (property : Property) : Draft.ofJson property.toJson =
    ⟨property.name, some property.type, property.source, property.description,
      property.provenance⟩ := by
  obtain ⟨name, type, source, description, provenance⟩ := property
  cases source <;> cases provenance <;> simp [Draft.ofJson, toJson, provenanceOf]

theorem ofRecord_toJson (valid : property.Valid) : ofRecord property.toJson = .ok property := by
  simp [ofRecord, draft_toJson, build, valid.name, valid.normalize_type]

end Property
end Properties

section Metadata

def NodeMetadata.Numbered (metadata : NodeMetadata) : Prop :=
  ∀ position, metadata.place = some position ∨ metadata.diagramPosition? = some position →
    position.x.isNaN = false ∧ position.y.isNaN = false

/-- What the record of a node's metadata must have to be read back as it is. -/
structure NodeMetadata.Recordable (metadata : NodeMetadata) : Prop where
  numbered : metadata.Numbered
  style : ∀ drawing ∈ metadata.diagram, drawing.style.map Members.assign = drawing.style

def RelationshipMetadata.Recordable (metadata : RelationshipMetadata) : Prop :=
  ∀ drawing ∈ metadata.diagram, drawing.style.map Members.assign = drawing.style

structure ModelMetadata.Recordable (metadata : ModelMetadata) : Prop where
  style : ∀ drawing ∈ metadata.diagram, drawing.style.map Members.assign = drawing.style
  stored : ∀ stored ∈ metadata.referenceGraph, stored.Rebuilt

lemma writes_style {style : Option Style} (assigned : style.map Members.assign = style) :
    Writes [("style", styleShape.optional)] (Json.optional "style" (style.map .object))
      (Json.optional "style" (style.map .object)) := by
  have written := Diagram.writes_style style
  rwa [assigned] at written

lemma Drawing.yields {drawing : Drawing}
    (assigned : drawing.style.map Members.assign = drawing.style) :
    shape.Yields drawing.toJson drawing.toJson :=
  yields_object (writes_style assigned) (by decide) (by decide)

lemma NodeDrawing.yields {drawing : NodeDrawing}
    (numbered : ∀ position ∈ drawing.position,
      position.x.isNaN = false ∧ position.y.isNaN = false)
    (assigned : drawing.style.map Members.assign = drawing.style) :
    shape.Yields drawing.toJson drawing.toJson := by
  simp only [toJson, List.append_assoc]
  exact yields_object
    (.optional (fun position member => Position.yields (numbered position member)) <|
      .optional (fun text _ => yields_anyText text) <| writes_style assigned)
    (by decide) (by decide)

lemma NodeMetadata.Recordable.yields {metadata : NodeMetadata} (recordable : metadata.Recordable) :
    shape.Yields metadata.toJson metadata.toJson := by
  have drawing : ∀ d ∈ metadata.diagram, NodeDrawing.shape.Yields d.toJson d.toJson := by
    intro d known
    refine NodeDrawing.yields (fun position inside => ?_) (recordable.style d known)
    exact recordable.numbered position (.inr (by rwa [diagramPosition?, Option.mem_def.1 known]))
  have place : ∀ p ∈ metadata.place, (Shape.closedObject [("position", Position.shape)]).Yields
      (.object [("position", p.toJson)]) (.object [("position", p.toJson)]) := fun p known =>
    yields_object (.member (Position.yields (recordable.numbered p (.inl known))) .nil)
      (by decide) (by decide)
  exact yields_object (.optional drawing <| .optional_last place) (by decide) (by decide)

lemma RelationshipMetadata.Recordable.yields {metadata : RelationshipMetadata}
    (recordable : metadata.Recordable) : shape.Yields metadata.toJson metadata.toJson :=
  yields_object (.optional_last fun d known => Drawing.yields (recordable d known)) (by decide)
    (by decide)

@[simp] lemma Drawing.ofJson_toJson (drawing : Drawing) : ofJson drawing.toJson = drawing := by
  simp [ofJson, toJson]

@[simp] lemma NodeDrawing.ofJson_toJson (drawing : NodeDrawing) :
    ofJson drawing.toJson = drawing := by
  simp [ofJson, toJson, Function.comp_def, Position.ofJson_toJson]

@[simp] lemma NodeMetadata.ofJson_toJson (metadata : NodeMetadata) :
    ofJson metadata.toJson = metadata := by
  obtain ⟨diagram, place⟩ := metadata
  cases place <;> simp [ofJson, toJson, Function.comp_def, Position.ofJson_toJson]

@[simp] lemma RelationshipMetadata.ofJson_toJson (metadata : RelationshipMetadata) :
    ofJson metadata.toJson = metadata := by
  simp [ofJson, toJson, Function.comp_def]

namespace ModelMetadata

variable {metadata : ModelMetadata}

/-- The metadata with the members of the stored rules and of the stored source in order. -/
def normal (metadata : ModelMetadata) : ModelMetadata :=
  { metadata with referenceGraph := metadata.referenceGraph.map ReferenceGraph.Stored.normal }

lemma Recordable.yields (recordable : metadata.Recordable) :
    shape.Yields metadata.toJson metadata.normal.toJson := by
  simp only [toJson, normal, Option.map_map]
  exact yields_object
    (.optional (fun d known => Drawing.yields (recordable.style d known)) <|
      .optional_last fun stored present => (recordable.stored stored present).yields)
    (by decide) (by decide)

end ModelMetadata

@[simp] lemma ReferenceGraph.Stored.ofJson_toJson (stored : ReferenceGraph.Stored) :
    ofJson stored.toJson = stored := by
  obtain ⟨version, modelVersion, constraints, indexes, configurations, source⟩ := stored
  cases constraints <;> cases indexes <;>
    simp [ofJson, toJson, Function.comp_def]

@[simp] lemma ModelMetadata.ofJson_toJson (metadata : ModelMetadata) :
    ofJson metadata.toJson = metadata := by
  simp [ofJson, toJson, Function.comp_def]

end Metadata

section Entities

lemma mapM_ofRecord_toJson {properties : List Property} (valid : ∀ p ∈ properties, p.Valid) :
    (properties.map Property.toJson).mapM Property.ofRecord = .ok properties :=
  Except.mapM_map_eq fun p member => Property.ofRecord_toJson (valid p member)

lemma yields_properties {properties : List Property} (valid : ∀ p ∈ properties, p.Valid) :
    (Shape.listOf Property.shape).Yields (.array (properties.map Property.toJson))
      (.array (properties.map Property.toJson)) :=
  yields_list fun p member =>
    Property.yields (ReferenceGraph.ne_empty_of_not_blank (valid p member).name)

namespace Node

variable {node : Node}

lemma Valid.yields (valid : node.Valid) (recordable : node.metadata.Recordable) :
    shape.Yields node.toJson node.toJson := by
  have each := valid.properties.each
  rw [withKey, List.forall_mem_append] at each
  have key : node.key.name ≠ "" :=
    ReferenceGraph.ne_empty_of_not_blank (each.1 node.key (by simp)).name
  exact yields_object
    (.member (yields_someText (ReferenceGraph.ne_empty_of_not_blank valid.label)) <|
      .member (Property.yields key) <| .member (yields_properties each.2).optional <|
      .member recordable.yields.optional .nil)
    (by decide) (by decide)

/-- A valid node that is written is read back. -/
theorem Valid.ofRecord_toJson (valid : node.Valid) : ofRecord node.toJson = .ok node := by
  have each := valid.properties.each
  rw [withKey, List.forall_mem_append] at each
  have key := Property.ofRecord_toJson (each.1 node.key (by simp))
  have others := mapM_ofRecord_toJson each.2
  have built : build node.label node.key node.properties node.metadata = .ok node :=
    build_of_nodup valid.label valid.properties.names _
  refine Except.bind_eq_ok_iff.2 ⟨node.key, by simpa [toJson] using key,
    Except.bind_eq_ok_iff.2 ⟨node.properties, by simpa [toJson] using others, ?_⟩⟩
  simpa [toJson] using built

end Node

namespace Relationship

variable {relationship : Relationship}

lemma Valid.yields (valid : relationship.Valid) (recordable : relationship.metadata.Recordable) :
    shape.Yields relationship.toJson relationship.toJson := by
  have each := valid.properties.each
  rw [withKey, List.forall_mem_append] at each
  have key : ∀ k ∈ relationship.key, Property.shape.Yields k.toJson k.toJson := fun k known =>
    Property.yields (ReferenceGraph.ne_empty_of_not_blank (each.1 k (by simpa using known)).name)
  simp only [toJson, List.append_assoc]
  exact yields_object
    (.member (yields_someText (ReferenceGraph.ne_empty_of_not_blank valid.type)) <|
      .member (yields_someText (ReferenceGraph.ne_empty_of_not_blank valid.startLabel)) <|
      .member (yields_someText (ReferenceGraph.ne_empty_of_not_blank valid.endLabel)) <|
      .optional key <| .member (yields_properties each.2).optional <|
      .member recordable.yields.optional .nil)
    (by decide) (by decide)

/-- A valid relationship that is written is read back. -/
theorem Valid.ofRecord_toJson (valid : relationship.Valid) :
    ofRecord relationship.toJson = .ok relationship := by
  have each := valid.properties.each
  rw [withKey, List.forall_mem_append] at each
  have key : (relationship.toJson.get? "keyProperty").mapM Property.ofRecord =
      .ok relationship.key := by
    cases given : relationship.key with
    | none =>
      simp [toJson, given]
      rfl
    | some k =>
      have read := Property.ofRecord_toJson (each.1 k (by simp [given]))
      simp [toJson, given, read]
  have others := mapM_ofRecord_toJson each.2
  have built : build relationship.type relationship.startLabel relationship.endLabel
      relationship.key relationship.properties relationship.metadata = .ok relationship :=
    build_of_nodup valid.type valid.startLabel valid.endLabel valid.properties.names _
  refine Except.bind_eq_ok_iff.2 ⟨relationship.key, key,
    Except.bind_eq_ok_iff.2 ⟨relationship.properties, by simpa [toJson] using others, ?_⟩⟩
  simpa [toJson] using built

end Relationship

namespace Model

variable {model : Model}

def normal (model : Model) : Model := { model with metadata := model.metadata.normal }

/-- What the record of a model must have besides a valid model. -/
structure Recordable (model : Model) : Prop where
  nodes : ∀ node ∈ model.nodes, node.metadata.Recordable
  relationships : ∀ relationship ∈ model.relationships, relationship.metadata.Recordable
  metadata : model.metadata.Recordable

lemma Valid.yields (valid : model.Valid) (recordable : model.Recordable) :
    shape.Yields model.toJson model.normal.toJson := by
  have nodes := yields_list fun node member =>
    (valid.nodes node member).yields (recordable.nodes node member)
  have relationships := yields_list fun relationship member =>
    (valid.relationships relationship member).yields (recordable.relationships relationship member)
  exact yields_object
    (.member nodes <| .member relationships.optional <|
      .member recordable.metadata.yields.optional .nil)
    (by decide) (by decide)

/-- A valid model that is written is read back. -/
theorem Valid.ofRecord_toJson (valid : model.Valid) : ofRecord model.toJson = .ok model := by
  have nodes : (model.nodes.map Node.toJson).mapM Node.ofRecord = .ok model.nodes :=
    Except.mapM_map_eq fun node member => (valid.nodes node member).ofRecord_toJson
  have relationships : (model.relationships.map Relationship.toJson).mapM Relationship.ofRecord =
      .ok model.relationships :=
    Except.mapM_map_eq fun relationship member =>
      (valid.relationships relationship member).ofRecord_toJson
  refine Except.bind_eq_ok_iff.2 ⟨model.nodes, by simpa [toJson] using nodes,
    Except.bind_eq_ok_iff.2 ⟨model.relationships, by simpa [toJson] using relationships, ?_⟩⟩
  have built : build model.nodes model.relationships model.metadata = .ok model :=
    build_eq_ok_iff.2 ⟨valid.consistent, rfl⟩
  simpa [toJson] using built

lemma Valid.normal (valid : model.Valid) : model.normal.Valid :=
  ⟨valid.consistent, valid.nodes, valid.relationships⟩

/-- The record of a valid model is parsed as the model in normal form. -/
theorem Valid.parseRecord_toJson (valid : model.Valid) (recordable : model.Recordable) :
    parseRecord (some model.toJson) = .ok model.normal := by
  rw [parseRecord, (valid.yields recordable).parse]
  exact valid.normal.ofRecord_toJson

end Model
end Entities
end PropertyGraph

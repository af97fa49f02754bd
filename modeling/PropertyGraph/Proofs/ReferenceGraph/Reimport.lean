import PropertyGraph.Proofs.Reachable
import PropertyGraph.Proofs.ReferenceGraph.Export

/-! A reference graph that has been written is read again, and the model comes back with its
schema: what is lost is only what a reference graph cannot say. -/
namespace PropertyGraph

/-- A node as it is once a reference graph has carried it. -/
structure Node.CarriedAs (grid : Grid) (index : Nat) (node back : Node) : Prop where
  label : back.label = node.label
  key : back.key.name = node.key.name
  names : back.properties.map Property.name = node.properties.map Property.name
  types : back.allProperties.map Property.type =
    node.allProperties.map fun p => TypeTag.carried p.type
  place : back.metadata.place =
    some ((node.metadata.place <|> node.metadata.diagramPosition?).getD (grid.place index))

/-- A relationship as it is once a reference graph has carried it, its key before its other
properties. -/
structure Relationship.CarriedAs (relationship back : Relationship) : Prop where
  type : back.type = relationship.type
  startLabel : back.startLabel = relationship.startLabel
  endLabel : back.endLabel = relationship.endLabel
  key : back.key = none
  names : back.properties.map Property.name = relationship.allProperties.map Property.name
  types : back.properties.map Property.type =
    relationship.allProperties.map fun p => TypeTag.carried p.type

namespace ReferenceGraph

variable {model : Model} {numbered : NumberedModel} {grid : Grid}

lemma types_reread (kind : SourceKind) (table : String) (properties : List Numbered) :
    (properties.map (Numbered.reread kind table)).map Property.type =
      (properties.map Numbered.property).map fun p => TypeTag.carried p.type := by
  simp [Function.comp_def, Numbered.reread]

lemma NumberedNode.Fits.carriedAs {entry : NumberedNode} (fits : entry.Fits)
    (kind : SourceKind) :
    entry.node.CarriedAs grid entry.index (entry.reread grid kind) := by
  have names := names_reread kind entry.tableName entry.others
  have types := types_reread kind entry.tableName entry.properties
  refine ⟨rfl, ?_, ?_, ?_, rfl⟩
  · simp [reread, Numbered.reread, fits.key]
  · rw [fits.others.properties] at names
    exact names
  · rw [fits.map_property] at types
    exact types

lemma NumberedRelationship.Fits.carriedAs {nodes : List NumberedNode}
    {entry : NumberedRelationship} (fits : entry.Fits nodes) (kind : SourceKind) :
    entry.relationship.CarriedAs (entry.reread kind) := by
  have names := names_reread kind entry.tableName entry.properties
  have types := types_reread kind entry.tableName entry.properties
  rw [fits.map_property] at names types
  exact ⟨rfl, rfl, rfl, rfl, names, types⟩

lemma NumberedModel.Fits.zipIdx_nodes (fits : numbered.Fits model) :
    model.nodes.zipIdx = numbered.nodes.map fun e => (e.node, e.index) := by
  rw [List.zipIdx_eq_zip_range', ← List.range_eq_range', ← fits.nodeIndexes, ← fits.nodes,
    List.zip_map']

lemma NumberedModel.Fits.reread_carriedAs (fits : numbered.Fits model) (kind : SourceKind)
    (metadata : ModelMetadata) :
    List.Forall₂ (fun node back => Node.CarriedAs grid node.2 node.1 back) model.nodes.zipIdx
        (numbered.reread grid kind metadata).nodes ∧
      List.Forall₂ Relationship.CarriedAs model.relationships
        (numbered.reread grid kind metadata).relationships := by
  constructor
  · rw [fits.zipIdx_nodes, reread, List.forall₂_map_left_iff, List.forall₂_map_right_iff,
      List.forall₂_same]
    exact fun entry member => (fits.eachNode entry member).carriedAs kind
  · rw [← fits.relationships, reread, List.forall₂_map_left_iff, List.forall₂_map_right_iff,
      List.forall₂_same]
    exact fun entry member => (fits.eachRelationship entry member).carriedAs kind

/-- What is written for a valid model is read as the model that its numbering describes. -/
theorem read_build (fits : numbered.FitsValid model)
    (positions : model.PositionsFinite)
    (accepted : ∀ stored ∈ model.metadata.referenceGraph, stored.Accepted)
    {settings : Settings} (regular : settings.grid.Regular)
    (finite : settings.grid.spacing.isFinite = true) (strict : Bool) :
    let graph := (build settings model numbered).1.normal
    (read (some (build settings model numbered).1.toJson) strict).answer =
      .ok (numbered.reread settings.grid graph.sourceKind ⟨none, some graph.stored⟩) := by
  have passes := build_passes fits positions accepted regular finite
  rw [answer_read, passes.check_eq]
  change ((ofJson (build settings model numbered).1.normal.toJson).toModel strict).answer = _
  rw [ofJson_toJson]
  exact answer_toModel_eq fits (build_normal_shows settings model numbered) strict

/-- Every reachable model whose stored positions are finite can be written and read again,
strictly or not, and every part of its schema comes back in its place. -/
theorem exists_read_write (reachable : model.Reachable) (positions : model.PositionsFinite)
    (accepted : ∀ stored ∈ model.metadata.referenceGraph, stored.Accepted)
    {asked : Option Json} {settings : Settings}
    (resolved : Settings.resolve asked = .ok settings)
    (finite : settings.grid.spacing.isFinite = true) (strict : Bool) :
    ∃ graph back, (write model asked).answer = .ok graph ∧
      (read (some graph.toJson) strict).answer = .ok back ∧
      back.labels = model.labels ∧ back.patterns = model.patterns ∧
      List.Forall₂ (fun node back => Node.CarriedAs settings.grid node.2 node.1 back)
        model.nodes.zipIdx back.nodes ∧
      List.Forall₂ Relationship.CarriedAs model.relationships back.relationships := by
  have valid := reachable.valid
  obtain ⟨numbered, fits, written⟩ := exists_answer_write valid resolved
  have regular := Settings.regular_of_resolve resolved
  have read := read_build fits positions accepted regular finite strict
  obtain ⟨nodes, relationships⟩ := fits.reread_carriedAs _ _
  exact ⟨_, _, written, read, fits.labels_reread _ _, fits.patterns_reread _, nodes,
    relationships⟩

theorem exists_read_write_library :
    ∃ graph back, (write .library none).answer = .ok graph ∧
      (read (some graph.toJson) true).answer = .ok back ∧
      back.labels = ["Author", "Book"] ∧
      back.patterns = ["(:Author)-[:WROTE]->(:Book)"] := by
  have positions : Model.library.PositionsFinite :=
    Model.positionsFinite_of_empty (by simp [Model.library, Node.author, Node.book])
  have resolved : Settings.resolve none = .ok Settings.standard := by decide +kernel
  obtain ⟨graph, back, written, read, labels, patterns, -⟩ :=
    exists_read_write (.initial Model.library_initial) positions (by rintro stored ⟨⟩) resolved
      (by decide +kernel) true
  exact ⟨graph, back, written, read, labels, patterns⟩

end ReferenceGraph
end PropertyGraph

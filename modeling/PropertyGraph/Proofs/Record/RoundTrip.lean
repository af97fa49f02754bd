import PropertyGraph.Proofs.Record.Codec
import PropertyGraph.Proofs.Diagram.Reread
import PropertyGraph.Proofs.ReferenceGraph.Normalization

/-! Models that come from records and documents, as plain records. Everything that a check
leaves of a record passes the check again, and edits that bring in such parts keep it so: the
record of the model is parsed as a model with an equal record. -/
namespace PropertyGraph
open Members (mem_of_lookup)

section Equality

variable {metadata : ModelMetadata} {model : Model}

lemma ModelMetadata.Recordable.same_normal (recordable : metadata.Recordable) :
    Json.Same metadata.toJson metadata.normal.toJson :=
  .members ((Json.SameMembers.refl _).append
    (.optional_map fun stored present => (recordable.stored stored present).same_normal))

/-- Reading the record again changes at most the order of members. -/
theorem Model.Recordable.same_normal (recordable : model.Recordable) :
    Json.Same model.toJson model.normal.toJson :=
  .members (.cons (.refl _) (.cons (.refl _) (.cons recordable.metadata.same_normal .nil)))

end Equality

section Checked

variable {v w : Json}

lemma NodeMetadata.numbered_of_rebuilt (h : NodeMetadata.shape.Yields v w) :
    (ofJson w).Numbered := by
  have drawing := h.optional_member (by decide) (mem_of_lookup "diagram" rfl)
  have place := h.optional_member (by decide) (mem_of_lookup "visualization" rfl)
  rintro position (placed | drawn)
  · obtain ⟨found, inside, rfl⟩ := Option.map_eq_some_iff.1 placed
    obtain ⟨part, here, inside⟩ := Option.bind_eq_some_iff.1 inside
    obtain ⟨_, made⟩ := place part here
    obtain ⟨_, _, known, positionMade⟩ :=
      made.member (by decide) (mem_of_lookup "position" rfl) (by decide)
    obtain rfl := Option.some.inj (inside.symm.trans known)
    exact Position.number_of_rebuilt positionMade
  · obtain ⟨found, here, drawn⟩ := Option.bind_eq_some_iff.1 drawn
    obtain ⟨part, inside, rfl⟩ := Option.map_eq_some_iff.1 here
    obtain ⟨_, made⟩ := drawing part inside
    obtain ⟨json, known, rfl⟩ := Option.map_eq_some_iff.1 drawn
    obtain ⟨_, positionMade⟩ :=
      made.optional_member (by decide) (mem_of_lookup "position" rfl) json known
    exact Position.number_of_rebuilt positionMade

lemma NodeDrawing.style_of_rebuilt (h : NodeDrawing.shape.Yields v w) :
    (ofJson w).style.map Members.assign = (ofJson w).style :=
  h.members?_eq (by decide) (mem_of_lookup "style" rfl)

lemma Drawing.style_of_rebuilt (h : Drawing.shape.Yields v w) :
    (ofJson w).style.map Members.assign = (ofJson w).style :=
  h.members?_eq (by decide) (mem_of_lookup "style" rfl)

lemma NodeMetadata.recordable_of_rebuilt (h : NodeMetadata.shape.Yields v w) :
    (ofJson w).Recordable := by
  refine ⟨numbered_of_rebuilt h, fun drawing known => ?_⟩
  obtain ⟨part, inside, rfl⟩ := Option.map_eq_some_iff.1 known
  obtain ⟨_, made⟩ := h.optional_member (by decide) (mem_of_lookup "diagram" rfl) part inside
  exact NodeDrawing.style_of_rebuilt made

lemma RelationshipMetadata.recordable_of_rebuilt (h : RelationshipMetadata.shape.Yields v w) :
    (ofJson w).Recordable := by
  intro drawing known
  obtain ⟨part, inside, rfl⟩ := Option.map_eq_some_iff.1 known
  obtain ⟨_, made⟩ := h.optional_member (by decide) (mem_of_lookup "diagram" rfl) part inside
  exact Drawing.style_of_rebuilt made

lemma NodeMetadata.recordable_empty : empty.Recordable :=
  ⟨by rintro position (placed | drawn) <;> contradiction, nofun⟩

lemma RelationshipMetadata.recordable_empty : empty.Recordable := nofun

lemma ModelMetadata.recordable_empty : empty.Recordable := ⟨nofun, nofun⟩

lemma Node.recordable_of_ofRecord {node : Node} (h : Node.shape.Yields v w)
    (read : ofRecord w = .ok node) : node.metadata.Recordable := by
  simp only [ofRecord, Except.bind_eq_ok_iff] at read
  obtain ⟨key, -, properties, -, built⟩ := read
  obtain ⟨-, rfl⟩ := build_eq_ok_iff.1 built
  exact h.optional_part (P := NodeMetadata.Recordable) (by decide) (mem_of_lookup "metadata" rfl)
    NodeMetadata.recordable_empty NodeMetadata.recordable_of_rebuilt

lemma Relationship.recordable_of_ofRecord {relationship : Relationship}
    (h : Relationship.shape.Yields v w) (read : ofRecord w = .ok relationship) :
    relationship.metadata.Recordable := by
  simp only [ofRecord, Except.bind_eq_ok_iff] at read
  obtain ⟨key, -, properties, -, built⟩ := read
  obtain ⟨-, rfl⟩ := build_eq_ok_iff.1 built
  exact h.optional_part (P := RelationshipMetadata.Recordable) (by decide)
    (mem_of_lookup "metadata" rfl) RelationshipMetadata.recordable_empty
    RelationshipMetadata.recordable_of_rebuilt

namespace ReferenceGraph

lemma Stored.rebuilt_of_rebuilt (h : Stored.shape.Yields v w) : (ofJson w).Rebuilt := by
  refine ⟨fun kind => ?_, h.members?_eq (by decide) (mem_of_lookup "configurations" rfl),
    fun source present => ?_⟩
  · cases kind with
    | constraint =>
      exact rules_rebuilt (h.optional_member (by decide) (mem_of_lookup "constraints" rfl))
    | index => exact rules_rebuilt (h.optional_member (by decide) (mem_of_lookup "indexes" rfl))
  · obtain ⟨found, here, rfl⟩ := Option.map_eq_some_iff.1 present
    obtain ⟨_, made⟩ :=
      h.optional_member (by decide) (mem_of_lookup "dataSourceSchema" rfl) found here
    obtain ⟨members, rfl⟩ := Shape.exists_rebuilt made
    exact ⟨_, made⟩

end ReferenceGraph

lemma ModelMetadata.recordable_of_rebuilt (h : ModelMetadata.shape.Yields v w) :
    (ofJson w).Recordable := by
  refine ⟨fun drawing known => ?_, fun stored present => ?_⟩
  · obtain ⟨part, inside, rfl⟩ := Option.map_eq_some_iff.1 known
    obtain ⟨_, made⟩ := h.optional_member (by decide) (mem_of_lookup "diagram" rfl) part inside
    exact Drawing.style_of_rebuilt made
  · obtain ⟨part, inside, rfl⟩ := Option.map_eq_some_iff.1 present
    obtain ⟨_, made⟩ :=
      h.optional_member (by decide) (mem_of_lookup "referenceGraph" rfl) part inside
    exact ReferenceGraph.Stored.rebuilt_of_rebuilt made

end Checked

/-- What an edit brings in has been read from a record that has passed its check. -/
def Edit.FromRecords : Edit → Prop
  | .addNode node => ∃ record json, Node.shape.parse record = .ok json ∧
      Node.ofRecord json = .ok node
  | .addRelationship relationship => ∃ record json, Relationship.shape.parse record = .ok json ∧
      Relationship.ofRecord json = .ok relationship
  | .addProperty _ property => ∃ record json, Property.shape.parse record = .ok json ∧
      Property.ofRecord json = .ok property
  | .setMetadata metadata => ∃ record json, ModelMetadata.shape.parse record = .ok json ∧
      metadata = .ofJson json
  | .setNodeMetadata _ metadata => ∃ record json, NodeMetadata.shape.parse record = .ok json ∧
      metadata = .ofJson json
  | .setRelationshipMetadata _ _ _ metadata => ∃ record json,
      RelationshipMetadata.shape.parse record = .ok json ∧ metadata = .ofJson json
  | .removeNode _ _ | .removeRelationship _ _ _ | .removeProperty _ _ => True

/-- The models that come from records and documents, and by edits that bring in what records
describe. -/
inductive Model.Recorded : Model → Prop
  | record {value : Option Json} {model : Model} (parsed : parseRecord value = .ok model) :
      Recorded model
  | diagram {document : Option Json} {model : Model}
      (read : (Diagram.read document).answer = .ok model) : Recorded model
  | referenceGraph {document : Option Json} {strict : Bool} {model : Model}
      (read : (ReferenceGraph.read document strict).answer = .ok model) : Recorded model
  | edit {model next : Model} {edit : Edit} (prior : Recorded model) (brought : edit.FromRecords)
      (applied : edit.apply model = .ok next) : Recorded next

section Edits

variable {model next : Model} {edit : Edit}

lemma Edit.FromRecords.legal (brought : edit.FromRecords) : edit.Legal := by
  cases edit with
  | addNode node =>
    obtain ⟨_, _, -, read⟩ := brought
    exact Node.reachable_of_ofRecord read
  | addRelationship relationship =>
    obtain ⟨_, _, -, read⟩ := brought
    exact Relationship.reachable_of_ofRecord read
  | addProperty place property =>
    obtain ⟨_, _, -, read⟩ := brought
    exact ⟨_, read⟩
  | _ => trivial

theorem Model.Recorded.reachable (recorded : model.Recorded) : model.Reachable := by
  induction recorded with
  | record parsed => exact .initial (.record parsed)
  | diagram read => exact .initial (.diagram read)
  | referenceGraph read => exact .initial (.referenceGraph read)
  | edit _ brought applied ih => exact .edit ih brought.legal applied

namespace Model.Recordable

lemma replaceNode {node : Node} (recordable : model.Recordable)
    (brought : node.metadata.Recordable) : (model.replaceNode node).Recordable := by
  refine ⟨fun other member => ?_, recordable.relationships, recordable.metadata⟩
  rcases mem_replaceNode member with rfl | old
  · exact brought
  · exact recordable.nodes other old

lemma replaceRelationship {relationship : Relationship} (recordable : model.Recordable)
    (brought : relationship.metadata.Recordable) :
    (model.replaceRelationship relationship).Recordable := by
  refine ⟨recordable.nodes, fun other member => ?_, recordable.metadata⟩
  rcases mem_replaceRelationship member with rfl | old
  · exact brought
  · exact recordable.relationships other old

lemma node {label : String} {node : Node} (recordable : model.Recordable)
    (found : model.node label = .ok node) : node.metadata.Recordable :=
  recordable.nodes node (List.mem_of_find?_eq_some (node_eq_ok_iff.1 found))

lemma relationship {type startLabel endLabel : String} {relationship : Relationship}
    (recordable : model.Recordable)
    (found : model.relationship type startLabel endLabel = .ok relationship) :
    relationship.metadata.Recordable :=
  recordable.relationships relationship
    (List.mem_of_find?_eq_some (relationship_eq_ok_iff.1 found))

lemma addNode {node : Node} (recordable : model.Recordable)
    (brought : node.metadata.Recordable) (added : model.addNode node = .ok next) :
    next.Recordable := by
  obtain ⟨-, rfl⟩ := addNode_eq_ok_iff.1 added
  refine ⟨?_, recordable.relationships, recordable.metadata⟩
  simpa [or_imp, forall_and] using And.intro recordable.nodes brought

lemma addRelationship {relationship : Relationship} (recordable : model.Recordable)
    (brought : relationship.metadata.Recordable)
    (added : model.addRelationship relationship = .ok next) : next.Recordable := by
  obtain ⟨-, -, rfl⟩ := addRelationship_eq_ok_iff.1 added
  refine ⟨recordable.nodes, ?_, recordable.metadata⟩
  simpa [or_imp, forall_and] using And.intro recordable.relationships brought

lemma removeNode {label : String} {cascade : Bool} (recordable : model.Recordable)
    (removed : model.removeNode label cascade = .ok next) : next.Recordable := by
  rcases eq_of_removeNode removed with ⟨-, rfl⟩ | ⟨-, rfl⟩
  · exact recordable
  · exact ⟨fun node member => recordable.nodes node (List.eraseP_sublist.subset member),
      fun r member => recordable.relationships r (List.filter_sublist.subset member),
      recordable.metadata⟩

lemma removeRelationship (recordable : model.Recordable) (type startLabel endLabel : String) :
    (model.removeRelationship type startLabel endLabel).Recordable :=
  ⟨recordable.nodes,
    fun r member => recordable.relationships r (List.eraseP_sublist.subset member),
    recordable.metadata⟩

/-- Every edit that brings in what records describe keeps a model recordable. -/
theorem of_apply (recordable : model.Recordable) (brought : edit.FromRecords)
    (applied : edit.apply model = .ok next) : next.Recordable := by
  cases edit with
  | addNode node =>
    obtain ⟨_, json, parsed, read⟩ := brought
    obtain ⟨_, -, h⟩ := Shape.exists_given parsed
    exact recordable.addNode (Node.recordable_of_ofRecord h read) applied
  | addRelationship relationship =>
    obtain ⟨_, json, parsed, read⟩ := brought
    obtain ⟨_, -, h⟩ := Shape.exists_given parsed
    exact recordable.addRelationship (Relationship.recordable_of_ofRecord h read) applied
  | removeNode label cascade => exact recordable.removeNode applied
  | removeRelationship type startLabel endLabel =>
    cases applied
    exact recordable.removeRelationship type startLabel endLabel
  | addProperty place property =>
    cases place with
    | node label =>
      simp only [Edit.apply, Except.bind_eq_ok_iff] at applied
      obtain ⟨node, found, changed, added, finish⟩ := applied
      cases finish
      obtain ⟨-, rfl⟩ := Node.addProperty_eq_ok_iff.1 added
      have kept := recordable.node found
      exact recordable.replaceNode kept
    | relationship type startLabel endLabel =>
      simp only [Edit.apply, Except.bind_eq_ok_iff] at applied
      obtain ⟨relationship, found, changed, added, finish⟩ := applied
      cases finish
      obtain ⟨-, rfl⟩ := Relationship.addProperty_eq_ok_iff.1 added
      have kept := recordable.relationship found
      exact recordable.replaceRelationship kept
  | removeProperty place name =>
    cases place with
    | node label =>
      obtain ⟨node, found, finish⟩ := Except.bind_eq_ok_iff.1 applied
      cases finish
      have kept := recordable.node found
      exact recordable.replaceNode kept
    | relationship type startLabel endLabel =>
      obtain ⟨relationship, found, finish⟩ := Except.bind_eq_ok_iff.1 applied
      cases finish
      have kept := recordable.relationship found
      exact recordable.replaceRelationship kept
  | setMetadata metadata =>
    obtain ⟨_, json, parsed, rfl⟩ := brought
    obtain ⟨_, -, h⟩ := Shape.exists_given parsed
    cases applied
    exact ⟨recordable.nodes, recordable.relationships, ModelMetadata.recordable_of_rebuilt h⟩
  | setNodeMetadata label metadata =>
    obtain ⟨_, json, parsed, rfl⟩ := brought
    obtain ⟨_, -, h⟩ := Shape.exists_given parsed
    obtain ⟨node, found, finish⟩ := Except.bind_eq_ok_iff.1 applied
    cases finish
    exact recordable.replaceNode (NodeMetadata.recordable_of_rebuilt h)
  | setRelationshipMetadata type startLabel endLabel metadata =>
    obtain ⟨_, json, parsed, rfl⟩ := brought
    obtain ⟨_, -, h⟩ := Shape.exists_given parsed
    obtain ⟨relationship, -, finish⟩ := Except.bind_eq_ok_iff.1 applied
    cases finish
    exact recordable.replaceRelationship (RelationshipMetadata.recordable_of_rebuilt h)

end Model.Recordable
end Edits

section Models

variable {model : Model}

namespace Model

lemma recordable_of_parseRecord {value : Option Json} (parsed : parseRecord value = .ok model) :
    model.Recordable := by
  unfold parseRecord at parsed
  split at parsed
  · rename_i json checked
    obtain ⟨_, -, h⟩ := Shape.exists_given checked
    simp only [ofRecord, Except.bind_eq_ok_iff] at parsed
    obtain ⟨nodes, hn, relationships, hr, built⟩ := parsed
    obtain ⟨-, rfl⟩ := build_eq_ok_iff.1 built
    refine ⟨fun node member => ?_, fun relationship member => ?_, ?_⟩
    · obtain ⟨item, listed, read⟩ := Except.exists_of_mem_mapM hn member
      obtain ⟨_, list, here, listMade⟩ :=
        h.member (by decide) (mem_of_lookup "nodes" rfl) (by decide)
      obtain ⟨items, rfl, each⟩ := listMade.items
      simp only [Json.list, Json.list?, here, Option.bind_some, Json.array?_array,
        Option.getD_some] at listed
      obtain ⟨_, made⟩ := each item listed
      exact Node.recordable_of_ofRecord made read
    · obtain ⟨item, listed, read⟩ := Except.exists_of_mem_mapM hr member
      have rebuilt := h.list_eq (by decide) (mem_of_lookup "relationships" rfl)
      rw [rebuilt.1] at listed
      obtain ⟨given, inside, rfl⟩ := List.mem_map.1 listed
      exact Relationship.recordable_of_ofRecord (rebuilt.2 given inside) read
    · exact h.optional_part (P := ModelMetadata.Recordable) (by decide)
        (mem_of_lookup "metadata" rfl) ModelMetadata.recordable_empty
        ModelMetadata.recordable_of_rebuilt
  · cases parsed

lemma recordable_of_readDiagram {document : Option Json}
    (read : (Diagram.read document).answer = .ok model) : model.Recordable := by
  obtain ⟨nodes, relationships, style, assigned, metadata⟩ := Diagram.exists_of_read read
  refine ⟨fun node member => ?_, fun relationship member => ?_, ?_⟩
  · obtain ⟨box, rebuilt, made⟩ := nodes node member
    obtain ⟨-, drawing⟩ := Diagram.Box.shows_of_toNode rebuilt.normal made
    rw [drawing]
    refine ⟨?_, ?_⟩
    · rintro position (placed | drawn)
      · cases placed
      · exact rebuilt.number position drawn
    · rintro _ ⟨rfl⟩
      exact congrArg Diagram.Box.style rebuilt.normal
  · obtain ⟨boxes, index, arrow, rebuilt, made⟩ := relationships relationship member
    obtain ⟨-, drawing⟩ := Diagram.Arrow.shows_of_toRelationship rebuilt.normal made
    rw [drawing]
    intro found known
    obtain ⟨style, given, rfl⟩ := Option.map_eq_some_iff.1 known
    exact given ▸ congrArg Diagram.Arrow.style rebuilt.normal
  · rw [metadata]
    refine ⟨fun found known => ?_, nofun⟩
    obtain ⟨style, rfl, rfl⟩ := Option.map_eq_some_iff.1 known
    exact assigned

lemma recordable_of_readReferenceGraph {document : Option Json} {strict : Bool}
    (read : (ReferenceGraph.read document strict).answer = .ok model) : model.Recordable := by
  obtain ⟨json, bindings, checked, bound, -, nodes, relationships⟩ :=
    ReferenceGraph.exists_of_read read
  have rebuilt := ReferenceGraph.rebuilt_of_check checked
  refine ⟨fun node member => ?_, fun relationship member => ?_, ?_⟩
  · obtain ⟨label, -, made⟩ := exists_mem_of_forall₂ nodes member
    refine ⟨fun position known => ?_, ?_⟩
    · obtain ⟨place, listed, rfl⟩ := ReferenceGraph.EntityDef.exists_place bound made known
      exact rebuilt.placements place listed
    · rw [ReferenceGraph.EntityDef.metadata_of_toNode made]
      nofun
  · obtain ⟨kind, -, made⟩ := exists_mem_of_forall₂ relationships member
    rw [ReferenceGraph.RelationshipKind.metadata_of_toRelationship made]
    exact RelationshipMetadata.recordable_empty
  · rw [ReferenceGraph.metadata_of_read read checked]
    refine ⟨nofun, ?_⟩
    rintro stored ⟨rfl⟩
    exact rebuilt.stored

theorem Recorded.recordable (recorded : model.Recorded) : model.Recordable := by
  induction recorded with
  | record parsed => exact recordable_of_parseRecord parsed
  | diagram read => exact recordable_of_readDiagram read
  | referenceGraph read => exact recordable_of_readReferenceGraph read
  | edit _ brought applied ih => exact ih.of_apply brought applied

/-- The record of a model that comes from records and documents is parsed, and the model that it
is parsed as has an equal record. -/
theorem same_parseRecord_toJson (recorded : model.Recorded) :
    ∃ back, parseRecord (some model.toJson) = .ok back ∧ Json.Same model.toJson back.toJson := by
  have recordable := recorded.recordable
  exact ⟨model.normal, recorded.reachable.valid.parseRecord_toJson recordable,
    recordable.same_normal⟩

/-- A record with members that nothing knows, and with open objects out of order. -/
def shelfRecord : Json :=
  .object
    [("nodes", .array [.object [("label", .string "Book"), ("note", .null),
        ("keyProperty", .object [("type", .string " text"), ("name", .string "isbn")])]]),
      ("metadata", .object [("referenceGraph", .object
        [("dataSourceSchema", .object [("units", .array []), ("type", .string "remote")]),
          ("configurations", .object [("b", .null), ("1", .bool true)])])])]

/-- The metadata of the shelf: known members stand first, and indexes before other names. -/
def shelfMetadata : ModelMetadata :=
  ⟨none, some ⟨none, none, none, none, some [("1", .bool true), ("b", .null)],
    some ⟨[("type", .string "remote"), ("units", .array [])]⟩⟩⟩

def shelf (properties : List Property) : Model :=
  ⟨[⟨"Book", ⟨"isbn", "TEXT", none, none, none⟩, properties, .empty⟩], [], shelfMetadata⟩

theorem same_parseRecord_toJson_shelf : ∃ back,
    parseRecord (some (shelf [.ofName "title"]).toJson) = .ok back ∧
      Json.Same (shelf [.ofName "title"]).toJson back.toJson := by
  have parsed : parseRecord (some shelfRecord) = .ok (shelf []) := by decide +kernel
  have brought : Edit.FromRecords (.addProperty (.node "Book") (.ofName "title")) :=
    ⟨some (.object [("name", .string "title")]), .object [("name", .string "title")],
      by decide +kernel, by decide +kernel⟩
  have applied : Edit.apply (shelf []) (.addProperty (.node "Book") (.ofName "title")) =
      .ok (shelf [.ofName "title"]) := by decide +kernel
  exact same_parseRecord_toJson (.edit (.record parsed) brought applied)

end Model
end Models
end PropertyGraph

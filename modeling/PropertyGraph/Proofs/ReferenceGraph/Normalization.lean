import PropertyGraph.Proofs.ReferenceGraph.Checked
import PropertyGraph.Proofs.ReferenceGraph.FixedPoint

/-! Reading a document and writing it again is a normalization: its result is accepted and
comes out of it unchanged. What reading records of a well located document, a table and a
field for every property, is just what settles its relationships. -/
namespace PropertyGraph.ReferenceGraph
open Conversion (AddsOnly answer_bind)

/-- A graph with finite places, and with names for all tables and fields of its nodes. -/
structure Located (graph : ReferenceGraph) : Prop where
  places : ∀ place ∈ graph.placements.getD [], place.position.Finite
  tables : ∀ mapping ∈ graph.nodeMappings, mapping.tableName ≠ ""
  fields : ∀ mapping ∈ graph.nodeMappings, ∀ field ∈ mapping.fields, field.fieldName ≠ ""

theorem addsOnly_write (model : Model) (asked : Option Json) : AddsOnly (write model asked) := by
  unfold write
  exact (AddsOnly.lift _).bind fun settings => (AddsOnly.lift _).bind fun made =>
    (AddsOnly.tellAll made.2).bind fun _ => .pure made.1

theorem normalize_eq_ok_iff {asked : Option Json} {strict : Bool} {document : Option Json}
    {graph : ReferenceGraph} : (normalize asked strict document).answer = .ok graph ↔
      ∃ model, (read document strict).answer = .ok model ∧
        (write model asked).answer = .ok graph := by
  rw [normalize, answer_bind fun model => addsOnly_write model asked, Except.bind_eq_ok_iff]

section Bound

variable {graph : ReferenceGraph} {bindings : Bindings} {id : String}

lemma Bindings.Of.mapping_mem (made : bindings.Of graph) {mapping : Mapping}
    (known : bindings.nodeMapping? id = some mapping) :
    ∃ given ∈ graph.nodeMappings, given.toMapping = mapping := by
  rw [nodeMapping?, made.nodeMappings] at known
  exact exists_of_lookup_reverse known

lemma Bindings.place_mem (made : ofGraph graph = .ok bindings) {position : Position}
    (known : bindings.place? id = some position) :
    ∃ place ∈ graph.placements.getD [], place.position = position := by
  simp only [ofGraph, Except.bind_eq_ok_iff] at made
  obtain ⟨_, -, _, -, _, -, _, -, finish⟩ := made
  cases finish
  exact exists_of_lookup_reverse known

lemma Mapping.field_mem {mapping : Mapping} {field : String}
    (known : mapping.fieldOf? id = some field) :
    ∃ entry ∈ mapping.fields, entry.fieldName = field := by
  obtain ⟨entry, found, same⟩ := Option.map_eq_some_iff.1 known
  exact ⟨entry, List.mem_of_find?_eq_some found, same⟩

end Bound

section Reading

variable {bindings : Bindings} {strict : Bool} {label : EntityDef} {node : Node}

lemma EntityDef.metadata_of_toNode (made : (label.toNode bindings strict).answer = .ok node) :
    node.metadata = ⟨none, (bindings.resolved.nodeOfLabel? label.id).bind fun kind =>
      bindings.place? kind.id⟩ := by
  simp only [answer_toNode, Except.bind_eq_ok_iff] at made
  obtain ⟨_, -, _, -, _, -, built⟩ := made
  rw [(Node.build_eq_ok_iff.1 built).2]

lemma RelationshipKind.metadata_of_toRelationship {kind : RelationshipKind}
    {relationship : Relationship} (made : kind.toRelationship bindings = .ok relationship) :
    relationship.metadata = .empty := by
  simp only [toRelationship, Except.bind_eq_ok_iff] at made
  obtain ⟨_, -, built⟩ := made
  rw [(Relationship.build_eq_ok_iff.1 built).2]

lemma Located.key {graph : ReferenceGraph} (located : graph.Located) (bound : bindings.Of graph)
    (made : (label.toNode bindings strict).answer = .ok node) :
    node.key.table?.isSome = true ∧ node.key.column?.isSome = true := by
  obtain ⟨-, key, table, field, ⟨-, kind, mapping, -, mapped, rfl, known⟩, read⟩ :=
    EntityDef.key_of_toNode made
  obtain ⟨given, member, rfl⟩ := bound.mapping_mem mapped
  obtain ⟨entry, listed, rfl⟩ := Mapping.field_mem known
  simp [read.table, read.column, located.tables given member,
    located.fields given member entry listed]

lemma EntityDef.exists_place {graph : ReferenceGraph} (bound : Bindings.ofGraph graph = .ok bindings)
    (made : (label.toNode bindings strict).answer = .ok node) {position : Position}
    (known : node.metadata.place = some position ∨
      node.metadata.diagramPosition? = some position) :
    ∃ place ∈ graph.placements.getD [], place.position = position := by
  rw [EntityDef.metadata_of_toNode made] at known
  rcases known with placed | drawn
  · obtain ⟨kind, -, placed⟩ := Option.bind_eq_some_iff.1 placed
    exact Bindings.place_mem bound placed
  · cases drawn

variable {document : Option Json} {model : Model} {json : Json}

lemma metadata_of_read (read : (read document strict).answer = .ok model)
    (checked : Document.check shape document "reference-graph document" = .ok json) :
    model.metadata = ⟨none, some (ofJson json).stored⟩ := by
  rw [answer_read, checked] at read
  change ((ofJson json).toModel strict).answer = .ok model at read
  simp only [answer_toModel, Except.bind_eq_ok_iff] at read
  obtain ⟨_, -, _, -, _, -, built⟩ := read
  obtain ⟨-, -, rfl⟩ := Except.map_eq_ok_iff.1 built
  rfl

lemma accepted_of_read (read : (read document strict).answer = .ok model) :
    ∀ stored ∈ model.metadata.referenceGraph, stored.Accepted := by
  obtain ⟨json, -, checked, -⟩ := exists_of_read read
  rw [metadata_of_read read checked]
  rintro stored ⟨rfl⟩
  exact (rebuilt_of_check checked).accepted

/-- What is read from a located document is written settled, at finite places. -/
theorem Located.of_read (located : (ofJson json).Located)
    (read : (read document strict).answer = .ok model)
    (checked : Document.check shape document "reference-graph document" = .ok json) :
    model.PositionsFinite ∧
      ∀ relationship ∈ model.relationships, relationship.Settled model := by
  obtain ⟨bindings, bound, made, nodes, -⟩ := exists_bindings read checked
  have label {node : Node} (member : node ∈ model.nodes) :
      ∃ label : EntityDef, (label.toNode bindings strict).answer = .ok node := by
    obtain ⟨label, -, made⟩ := exists_mem_of_forall₂ nodes member
    exact ⟨label, made⟩
  have key {node : Node} (member : node ∈ model.nodes) :=
    located.key made (label member).choose_spec
  constructor
  · intro node member position known
    obtain ⟨place, listed, rfl⟩ := EntityDef.exists_place bound (label member).choose_spec known
    exact located.places place listed
  · intro relationship _
    exact ⟨fun _ node member _ => (key member).1, fun node member _ => .inl (key member).2,
      fun node member _ => .inl (key member).2⟩

end Reading

section Normalizing

variable {document : Option Json} {strict : Bool} {model : Model} {json : Json}

lemma same_normal {graph : ReferenceGraph}
    (rules : ∀ kind, ∀ rules ∈ graph.schema.rules kind, ∀ rule ∈ rules,
      Json.Same rule.toJson (rule.normal kind).toJson)
    (configurations : graph.configurations.map Members.assign = graph.configurations)
    (source : ∀ schema ∈ graph.sourceSchema, Json.Same schema.toJson schema.normal.toJson) :
    Json.Same graph.toJson graph.normal.toJson := by
  let written (rs : List Rule) : Json := .array (rs.map Rule.toJson)
  have each (kind : RuleKind) : ∀ rs ∈ graph.schema.rules kind,
      Json.Same (written rs) (written (rs.map (Rule.normal kind))) :=
    fun rs present => Json.Same.list (rules kind rs present)
  have schema : Json.Same graph.schema.toJson graph.schema.normal.toJson :=
    .members (((Json.SameMembers.refl _).append
      (.optional_map (k := written) (each .constraint))).append
        (.optional_map (k := written) (each .index)))
  refine same_toJson schema ?_ ?_ rfl
  · change Option.Rel _ _ ((graph.sourceSchema.map SourceSchema.normal).map SourceSchema.toJson)
    cases known : graph.sourceSchema with
    | none => exact .none
    | some given => exact .some (source given known)
  · rw [normal, configurations]
    exact Json.Same.rel_refl _

/-- What is written for a model that stores what a check has made is equal to what a check makes
of it. -/
lemma same_normal_build (numbered : NumberedModel) (settings : Settings)
    (rebuilt : (model.metadata.referenceGraph.getD .empty).Rebuilt) :
    Json.Same (build settings model numbered).1.toJson
      (build settings model numbered).1.normal.toJson := by
  have chosen (kind : RuleKind) : ∀ rule ∈ (chooseRules numbered (numbered.rules kind)
      ((model.metadata.referenceGraph.getD .empty).rules kind)).1,
      Json.Same rule.toJson (rule.normal kind).toJson := by
    refine forall_mem_chooseRules (fun rules given rule member => ?_) fun rule member => ?_
    · exact (rebuilt.rules kind rules given rule member).same_normal
    · obtain ⟨number, name, owner, keyId, rfl, named⟩ := exists_forKey_of_mem member
      rw [Rule.normal_forKey number name owner keyId named]
      exact .refl _
  refine same_normal (fun kind => ?_) ?_ ?_
  · cases kind with
    | constraint =>
      rintro _ ⟨rfl⟩
      exact chosen .constraint
    | index =>
      rintro _ ⟨rfl⟩
      exact chosen .index
  · exact congrArg some (assign_configurations rebuilt.configurations)
  · rintro _ ⟨rfl⟩
    rcases chooseSource_cases _ _ _ with ⟨kept, -⟩ | inferred
    · exact (rebuilt.sourceSchema _ kept).same_normal
    · rw [inferred, SourceSchema.normal_infer]
      exact .refl _

/-- Whatever ids, order and stored rules a located document has, it is normalized to one that
is accepted and normalized to itself. -/
theorem normalize_normalize (read : (read document strict).answer = .ok model)
    (checked : Document.check shape document "reference-graph document" = .ok json)
    (located : (ofJson json).Located) {asked : Option Json} {settings : Settings}
    (resolved : Settings.resolve asked = .ok settings)
    (finite : settings.grid.spacing.isFinite = true) (strictly : Bool) :
    ∃ first again, (normalize asked strict document).answer = .ok first ∧
      (normalize asked strictly (some first.toJson)).answer = .ok again ∧
      Json.Same first.toJson again.toJson := by
  have valid := valid_of_read read
  have metadata := metadata_of_read read checked
  have rebuilt := rebuilt_of_check checked
  have accepted := accepted_of_read read
  obtain ⟨positions, settled⟩ := located.of_read read checked
  obtain ⟨numbered, fits, written, back, rewritten⟩ :=
    exists_write_read_write valid positions accepted resolved finite strictly
  have stored : (model.metadata.referenceGraph.getD .empty).Rebuilt := by
    rw [metadata]
    exact rebuilt.stored
  have kept := same_normal_build numbered settings stored
  exact ⟨_, _, normalize_eq_ok_iff.2 ⟨model, read, written⟩,
    normalize_eq_ok_iff.2 ⟨_, back, rewritten⟩,
    (same_rewrite_iff fits accepted settings _ kept).2 settled⟩

/-- A graph that is accepted though its ids are out of order, a type and an id of a property
are shared, and a constraint names a label that is missing. -/
def scrambled : ReferenceGraph where
  version := none
  placements := some [⟨"n:a", 40, 15⟩]
  modelVersion := none
  schemaVersion := none
  schema := {
    nodeLabels :=
      [⟨"nl:7", "Author", [⟨"p:0", "name", "string", none⟩]⟩,
        ⟨"nl:0", "Book", [⟨"p:0", "isbn", "string", some false⟩, ⟨"p:9", "title", "string", none⟩]⟩]
    relationshipTypes := [⟨"rt:9", "MENTIONS", [⟨"p:9", "page", "integer", none⟩]⟩]
    nodeObjects :=
      [⟨"n:b", [.toId "nl:0"]⟩, ⟨"n:a", [.toId "nl:7"]⟩, ⟨"n:c", [.toId "nl:0", .toId "nl:7"]⟩]
    relationshipObjects :=
      [⟨"r:5", .toId "rt:9", .toId "n:b", .toId "n:c"⟩,
        ⟨"r:3", .toId "rt:9", .toId "n:a", .toId "n:b"⟩]
    constraints := some [.forKey .constraint 4 "Reader" (.node (.toId "nl:5")) "p:0"]
    indexes := none }
  nodeKeys := [⟨.toId "n:b", .toId "p:9"⟩]
  sourceSchema := none
  nodeMappings :=
    [⟨⟨.toId "n:b", "books.csv", [⟨.toId "p:0", "ISBN"⟩, ⟨.toId "p:9", "Title"⟩]⟩⟩,
      ⟨⟨.toId "n:a", "authors.csv", [⟨.toId "p:0", "Name"⟩]⟩⟩]
  relationshipMappings :=
    [⟨⟨.toId "r:5", "citations.csv", [⟨.toId "p:9", "Page"⟩]⟩, some "citing", none⟩,
      ⟨⟨.toId "r:3", "citations.csv", [⟨.toId "p:9", "Page"⟩]⟩, none, some "book"⟩]
  configurations := none

theorem normalize_normalize_scrambled : scrambled.Located ∧
    ∃ first again, (normalize none false (some scrambled.toJson)).answer = .ok first ∧
      (normalize none true (some first.toJson)).answer = .ok again ∧
      Json.Same first.toJson again.toJson := by
  have answers : (ReferenceGraph.read (some scrambled.toJson) false).answer.isOk = true := by
    decide +kernel
  obtain ⟨model, read⟩ := Except.exists_of_isOk answers
  have checked : Document.check shape (some scrambled.toJson) "reference-graph document" =
      .ok scrambled.toJson := by decide +kernel
  have located : scrambled.Located :=
    ⟨by simp [scrambled, Position.Finite]; decide +kernel, by decide, by decide⟩
  have resolved : Settings.resolve none = .ok Settings.standard := by decide +kernel
  have located' : (ofJson scrambled.toJson).Located := by
    rwa [ofJson_toJson]
  exact ⟨located, normalize_normalize read checked located' resolved (by decide +kernel) true⟩

end Normalizing
end PropertyGraph.ReferenceGraph

import PropertyGraph.Proofs.ReferenceGraph.GatheredFields
import PropertyGraph.Proofs.ReferenceGraph.Reimport
import PropertyGraph.Proofs.ReferenceGraph.Rewrite

/-! Which graphs come back unchanged when they are read and written again. Where the check of
documents leaves nothing out, one thing may change: the table and the fields of ends of a
relationship, for which a key that is read again says more. -/
namespace PropertyGraph

def Relationship.cites : Relationship := ⟨"CITES", "Book", "Book", none, [.ofName "page"], .empty⟩

/-- A small model whose relationship has a property and keys in lower case at its ends. -/
def Model.citations : Model := ⟨[.book], [.cites], .empty⟩

theorem Model.citations_initial : citations.Initial := by
  have built : Model.build [.book] [.cites] .empty = .ok citations := rfl
  have cites : Relationship.build "CITES" "Book" "Book" none [.ofName "page"] .empty =
      .ok .cites := rfl
  have page : (Property.ofName "page").Built := Property.ofName_built rfl
  exact .build (by simp [Node.book_reachable])
    (by simpa using Relationship.Reachable.build (by simp) (by simp [page]) cites) built

/-- A key whose field at an end is the field in its own table. -/
def Property.EndsAlike (key : Property) : Prop :=
  key.column?.isSome = true ∨ Text.lower key.name = key.name

instance (key : Property) : Decidable key.EndsAlike :=
  inferInstanceAs (Decidable (key.column?.isSome = true ∨ Text.lower key.name = key.name))

/-- A relationship whose ends have the fields of their nodes, and whose table is that of its
properties or of its start node. -/
structure Relationship.Settled (model : Model) (relationship : Relationship) : Prop where
  table : relationship.allProperties = [] → ∀ node ∈ model.nodes,
    node.label = relationship.startLabel → node.key.table?.isSome = true
  start : ∀ node ∈ model.nodes, node.label = relationship.startLabel → node.key.EndsAlike
  finish : ∀ node ∈ model.nodes, node.label = relationship.endLabel → node.key.EndsAlike

namespace ReferenceGraph

section Documents

variable {first second : ReferenceGraph}

lemma Ref.member_same {v w : Json} (h : Json.Same v w) (name : String) :
    Ref.member name v = Ref.member name w :=
  congrArg Ref.mk ((h.part name).text_eq "$ref")

lemma FieldMapping.ofJson_same (v w : Json) (h : Json.Same v w) : ofJson v = ofJson w := by
  rw [ofJson, ofJson, Ref.member_same h, h.text_eq]

lemma RelationshipMapping.ofJson_same (v w : Json) (h : Json.Same v w) :
    ofJson v = ofJson w := by
  have text (a b : Json) (same : Json.Same a b) : a.text "fieldName" = b.text "fieldName" :=
    same.text_eq _
  rw [ofJson, ofJson, Mapping.ofMember, Mapping.ofMember, Ref.member_same h, h.text_eq,
    h.map_list FieldMapping.ofJson_same, h.map_member text, h.map_member text]

lemma relationshipMappings_eq (h : Json.Same first.toJson second.toJson) :
    first.relationshipMappings = second.relationshipMappings := by
  have same := ((h.part "dataModel").part "graphMappingRepresentation").map_list
    RelationshipMapping.ofJson_same "relationshipMappings"
  have read (graph : ReferenceGraph) : (ofJson graph.toJson).relationshipMappings =
      graph.relationshipMappings := congrArg _ (ofJson_toJson graph)
  rw [← read first, ← read second]
  exact same

lemma same_toJson (schema : Json.Same first.schema.toJson second.schema.toJson)
    (source : Option.Rel Json.Same (first.sourceSchema.map SourceSchema.toJson)
      (second.sourceSchema.map SourceSchema.toJson))
    (configurations : Option.Rel Json.Same (first.configurations.map .object)
      (second.configurations.map .object))
    (others : second = { first with
      schema := second.schema
      sourceSchema := second.sourceSchema
      configurations := second.configurations }) :
    Json.Same first.toJson second.toJson := by
  rw [others]
  simp only [toJson]
  refine .members (.append (.append (.refl _) (.refl _)) (.cons (.members ?_) .nil))
  refine .append (.append (.refl _) (.cons (.members ?_) (.cons (.refl _)
    (.cons (.members ?_) .nil)))) (.optional configurations)
  · exact .append (.refl _) (.cons schema .nil)
  · exact .append (.optional source) (.refl _)

end Documents

section Mappings

variable {model : Model} {numbered : NumberedModel} {grid : Grid} {kind : SourceKind}

lemma endField_name_iff (n : Numbered) :
    n.fieldName = (endField n.property).name ↔ n.property.EndsAlike := by
  unfold Numbered.fieldName endField Property.EndsAlike
  cases n.property.column? with
  | none => simp [eq_comm]
  | some column => simp

/-- A table that is named after the ends and the type is not one that is named after a label:
its name is longer. -/
lemma endsTable_ne_labelTable (start type finish : String) :
    Text.lower (start ++ "_" ++ type ++ "_" ++ finish ++ ".csv") ≠
      Text.lower start ++ ".csv" := by
  intro same
  have bar : (Text.lower "_").length = 1 := by decide +kernel
  have ending : (Text.lower ".csv").length = 4 := by decide +kernel
  have suffix : (".csv" : String).length = 4 := rfl
  -- Lengths add up where lower-case forms do not: a final sigma depends on what follows.
  have lengths := congrArg String.length same
  simp only [Text.length_lower_append, String.length_append] at lengths
  omega

namespace NumberedRelationship

variable {entry : NumberedRelationship} {nodes : List NumberedNode}

lemma tableName_eq_start_iff (fits : entry.Fits nodes) (bare : entry.properties = []) :
    entry.start.tableName = entry.tableName ↔ entry.start.node.key.table?.isSome = true := by
  obtain ⟨noKey, noOthers⟩ := List.append_eq_nil_iff.1 (fits.map_property ▸ congrArg
    (List.map Numbered.property) bare : entry.relationship.allProperties = [])
  have key : entry.relationship.key = none := by
    simpa using noKey
  have label : entry.start.node.label = entry.relationship.startLabel :=
    (mem_of_endNode fits.start).2
  unfold NumberedNode.tableName NumberedRelationship.tableName
  simp only [key, noOthers]
  cases known : entry.start.node.key.table? with
  | some table => simp
  | none =>
    have other := endsTable_ne_labelTable entry.relationship.startLabel entry.relationship.type
      entry.relationship.endLabel
    simpa [label] using other.symm

end NumberedRelationship

lemma forall_endNode_iff (fits : numbered.FitsValid model) {label : String}
    {entry : NumberedNode} (found : endNode numbered.nodes label = .ok entry)
    (P : Node → Prop) :
    (∀ node ∈ model.nodes, node.label = label → P node) ↔ P entry.node := by
  obtain ⟨inside, labelled⟩ := mem_of_endNode found
  refine ⟨fun all => all _ (fits.node_mem inside) labelled, fun holds node member same => ?_⟩
  exact fits.eq_endNode found member same ▸ holds

/-- A mapping is written again as it was exactly if its relationship is settled. -/
theorem mapping_again_iff (fits : numbered.FitsValid model)
    {entry : NumberedRelationship} (member : entry ∈ numbered.relationships) :
    (entry.again grid kind).mapping = entry.mapping ↔ entry.relationship.Settled model := by
  have fit := fits.eachRelationship entry member
  obtain ⟨start, -⟩ := mem_of_endNode fit.start
  obtain ⟨finish, -⟩ := mem_of_endNode fit.finish
  have validStart := valid_of_node fits start entry.start.key List.mem_cons_self
  have validFinish := valid_of_node fits finish entry.finish.key List.mem_cons_self
  have bare : entry.relationship.allProperties = [] ↔ entry.properties = [] := by
    rw [← fit.map_property, List.map_eq_nil_iff]
  have startKey : entry.start.key.fieldName = (endField entry.start.node.key).name ↔
      entry.start.node.key.EndsAlike :=
    (fits.eachNode _ start).key ▸ endField_name_iff entry.start.key
  have finishKey : entry.finish.key.fieldName = (endField entry.finish.node.key).name ↔
      entry.finish.node.key.EndsAlike :=
    (fits.eachNode _ finish).key ▸ endField_name_iff entry.finish.key
  have table : (if entry.properties = [] then entry.start.tableName else entry.tableName) =
      entry.tableName ↔
        (entry.properties = [] → entry.start.node.key.table?.isSome = true) := by
    by_cases none : entry.properties = []
    · simp only [none, forall_const]
      exact NumberedRelationship.tableName_eq_start_iff fit none
    · simp [none]
  have settled : entry.relationship.Settled model ↔
      (entry.properties = [] → entry.start.node.key.table?.isSome = true) ∧
        entry.start.node.key.EndsAlike ∧ entry.finish.node.key.EndsAlike := by
    rw [← forall_endNode_iff fits fit.start (·.key.table?.isSome = true),
      ← forall_endNode_iff fits fit.start (·.key.EndsAlike),
      ← forall_endNode_iff fits fit.finish (·.key.EndsAlike), ← bare]
    exact ⟨fun h => ⟨h.table, h.start, h.finish⟩, fun h => ⟨h.1, h.2.1, h.2.2⟩⟩
  rw [settled, NumberedRelationship.mapping_again (valid_of_relationship fits member)
    validStart validFinish, ← table, ← startKey, ← finishKey]
  simp only [NumberedRelationship.mapping, RelationshipMapping.mk.injEq, Mapping.mk.injEq,
    Option.some.injEq, true_and, and_true]

end Mappings

section Sources

variable {default default' : SourceKind} {tables tables' : List Table} {schema : SourceSchema}

/-- A description that names tables, among them all that are mapped. -/
structure SourceSchema.Covers (schema : SourceSchema) (tables : List Table) : Prop where
  named : schema.tableNames ≠ []
  mapped : ∀ t ∈ tables, t.name ∈ schema.tableNames

lemma SourceSchema.covers_iff : schema.Covers tables ↔ (!schema.tableNames.isEmpty &&
    tables.all fun t => schema.tableNames.contains t.name) = true := by
  simp only [Bool.and_eq_true, Bool.not_eq_true', List.isEmpty_eq_false_iff, List.all_eq_true,
    List.contains_iff_mem]
  exact ⟨fun h => ⟨h.named, h.mapped⟩, fun h => ⟨h.1, h.2⟩⟩

lemma chooseSource_of_covers (h : schema.Covers tables) :
    chooseSource default tables (some schema) = schema := by
  rw [chooseSource, Option.filter_some, if_pos (SourceSchema.covers_iff.1 h)]

lemma chooseSource_cases (default : SourceKind) (tables : List Table)
    (stored : Option SourceSchema) :
    (chooseSource default tables stored ∈ stored ∧
        (chooseSource default tables stored).Covers tables) ∨
      chooseSource default tables stored = .infer default tables := by
  unfold chooseSource
  split
  · rename_i schema kept
    obtain ⟨given, covers⟩ := Option.filter_eq_some_iff.1 kept
    exact .inl ⟨given, SourceSchema.covers_iff.2 covers⟩
  · exact .inr rfl

lemma mem_tableNames_infer {name : String} :
    name ∈ (SourceSchema.infer default tables).tableNames ↔ ∃ t ∈ tables, t.name = name := by
  have names : (SourceSchema.infer default tables).tableNames =
      (Table.infer tables).map Table.name := by
    simp [SourceSchema.tableNames, SourceSchema.infer, SourceSchema.toJson, Table.toJson,
      Function.comp_def]
  simp [names, Table.map_name_infer, Text.sortByUnits, mem_sortBy, List.mem_eraseDups]

/-- A description that has been written is kept when the same tables are mapped. -/
theorem chooseSource_again (same : tables'.map Table.name = tables.map Table.name)
    {stored : Option SourceSchema} (accepted : ∀ s ∈ stored, s.Passes)
    (kinds : tables = [] → default' = default) :
    chooseSource default' tables' (some (chooseSource default tables stored).normal) =
      (chooseSource default tables stored).normal := by
  have again {s : SourceSchema} (covers : s.Covers tables) : s.Covers tables' := by
    refine ⟨covers.named, fun t member => ?_⟩
    obtain ⟨t', member', named⟩ := List.mem_map.1 (same ▸ List.mem_map_of_mem member)
    exact named ▸ covers.mapped t' member'
  rcases chooseSource_cases default tables stored with ⟨given, covers⟩ | inferred
  · have names := SourceSchema.tableNames_normal (accepted _ given)
    exact chooseSource_of_covers (again ⟨names ▸ covers.named, names ▸ covers.mapped⟩)
  · rw [inferred, SourceSchema.normal_infer]
    cases tables with
    | nil =>
      obtain rfl : tables' = [] := by simpa using same
      rw [kinds rfl]
      rfl
    | cons first rest =>
      have mapped : ∀ t ∈ first :: rest,
          t.name ∈ (SourceSchema.infer default (first :: rest)).tableNames :=
        fun t member => mem_tableNames_infer.2 ⟨t, member, rfl⟩
      exact chooseSource_of_covers
        (again ⟨List.ne_nil_of_mem (mapped first List.mem_cons_self), mapped⟩)

end Sources

section Rewriting

variable {model : Model} {numbered : NumberedModel} {settings : Settings}

lemma relationshipMappings_again_iff (fits : numbered.FitsValid model)
    (grid : Grid) (kind : SourceKind) :
    numbered.relationships.map NumberedRelationship.mapping =
        (numbered.again grid kind).relationships.map NumberedRelationship.mapping ↔
      ∀ relationship ∈ model.relationships, relationship.Settled model := by
  rw [← fits.relationships, List.forall_mem_map, NumberedModel.again, List.map_map,
    List.map_inj_left]
  exact forall₂_congr fun entry member => eq_comm.trans (mapping_again_iff fits member)

lemma tableNames_again {grid : Grid} {kind : SourceKind}
    (same : numbered.relationships.map NumberedRelationship.mapping =
      (numbered.again grid kind).relationships.map NumberedRelationship.mapping) :
    (numbered.again grid kind).tables.map Table.name = numbered.tables.map Table.name := by
  have nodes : ((numbered.again grid kind).nodes.map NumberedNode.table).map Table.name =
      (numbered.nodes.map NumberedNode.table).map Table.name := by
    simp only [NumberedModel.again, List.map_map]
    exact List.map_congr_left fun entry _ => NumberedNode.tableName_again
  have relationships :
      ((numbered.again grid kind).relationships.map NumberedRelationship.table).map Table.name =
        (numbered.relationships.map NumberedRelationship.table).map Table.name := by
    have names := congrArg (List.map (·.toMapping.tableName)) same.symm
    rwa [List.map_map, List.map_map] at names ⊢
  rw [NumberedModel.tables, NumberedModel.tables, List.map_append, List.map_append, nodes,
    relationships]

lemma declaredSourceKind?_of_no_tables (fits : numbered.Fits model)
    (empty : numbered.tables = []) : declaredSourceKind? model = none := by
  simp only [NumberedModel.tables, List.append_eq_nil_iff, List.map_eq_nil_iff] at empty
  rw [declaredSourceKind?, propertiesOf, ← fits.nodes, ← fits.relationships, empty.1, empty.2]
  rfl

/-- A graph of which a check leaves nothing out is equal to the one that is written once it has
been reread, exactly if all relationships are settled. -/
theorem same_rewrite_iff (fits : numbered.FitsValid model)
    (accepted : ∀ stored ∈ model.metadata.referenceGraph, stored.Accepted)
    (settings : Settings) (kind : SourceKind) :
    let graph := (build settings model numbered).1
    let back := numbered.reread settings.grid kind ⟨none, some graph.normal.stored⟩
    Json.Same graph.toJson graph.normal.toJson →
      (Json.Same graph.toJson (build settings back (numbered.again settings.grid kind)).1.toJson ↔
        ∀ relationship ∈ model.relationships, relationship.Settled model) := by
  intro graph back kept
  have rewritten := build_reread fits accepted settings kind
  rw [← relationshipMappings_again_iff fits settings.grid kind]
  constructor
  · intro same
    exact (relationshipMappings_eq same).trans (congrArg relationshipMappings rewritten)
  · intro same
    have kinds (empty : numbered.tables = []) :
        (declaredSourceKind? back).getD settings.sourceKind =
          (declaredSourceKind? model).getD settings.sourceKind := by
      have none : (numbered.again settings.grid kind).tables = [] := by
        rw [← List.map_eq_nil_iff, tableNames_again same, empty, List.map_nil]
      rw [declaredSourceKind?_of_no_tables fits.toFits empty,
        declaredSourceKind?_of_no_tables (NumberedModel.again_fits fits.toFits _) none]
    have source := chooseSource_again (tableNames_again same)
      (Stored.accepted_getD accepted).sourceSchema kinds
    have unchanged : (build settings back (numbered.again settings.grid kind)).1 =
        graph.normal := by
      refine rewritten.trans ((ReferenceGraph.mk.injEq ..).mpr ?_)
      exact ⟨rfl, rfl, rfl, rfl, rfl, rfl, congrArg some source, rfl, same.symm, rfl⟩
    rwa [unchanged]

lemma exists_write_read_write (valid : model.Valid) (positions : model.PositionsFinite)
    (accepted : ∀ stored ∈ model.metadata.referenceGraph, stored.Accepted)
    {asked : Option Json} (resolved : Settings.resolve asked = .ok settings)
    (finite : settings.grid.spacing.isFinite = true) (strict : Bool) :
    ∃ numbered : NumberedModel, numbered.FitsValid model ∧
      let graph := (build settings model numbered).1
      let kind := graph.normal.sourceKind
      let back := numbered.reread settings.grid kind ⟨none, some graph.normal.stored⟩
      (write model asked).answer = .ok graph ∧
        (read (some graph.toJson) strict).answer = .ok back ∧
        (write back asked).answer =
          .ok (build settings back (numbered.again settings.grid kind)).1 := by
  obtain ⟨numbered, fits, written⟩ := exists_answer_write valid resolved
  have regular := Settings.regular_of_resolve resolved
  refine ⟨numbered, fits, written, read_build fits positions accepted regular finite strict,
    ?_⟩
  rw [answer_write, resolved]
  change (ofModel settings _).map Prod.fst = _
  simp only [ofModel, NumberedModel.ofModel_reread fits.toFits]
  rfl

lemma assign_configurations {stored : Option (List (String × Json))}
    (assigned : stored.map Members.assign = stored) :
    Members.assign (stored.getD [("idsToIgnore", .array [])]) =
      stored.getD [("idsToIgnore", .array [])] := by
  cases stored with
  | none => decide +kernel
  | some members => exact Option.some.inj assigned

lemma normal_build (fresh : model.metadata.referenceGraph = none) (settings : Settings) :
    (build settings model numbered).1.normal = (build settings model numbered).1 := by
  have rules (kind : RuleKind) : (numbered.rules kind).map (Rule.normal kind) =
      numbered.rules kind := by
    conv_rhs => rw [← List.map_id (numbered.rules kind)]
    refine List.map_congr_left fun rule member => ?_
    obtain ⟨number, name, owner, keyId, rfl, named⟩ := exists_forKey_of_mem member
    exact Rule.normal_forKey number name owner keyId named
  have schema : (build settings model numbered).1.schema.normal =
      (build settings model numbered).1.schema := by
    simp [Schema.normal, build, fresh, Stored.empty, chooseRules, rules]
  have configurations := assign_configurations (Option.map_none Members.assign)
  rw [Option.getD_none] at configurations
  rw [normal, schema]
  simp [build, fresh, Stored.empty, chooseSource, SourceSchema.normal_infer, configurations]

lemma keeps_of_write (valid : model.Valid) (positions : model.PositionsFinite)
    (fresh : model.metadata.referenceGraph = none) {asked : Option Json}
    (resolved : Settings.resolve asked = .ok settings)
    (finite : settings.grid.spacing.isFinite = true) {graph : ReferenceGraph}
    (written : (write model asked).answer = .ok graph) : shape.Keeps (some graph.toJson) := by
  obtain ⟨numbered, fits, made⟩ := exists_answer_write valid resolved
  obtain rfl := Except.ok.inj (made.symm.trans written)
  have regular := Settings.regular_of_resolve resolved
  have passes := build_passes fits positions (by simp [fresh]) regular finite
  rw [← normal_build fresh settings]
  exact passes.yields.keeps (by decide +kernel)

/-- A model that is written, read and written again has the same graph, of which the check of
documents must leave nothing out, exactly if its relationships are settled. -/
theorem same_write_read_write_iff (reachable : model.Reachable)
    (positions : model.PositionsFinite)
    (accepted : ∀ stored ∈ model.metadata.referenceGraph, stored.Accepted)
    {asked : Option Json} (resolved : Settings.resolve asked = .ok settings)
    (finite : settings.grid.spacing.isFinite = true) (strict : Bool) :
    ∃ graph back again, (write model asked).answer = .ok graph ∧
      (read (some graph.toJson) strict).answer = .ok back ∧
      (write back asked).answer = .ok again ∧
      (shape.Keeps (some graph.toJson) → (Json.Same graph.toJson again.toJson ↔
        ∀ relationship ∈ model.relationships, relationship.Settled model)) := by
  have valid := reachable.valid
  obtain ⟨numbered, fits, written, read, again⟩ :=
    exists_write_read_write valid positions accepted resolved finite strict
  have regular := Settings.regular_of_resolve resolved
  have passes := build_passes fits positions accepted regular finite
  exact ⟨_, _, _, written, read, again, fun kept =>
    same_rewrite_iff fits accepted _ _ (passes.yields.same (by decide +kernel) kept)⟩

/-- A key that is not lower-case comes back with a column, so its ends change. -/
theorem same_write_read_write_library : Model.library.Reachable ∧
    ∃ graph back again, (write .library none).answer = .ok graph ∧
      (read (some graph.toJson) false).answer = .ok back ∧
      (write back none).answer = .ok again ∧ ¬ Json.Same graph.toJson again.toJson := by
  have positions : Model.library.PositionsFinite :=
    Model.positionsFinite_of_empty (by simp [Model.library, Node.author, Node.book])
  have resolved : Settings.resolve none = .ok Settings.standard := by decide +kernel
  have reachable : Model.library.Reachable := .initial Model.library_initial
  have changed : ¬ (Property.ofName "Id").EndsAlike := by decide +kernel
  obtain ⟨numbered, fits, written, read, again⟩ := exists_write_read_write reachable.valid
    positions (by rintro stored ⟨⟩) resolved (by decide +kernel) false
  refine ⟨reachable, _, _, _, written, read, again, fun same => changed ?_⟩
  have kept : Json.Same (build .standard .library numbered).1.toJson
      (build .standard .library numbered).1.normal.toJson := by
    rw [normal_build rfl]
    exact .refl _
  have settled :=
    (same_rewrite_iff fits (by rintro stored ⟨⟩) _ _ kept).1 same
  exact (settled .wrote List.mem_cons_self).start .author List.mem_cons_self rfl

theorem same_write_read_write_citations :
    ∃ graph back again, (write .citations none).answer = .ok graph ∧
      (read (some graph.toJson) true).answer = .ok back ∧
      (write back none).answer = .ok again ∧ Json.Same graph.toJson again.toJson := by
  have positions : Model.citations.PositionsFinite :=
    Model.positionsFinite_of_empty (by simp [Model.citations, Node.book])
  have resolved : Settings.resolve none = .ok Settings.standard := by decide +kernel
  have reachable : Model.citations.Reachable := .initial Model.citations_initial
  obtain ⟨graph, back, again, written, read, rewritten, same⟩ := same_write_read_write_iff
    reachable positions (by rintro stored ⟨⟩) resolved (by decide +kernel) true
  have kept := keeps_of_write reachable.valid positions rfl resolved (by decide +kernel) written
  have alike : (Property.ofName "isbn").EndsAlike := by decide +kernel
  have settled : Relationship.cites.Settled .citations := by
    refine ⟨by rintro ⟨⟩, ?_, ?_⟩ <;> rintro node member - <;>
      obtain rfl := List.mem_singleton.1 member <;> exact alike
  refine ⟨graph, back, again, written, read, rewritten, (same kept).2 ?_⟩
  rintro relationship member
  exact List.mem_singleton.1 member ▸ settled

end Rewriting

end ReferenceGraph
end PropertyGraph

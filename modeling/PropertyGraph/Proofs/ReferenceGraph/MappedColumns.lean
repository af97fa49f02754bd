import PropertyGraph.Proofs.ReferenceGraph.FixedPoint
import PropertyGraph.Proofs.ReferenceGraph.RuleTargets

/-! Which columns a written graph describes. A description of the source that is made anew has
every mapped column in its table. A stored one is kept as it was read as long as it names the
mapped tables, whatever columns it lists. -/
namespace PropertyGraph.ReferenceGraph

structure Columns where
  table : String
  names : List String
  deriving DecidableEq, Repr

def Mapping.columnNames (mapping : Mapping) : List String :=
  mapping.fields.map FieldMapping.fieldName

def NodeMapping.columns (mapping : NodeMapping) : Columns :=
  ⟨mapping.tableName, mapping.columnNames⟩

def RelationshipMapping.columns (mapping : RelationshipMapping) : Columns :=
  ⟨mapping.tableName,
    mapping.startField.toList ++ mapping.finishField.toList ++ mapping.columnNames⟩

def Table.columns (table : Table) : Columns := ⟨table.name, table.fields.map Field.name⟩

def columns (graph : ReferenceGraph) : List Columns :=
  graph.nodeMappings.map NodeMapping.columns ++
    graph.relationshipMappings.map RelationshipMapping.columns

/-- A description with a table of the name that has a field for every column. -/
def SourceSchema.Lists (schema : SourceSchema) (columns : Columns) : Prop :=
  ∃ table ∈ schema.toJson.list "tableSchemas", table.text "name" = columns.table ∧
    ∀ column ∈ columns.names, column ∈ (table.list "fields").map (Json.text "name")

instance (schema : SourceSchema) (columns : Columns) : Decidable (schema.Lists columns) :=
  inferInstanceAs (Decidable (∃ table ∈ _, _ ∧ ∀ column ∈ columns.names, column ∈ _))

/-- A description that names tables, among them all that a graph maps. -/
structure SourceSchema.Names (schema : SourceSchema) (graph : ReferenceGraph) : Prop where
  named : schema.tableNames ≠ []
  mapped : ∀ columns ∈ graph.columns, columns.table ∈ schema.tableNames

section Inference

variable {tables : List Table}

lemma SourceSchema.list_infer (kind : SourceKind) (tables : List Table) :
    (SourceSchema.infer kind tables).toJson.list "tableSchemas" =
      (Table.infer tables).map Table.toJson := by
  simp [infer, toJson]

lemma Table.text_toJson (table : Table) : table.toJson.text "name" = table.name := by
  simp [toJson]

lemma Table.list_toJson (table : Table) :
    (table.toJson.list "fields").map (Json.text "name") = table.fields.map Field.name := by
  simp [toJson, Field.toJson, Function.comp_def]

lemma SourceSchema.lists_infer (kind : SourceKind) {table : Table} (member : table ∈ tables) :
    (SourceSchema.infer kind tables).Lists table.columns := by
  let merged : Table := ⟨table.name, (fieldsOf tables table.name).eraseDupsBy (·.name == ·.name)⟩
  have inferred : merged ∈ Table.infer tables := by
    rw [Table.infer_eq]
    refine List.mem_map.2 ⟨table.name, ?_, rfl⟩
    rw [Text.sortByUnits, mem_sortBy, List.mem_eraseDups]
    exact List.mem_map_of_mem member
  refine ⟨merged.toJson, ?_, merged.text_toJson, fun column listed => ?_⟩
  · rw [list_infer]
    exact List.mem_map_of_mem inferred
  · obtain ⟨field, inside, rfl⟩ := List.mem_map.1 listed
    rw [Table.list_toJson, map_eraseDupsBy, List.mem_eraseDups]
    refine List.mem_map_of_mem (List.mem_flatMap.2 ⟨table, ?_, inside⟩)
    simpa using member

end Inference

section Written

variable {model : Model} {numbered : NumberedModel} {settings : Settings}

lemma columns_build (settings : Settings) (model : Model) (numbered : NumberedModel) :
    (build settings model numbered).1.columns = numbered.tables.map Table.columns := by
  have node (entry : NumberedNode) : entry.mapping.columns = entry.table.columns := by
    simp [NumberedNode.mapping, NodeMapping.columns, Mapping.columnNames, NumberedNode.table,
      Table.columns, Numbered.mapping, Numbered.field]
  have relationship (entry : NumberedRelationship) :
      entry.mapping.columns = entry.table.columns := by
    simp [NumberedRelationship.mapping, RelationshipMapping.columns, Mapping.columnNames,
      NumberedRelationship.table, Table.columns, Numbered.mapping, Numbered.field]
  simp only [build, columns, NumberedModel.tables, List.map_append, List.map_map]
  exact congrArg₂ _ (List.map_congr_left fun entry _ => node entry)
    (List.map_congr_left fun entry _ => relationship entry)

lemma SourceSchema.names_build_iff {schema : SourceSchema} :
    schema.Names (build settings model numbered).1 ↔ schema.Covers numbered.tables := by
  constructor
  · intro names
    refine ⟨names.named, fun table member => names.mapped table.columns ?_⟩
    rw [columns_build]
    exact List.mem_map_of_mem member
  · intro covers
    refine ⟨covers.named, fun used member => ?_⟩
    rw [columns_build] at member
    obtain ⟨table, inside, rfl⟩ := List.mem_map.1 member
    exact covers.mapped table inside

lemma SourceSchema.mem_tableNames_of_lists {schema : SourceSchema} {columns : Columns}
    (lists : schema.Lists columns) : columns.table ∈ schema.tableNames := by
  obtain ⟨table, member, named, -⟩ := lists
  exact named ▸ List.mem_map_of_mem member

/-- Every table that a written graph maps is described. Its description has all columns that
are used of it, except for those that a stored one lacks which names all the mapped tables. -/
theorem columns_of_write (reachable : model.Reachable) {asked : Option Json}
    (resolved : Settings.resolve asked = .ok settings) :
    ∃ graph schema, (write model asked).answer = .ok graph ∧ graph.sourceSchema = some schema ∧
      ∀ used ∈ graph.columns, used.table ∈ schema.tableNames ∧
        (schema.Lists used ↔ ∀ stored ∈ model.metadata.referenceGraph.bind (·.sourceSchema),
          stored.Names graph → stored.Lists used) := by
  obtain ⟨numbered, made⟩ := NumberedModel.exists_ofModel reachable.valid
  refine ⟨_, _, answer_write_of_ofModel made resolved, rfl, fun used member => ?_⟩
  have stored : (model.metadata.referenceGraph.getD .empty).sourceSchema =
      model.metadata.referenceGraph.bind (·.sourceSchema) := by
    cases model.metadata.referenceGraph <;> rfl
  rw [columns_build] at member
  obtain ⟨table, mapped, rfl⟩ := List.mem_map.1 member
  rw [stored]
  set given := model.metadata.referenceGraph.bind (·.sourceSchema)
  set kind := (declaredSourceKind? model).getD settings.sourceKind
  rcases chooseSource_cases kind numbered.tables given with ⟨kept, covers⟩ | inferred
  · refine ⟨covers.mapped table mapped, fun lists other listed _ => ?_,
      fun all => all _ kept (SourceSchema.names_build_iff.2 covers)⟩
    obtain rfl : other = _ := Option.mem_unique listed kept
    exact lists
  · have lists := SourceSchema.lists_infer kind mapped
    rw [inferred]
    refine ⟨SourceSchema.mem_tableNames_of_lists lists, fun _ other listed names => ?_,
      fun _ => lists⟩
    have covers := SourceSchema.names_build_iff.1 names
    obtain rfl : other = .infer kind numbered.tables := by
      rw [← inferred, Option.mem_def.1 listed, chooseSource_of_covers covers]
    exact lists

/-- A graph of books that maps their titles and describes a table without them. -/
def catalogued : ReferenceGraph :=
  { titles with sourceSchema := some (.infer .onSite [⟨"books.csv", [⟨"isbn", "string"⟩]⟩]) }

/-- With a table that the stored description does not name, it is made anew. -/
theorem columns_of_write_catalogued :
    ∃ (model edited : Model) (graph : ReferenceGraph) (schema : SourceSchema),
      (read (some catalogued.toJson) false).answer = .ok model ∧
        Edit.apply model (.addNode .author) = .ok edited ∧
        (write edited none).answer = .ok graph ∧ graph.sourceSchema = some schema ∧
        graph.columns = [⟨"books.csv", ["isbn", "title"]⟩, ⟨"author.csv", ["Id"]⟩] ∧
        ∀ used ∈ graph.columns, used.table ∈ schema.tableNames ∧ schema.Lists used := by
  have computed : ((read (some catalogued.toJson) false).answer >>= fun model =>
      Edit.apply model (.addNode .author) >>= fun edited =>
        (write edited none).answer.map fun graph =>
          ((edited.metadata.referenceGraph.bind (·.sourceSchema)).map SourceSchema.tableNames,
            graph.columns)) =
      .ok (some ["books.csv"],
        [⟨"books.csv", ["isbn", "title"]⟩, ⟨"author.csv", ["Id"]⟩]) := by
    decide +kernel
  obtain ⟨model, read, rest⟩ := Except.bind_eq_ok_iff.1 computed
  obtain ⟨edited, added, rest⟩ := Except.bind_eq_ok_iff.1 rest
  obtain ⟨graph, wrote, parts⟩ := Except.map_eq_ok_iff.1 rest
  obtain ⟨stored, used⟩ := Prod.mk.inj parts
  have legal : (Edit.addNode .author).Legal := Node.author_reachable
  have reachable : edited.Reachable := .edit (.initial (.referenceGraph read)) legal added
  have resolved : Settings.resolve none = .ok Settings.standard := by decide +kernel
  obtain ⟨_, schema, written, given, each⟩ := columns_of_write reachable resolved
  obtain rfl := Except.ok.inj (wrote.symm.trans written)
  refine ⟨model, edited, graph, schema, read, added, wrote, given, used, fun columns member => ?_⟩
  obtain ⟨described, lists⟩ := each columns member
  refine ⟨described, lists.2 fun old known names => ?_⟩
  have tables : old.tableNames = ["books.csv"] := by
    rw [Option.mem_def.1 known] at stored
    exact Option.some.inj stored
  have missing := names.mapped ⟨"author.csv", ["Id"]⟩ (by simp [used])
  simp [tables] at missing

/-- A description of a mapped table that lacks a column is given back as it was read. -/
theorem not_lists_of_write_catalogued :
    ∃ (model : Model) (graph : ReferenceGraph) (schema : SourceSchema),
      (read (some catalogued.toJson) false).answer = .ok model ∧ model.Reachable ∧
        (write model none).answer = .ok graph ∧ graph.sourceSchema = some schema ∧
        ∃ used ∈ graph.columns, ¬ schema.Lists used := by
  have computed : (normalize none false (some catalogued.toJson)).answer.map (fun graph =>
      graph.sourceSchema.map fun schema => (graph.columns, graph.columns.map
        fun used => decide (schema.Lists used))) =
          .ok (some ([⟨"books.csv", ["isbn", "title"]⟩], [false])) := by
    decide +kernel
  obtain ⟨graph, both, parts⟩ := Except.map_eq_ok_iff.1 computed
  obtain ⟨model, read, written⟩ := normalize_eq_ok_iff.1 both
  obtain ⟨schema, given, parts⟩ := Option.map_eq_some_iff.1 parts
  obtain ⟨used, lists⟩ := Prod.mk.inj parts
  refine ⟨model, graph, schema, read, .initial (.referenceGraph read), written, given,
    ⟨"books.csv", ["isbn", "title"]⟩, by simp [used], ?_⟩
  simpa [used] using lists

end Written
end PropertyGraph.ReferenceGraph

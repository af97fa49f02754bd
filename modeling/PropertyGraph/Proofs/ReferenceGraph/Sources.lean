import PropertyGraph.Proofs.Reachable
import PropertyGraph.Proofs.ReferenceGraph.Export
import PropertyGraph.Proofs.ReferenceGraph.Imported

/-! Tables and fields of relationships in a graph that is read and written. The table comes
from the mapping of a property, so it is lost when there is none; the fields of the ends come
from the keys of the nodes, whatever the graph says. -/
namespace PropertyGraph.ReferenceGraph

/-- The field of an end whose key has a definition and is mapped to a field. -/
def PropertyDef.endField (key : PropertyDef) (field : String) : String :=
  if field = "" then Text.lower key.token else field

lemma ReadFrom.endField_name {key : PropertyDef} {table field : String} {property : Property}
    (read : ReadFrom key.token table field property) :
    (ReferenceGraph.endField property).name = key.endField field := by
  unfold ReferenceGraph.endField PropertyDef.endField
  by_cases empty : field = "" <;> simp [read.column, read.name, empty]

/-- The table of a kind of relationships whose start has its key in another table. -/
def RelationshipKind.tableName (kind : RelationshipKind) (own startTable : String) : String :=
  if kind.type.properties ≠ [] then own
  else if startTable ≠ "" then startTable
  else Text.lower (kind.start.label.token ++ "_" ++ kind.type.token ++ "_" ++
    kind.finish.label.token ++ ".csv")

section Written

variable {model : Model} {numbered : NumberedModel} {bindings : Bindings}

lemma NumberedRelationship.tableName_of_read {entry : NumberedRelationship}
    {kind : RelationshipKind} (made : kind.toRelationship bindings = .ok entry.relationship)
    {mapping : Mapping} (mapped : bindings.relationshipMapping? kind.id = some mapping)
    (named : mapping.tableName ≠ "") {key : PropertyDef} {table field : String}
    (start : ReadFrom key.token table field entry.start.node.key) :
    entry.tableName = kind.tableName mapping.tableName table := by
  obtain ⟨type, startLabel, endLabel, noKey, properties⟩ :=
    RelationshipKind.of_toRelationship made
  rw [mapped] at properties
  unfold NumberedRelationship.tableName RelationshipKind.tableName
  simp only [noKey, type, startLabel, endLabel]
  cases known : kind.type.properties with
  | nil =>
    rw [known, List.forall₂_nil_left_iff] at properties
    by_cases empty : table = "" <;> simp [properties, start.table, empty]
  | cons definition definitions =>
    rw [known, List.forall₂_cons_left_iff] at properties
    obtain ⟨first, rest, head, -, listed⟩ := properties
    obtain ⟨m, field, same, -, read⟩ := head.readFrom
    cases same
    simp [listed, read.table, named]

/-- The node at an end has its key where the document has the key of the end's label. -/
lemma endNode_readFrom (fits : numbered.FitsValid model) {strict : Bool}
    {labels : List EntityDef}
    (nodes : List.Forall₂ (fun label node =>
      (EntityDef.toNode bindings strict label).answer = .ok node) labels model.nodes)
    {label : EntityDef} (member : label ∈ labels) {entry : NumberedNode}
    (found : endNode numbered.nodes label.token = .ok entry) :
    ∃ key table field, label.KeyAt bindings key table field ∧
      ReadFrom key.token table field entry.node.key := by
  obtain ⟨i, here⟩ := List.mem_iff_getElem?.1 member
  obtain ⟨node, there, made⟩ := forall₂_getElem? nodes here
  obtain ⟨same, key, table, field, keyAt, read⟩ := EntityDef.key_of_toNode made
  have one := fits.eq_endNode found (List.mem_of_getElem? there) same
  exact ⟨key, table, field, keyAt, one ▸ read⟩

/-- A model that was read can be written. A relationship with one mapping keeps its table if
its type has properties, and else has the table of its start; its ends have the fields of
the keys. -/
theorem relationshipMapping_of_read_write {document : Option Json} {strict : Bool}
    (read : (read document strict).answer = .ok model) {asked : Option Json}
    {settings : Settings} (resolved : Settings.resolve asked = .ok settings) :
    ∃ json bindings written, Document.check shape document "reference-graph document" = .ok json ∧
      Bindings.ofGraph (ofJson json) = .ok bindings ∧ (write model asked).answer = .ok written ∧
      ∀ (j : Nat) object mapping, (ofJson json).schema.relationshipObjects[j]? = some object →
        (ofJson json).relationshipMappings.filter (·.object.id = object.id) = [mapping] →
        mapping.tableName ≠ "" →
        ∃ kind startKey startTable startField finishKey finishTable finishField again,
          bindings.resolved.relationshipKinds[j]? = some kind ∧ kind.Of (ofJson json).schema object ∧
          kind.start.label.KeyAt bindings startKey startTable startField ∧
          kind.finish.label.KeyAt bindings finishKey finishTable finishField ∧
          written.relationshipMappings[j]? = some again ∧
          again.tableName = kind.tableName mapping.tableName startTable ∧
          again.startField = some (startKey.endField startField) ∧
          again.finishField = some (finishKey.endField finishField) := by
  have valid := valid_of_read read
  obtain ⟨json, bindings, checked, bound, made, nodes, relationships⟩ := exists_of_read read
  obtain ⟨numbered, fits, written⟩ := exists_answer_write valid resolved
  refine ⟨json, bindings, _, checked, bound, written, fun j object mapping here only named => ?_⟩
  obtain ⟨kind, there, ofObject⟩ :=
    forall₂_getElem? (Resolved.relationshipKinds_of made.resolved) here
  obtain ⟨relationship, listed, read⟩ := forall₂_getElem? relationships there
  rw [← fits.relationships, List.getElem?_map] at listed
  obtain ⟨entry, inside, rfl⟩ := Option.map_eq_some_iff.1 listed
  have fit := fits.eachRelationship entry (List.mem_of_getElem? inside)
  obtain ⟨-, startLabel, endLabel, -, -⟩ := RelationshipKind.of_toRelationship read
  obtain ⟨startKey, startTable, startField, startAt, start⟩ :=
    endNode_readFrom fits nodes ofObject.start.1 (startLabel ▸ fit.start)
  obtain ⟨finishKey, finishTable, finishField, finishAt, finish⟩ :=
    endNode_readFrom fits nodes ofObject.finish.1 (endLabel ▸ fit.finish)
  have mapped := made.relationshipMapping?_eq (ofObject.id ▸ only)
  refine ⟨kind, startKey, startTable, startField, finishKey, finishTable, finishField,
    entry.mapping, there, ofObject, startAt, finishAt, ?_, ?_, ?_, ?_⟩
  · change (numbered.relationships.map NumberedRelationship.mapping)[j]? = some entry.mapping
    rw [List.getElem?_map, inside]
    rfl
  · exact NumberedRelationship.tableName_of_read read mapped named start
  · exact congrArg some start.endField_name
  · exact congrArg some finish.endField_name

/-- A small graph whose relationships have tables and fields of their own. -/
def editions : ReferenceGraph where
  version := none
  placements := none
  modelVersion := none
  schemaVersion := none
  schema := {
    nodeLabels := [⟨"nl:0", "Book", [⟨"p:0", "isbn", "string", none⟩]⟩]
    relationshipTypes :=
      [⟨"rt:1", "CITES", [⟨"p:1", "page", "integer", none⟩]⟩, ⟨"rt:2", "REPRINTS", []⟩]
    nodeObjects := [⟨"n:0", [.toId "nl:0"]⟩]
    relationshipObjects :=
      [⟨"r:1", .toId "rt:1", .toId "n:0", .toId "n:0"⟩,
        ⟨"r:2", .toId "rt:2", .toId "n:0", .toId "n:0"⟩]
    constraints := none
    indexes := none }
  nodeKeys := [⟨.toId "n:0", .toId "p:0"⟩]
  sourceSchema := none
  nodeMappings := [⟨⟨.toId "n:0", "books.csv", [⟨.toId "p:0", "isbn"⟩]⟩⟩]
  relationshipMappings :=
    [⟨⟨.toId "r:1", "cites.csv", [⟨.toId "p:1", "page"⟩]⟩, some "citing", some "cited"⟩,
      ⟨⟨.toId "r:2", "reprints.csv", []⟩, some "reprint", some "original"⟩]
  configurations := none

lemma exists_read_editions : ∃ model, (read (some editions.toJson) false).answer = .ok model := by
  have answers : (read (some editions.toJson) false).answer.isOk = true := by decide +kernel
  exact Except.exists_of_isOk answers

theorem relationshipMapping_of_read_write_editions : ∃ model written again,
    (read (some editions.toJson) false).answer = .ok model ∧
      (write model none).answer = .ok written ∧
      written.relationshipMappings[0]? = some again ∧ again.tableName = "cites.csv" := by
  obtain ⟨model, read⟩ := exists_read_editions
  have resolved : Settings.resolve none = .ok Settings.standard := by decide +kernel
  obtain ⟨json, bindings, written, checked, -, wrote, each⟩ :=
    relationshipMapping_of_read_write read resolved
  have same : Document.check shape (some editions.toJson) "reference-graph document" =
      .ok editions.toJson := by decide +kernel
  rw [same, Except.ok.injEq] at checked
  rw [← checked, ofJson_toJson] at each
  obtain ⟨kind, _, _, _, _, _, _, again, -, ofObject, -, -, listed, table, -, -⟩ :=
    each 0 _ _ rfl rfl (by decide)
  obtain ⟨type, id⟩ := ofObject.type
  have cites : kind.type.properties ≠ [] := by
    rcases List.mem_cons.1 type with first | second
    · simp [first]
    · rw [List.mem_singleton.1 second, Ref.id_toId] at id
      exact absurd id (by decide)
  exact ⟨model, written, again, read, wrote, listed, table.trans (if_pos cites)⟩

/-- Neither the fields of ends nor the table of a relationship without properties come back. -/
theorem read_write_editions : ∃ model written,
    (read (some editions.toJson) false).answer = .ok model ∧
      (write model none).answer = .ok written ∧
      (editions.schema.relationshipObjects.map RelationshipObject.id).Nodup ∧
      editions.relationshipMappings.map (fun m => (m.tableName, m.startField, m.finishField)) =
        [("cites.csv", some "citing", some "cited"),
          ("reprints.csv", some "reprint", some "original")] ∧
      written.relationshipMappings.map (fun m => (m.tableName, m.startField, m.finishField)) =
        [("cites.csv", some "isbn", some "isbn"), ("books.csv", some "isbn", some "isbn")] := by
  have computed : ((read (some editions.toJson) false).answer >>= fun model =>
      (write model none).answer).map (fun written =>
        written.relationshipMappings.map fun m => (m.tableName, m.startField, m.finishField)) =
      .ok [("cites.csv", some "isbn", some "isbn"), ("books.csv", some "isbn", some "isbn")] := by
    decide +kernel
  obtain ⟨written, both, mappings⟩ := Except.map_eq_ok_iff.1 computed
  obtain ⟨model, read, wrote⟩ := Except.bind_eq_ok_iff.1 both
  exact ⟨model, written, read, wrote, by decide, rfl, mappings⟩

end Written

end PropertyGraph.ReferenceGraph

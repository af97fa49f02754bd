import PropertyGraph.Proofs.ReferenceGraph.MappedColumns
import PropertyGraph.Proofs.UnitOrder

/-! Tables that are inferred from the fields that mappings use. Each name has one table, the
tables stand in the order of their names, and a table has the first field of every name that is
listed for it, in the order in which these come up. So it is all one how the entries of different
tables are mixed. -/
namespace PropertyGraph.ReferenceGraph

/-- The fields that are the first of their names: every name that is listed has one, and they
stand in the order in which their names come up. -/
structure Field.Firsts (listed kept : List Field) : Prop where
  names : ∀ name, name ∈ kept.map Field.name ↔ name ∈ listed.map Field.name
  first : ∀ field ∈ kept, listed.find? (·.name = field.name) = some field
  ordered : (kept.map Field.name).Pairwise fun a b =>
    (listed.map Field.name).idxOf a < (listed.map Field.name).idxOf b

/-- What is written for a field: its name, a sample with its name, and its type. -/
structure Field.DescribedBy (field : Field) (json : Json) : Prop where
  name : json.text? "name" = some field.name
  sample : json.text? "sample" = some ("sample_" ++ field.name)
  type : (json.get? "recommendedType").bind (·.text? "type") = some field.type

/-- What is written for a table: its name, and its fields in order. -/
structure Table.DescribedBy (table : Table) (json : Json) : Prop where
  name : json.text? "name" = some table.name
  fields : ∃ fields, json.list? "fields" = some fields ∧
    List.Forall₂ Field.DescribedBy table.fields fields

section Firsts

lemma Field.firsts_eraseDupsBy (listed : List Field) :
    Firsts listed (listed.eraseDupsBy (·.name == ·.name)) := by
  have names := map_eraseDupsBy Field.name listed
  have first (wanted : String) : (listed.eraseDupsBy (·.name == ·.name)).find? (·.name = wanted) =
      listed.find? (·.name = wanted) :=
    find?_eraseDupsBy (fun x y same => by rw [eq_of_beq same]) listed
  refine ⟨fun name => by rw [names, List.mem_eraseDups], fun field member => ?_, ?_⟩
  · rw [← first]
    exact find?_of_mem (names ▸ nodup_eraseDups _) member rfl
  · rw [names]
    exact pairwise_idxOf_eraseDups _

end Firsts

section Inference

variable {mapped other : List Table}

lemma Table.describedBy_toJson (table : Table) : table.DescribedBy table.toJson := by
  refine ⟨by simp [toJson], table.fields.map Field.toJson, by simp [toJson], ?_⟩
  rw [List.forall₂_map_right_iff, List.forall₂_same]
  exact fun field _ => ⟨by simp [Field.toJson], by simp [Field.toJson], by simp [Field.toJson]⟩

lemma Table.infer_congr (names : ∀ name, name ∈ mapped.map Table.name ↔ name ∈ other.map Table.name)
    (fields : ∀ name, fieldsOf mapped name = fieldsOf other name) :
    infer mapped = infer other := by
  have permuted : (mapped.map Table.name).eraseDups.Perm (other.map Table.name).eraseDups := by
    rw [List.perm_ext_iff_of_nodup (nodup_eraseDups _) (nodup_eraseDups _)]
    simpa only [List.mem_eraseDups] using names
  rw [infer_eq, infer_eq, Text.sortByUnits_congr permuted]
  simp only [fields]

/-- The tables described are those mapped, each once and in ascending order, with the first
field of every name listed for them. Where the fields listed for each name are the same, the
descriptions are the same exactly if the same tables are named, if only without fields. -/
theorem describes_infer (kind : SourceKind) (mapped : List Table) :
    (∃ tables described,
      (SourceSchema.infer kind mapped).toJson.list? "tableSchemas" = some described ∧
        List.Forall₂ Table.DescribedBy tables described ∧
        (tables.map Table.name).Pairwise (fun s t => Text.units s < Text.units t) ∧
        (∀ name, name ∈ tables.map Table.name ↔ name ∈ mapped.map Table.name) ∧
        ∀ table ∈ tables, Field.Firsts (fieldsOf mapped table.name) table.fields) ∧
    ∀ other, (∀ name, fieldsOf mapped name = fieldsOf other name) →
      (SourceSchema.infer kind mapped = SourceSchema.infer kind other ↔
        ∀ name, name ∈ mapped.map Table.name ↔ name ∈ other.map Table.name) := by
  constructor
  · refine ⟨Table.infer mapped, (Table.infer mapped).map Table.toJson,
      by simp [SourceSchema.infer, SourceSchema.toJson], ?_, ?_, fun name => ?_, ?_⟩
    · rw [List.forall₂_map_right_iff, List.forall₂_same]
      exact fun table _ => table.describedBy_toJson
    · rw [Table.map_name_infer]
      exact Text.ascending_sortByUnits (nodup_eraseDups _)
    · rw [Table.map_name_infer, Text.sortByUnits, mem_sortBy, List.mem_eraseDups]
    · intro table member
      rw [Table.infer_eq] at member
      obtain ⟨name, -, rfl⟩ := List.mem_map.1 member
      exact Field.firsts_eraseDupsBy _
  · intro other fields
    constructor
    · intro same name
      have there : name ∈ (SourceSchema.infer kind mapped).tableNames ↔
          name ∈ (SourceSchema.infer kind other).tableNames := by rw [same]
      simpa only [mem_tableNames_infer, List.mem_map] using there
    · intro names
      rw [SourceSchema.infer, SourceSchema.infer, Table.infer_congr names fields]

/-- Two entries of one table with an entry of another one between them. -/
def interleaved : List Table :=
  [⟨"orders.csv", [⟨"id", "integer"⟩]⟩, ⟨"books.csv", [⟨"isbn", "string"⟩, ⟨"id", "string"⟩]⟩,
    ⟨"orders.csv", [⟨"id", "string"⟩, ⟨"total", "float"⟩]⟩]

/-- The same fields of the same tables, with one entry a table. -/
def gathered : List Table :=
  [⟨"books.csv", [⟨"isbn", "string"⟩, ⟨"id", "string"⟩]⟩,
    ⟨"orders.csv", [⟨"id", "integer"⟩, ⟨"id", "string"⟩, ⟨"total", "float"⟩]⟩]

theorem describes_infer_interleaved :
    (∀ name, fieldsOf interleaved name = fieldsOf gathered name) ∧
      SourceSchema.infer .onSite interleaved = SourceSchema.infer .onSite gathered ∧
      Table.infer interleaved = [⟨"books.csv", [⟨"isbn", "string"⟩, ⟨"id", "string"⟩]⟩,
        ⟨"orders.csv", [⟨"id", "integer"⟩, ⟨"total", "float"⟩]⟩] := by
  have fields : ∀ name, fieldsOf interleaved name = fieldsOf gathered name := by
    intro name
    by_cases orders : name = "orders.csv"
    · subst orders
      rfl
    · by_cases books : name = "books.csv"
      · subst books
        rfl
      · simp [fieldsOf, interleaved, gathered, Ne.symm orders, Ne.symm books]
  have names : ∀ name, name ∈ interleaved.map Table.name ↔ name ∈ gathered.map Table.name := by
    intro name
    simp only [interleaved, gathered, List.map_cons, List.map_nil, List.mem_cons]
    tauto
  exact ⟨fields, ((describes_infer .onSite interleaved).2 gathered fields).2 names,
    by decide +kernel⟩

/-- A table that is named without fields is described, though no field is listed for it. -/
theorem infer_ne_of_no_fields :
    (∀ name, fieldsOf [⟨"books.csv", []⟩] name = fieldsOf [] name) ∧
      SourceSchema.infer .onSite [⟨"books.csv", []⟩] ≠ SourceSchema.infer .onSite [] := by
  refine ⟨fun name => ?_, by decide +kernel⟩
  by_cases books : "books.csv" = name <;> simp [fieldsOf, books]

end Inference
end PropertyGraph.ReferenceGraph

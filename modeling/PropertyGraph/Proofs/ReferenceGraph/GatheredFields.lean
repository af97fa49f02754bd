import PropertyGraph.Proofs.Members
import PropertyGraph.ReferenceGraph.Tables

/-! The loop that gathers the fields of tables. What it finds under the name of a table are the
fields that entries of this name list, of fields with one name the first. -/
namespace PropertyGraph.ReferenceGraph

/-- All fields that are listed for a table, entry by entry. -/
def fieldsOf (mapped : List Table) (name : String) : List Field :=
  (mapped.filter (·.name = name)).flatMap Table.fields

variable {mapped : List Table}

lemma Field.foldl_collect (listed : List Field) :
    listed.foldl collect [] =
      (listed.eraseDupsBy (·.name == ·.name)).map fun field => (field.name, field) := by
  induction listed using List.reverseRecOn with
  | nil => rfl
  | append_singleton listed field ih =>
    let kept := listed.eraseDupsBy (·.name == ·.name)
    have known : (Members.get? field.name (kept.map fun other => (other.name, other))).isSome =
        kept.any (field.name == ·.name) := by
      rw [Members.get?, Members.lookup_map, Option.isSome_map, Bool.eq_iff_iff,
        List.find?_isSome, List.any_eq_true]
      simp only [decide_eq_true_eq, beq_iff_eq, @eq_comm _ field.name]
    rw [List.foldl_append, ih, List.foldl_cons, List.foldl_nil, collect, known,
      eraseDupsBy_concat]
    split
    · rfl
    · rename_i fresh
      have new : field.name ∉ (kept.map fun other => (other.name, other)).map Prod.fst := by
        intro taken
        rw [List.map_map] at taken
        obtain ⟨other, inside, same⟩ := List.mem_map.1 taken
        exact fresh (List.any_eq_true.2 ⟨other, inside, beq_iff_eq.2 same.symm⟩)
      rw [Members.put_of_notMem new, List.map_append, List.map_singleton]

/-- The tables that are mapped, each once and in the order of their names, have the first field of
every name listed for them. -/
theorem Table.infer_eq (mapped : List Table) :
    infer mapped = (Text.sortByUnits (mapped.map name).eraseDups).map fun n =>
      ⟨n, (fieldsOf mapped n).eraseDupsBy (·.name == ·.name)⟩ := by
  have fields (n : String) : (mapped.filter (·.name = n)).foldl
      (fun fields entry => entry.fields.foldl Field.collect fields) [] =
        ((fieldsOf mapped n).eraseDupsBy (·.name == ·.name)).map fun field =>
          (field.name, field) := by
    rw [← Field.foldl_collect, fieldsOf, List.foldl_flatMap]
  have gathered : mapped.foldl collect [] = _ :=
    Members.foldl_put name (fun fields entry => entry.fields.foldl Field.collect fields) [] mapped
  simp only [fields] at gathered
  have names : (mapped.foldl collect []).map Prod.fst = (mapped.map name).eraseDups := by
    rw [gathered, List.map_map]
    exact List.map_id _
  rw [infer, names, gathered]
  refine List.map_congr_left fun n member => ?_
  rw [Text.sortByUnits, mem_sortBy] at member
  rw [Members.get?_map_keys, if_pos member, Option.getD_some, List.map_map]
  exact congrArg _ (List.map_id _)

lemma Table.map_name_infer (mapped : List Table) :
    (infer mapped).map name = Text.sortByUnits (mapped.map name).eraseDups := by
  simp [infer_eq, Function.comp_def]

end PropertyGraph.ReferenceGraph

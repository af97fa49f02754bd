import PropertyGraph.Proofs.ReferenceGraph.Reread
import PropertyGraph.Proofs.ReferenceGraph.StoredIds

/-! Which schemas can be resolved. Labels, types and kinds of nodes need ids of their own and
every reference must name a part, but kinds of relationships may share an id: a reference to it
is then taken for one to the first of them. -/
namespace PropertyGraph.ReferenceGraph

def NodeObject.firstLabel? (object : NodeObject) : Option String := object.labels.head?.map Ref.id

structure NodeKind.Of (schema : Schema) (object : NodeObject) (kind : NodeKind) : Prop where
  id : kind.id = object.id
  label : kind.label ∈ schema.nodeLabels ∧ object.firstLabel? = some kind.label.id

structure RelationshipKind.Between (schema : Schema) (kinds : List NodeKind)
    (object : RelationshipObject) (kind : RelationshipKind) : Prop where
  id : kind.id = object.id
  type : kind.type ∈ schema.relationshipTypes ∧ kind.type.id = object.type.id
  start : kind.start ∈ kinds ∧ kind.start.id = object.start.id
  finish : kind.finish ∈ kinds ∧ kind.finish.id = object.finish.id

/-- A schema in which every reference between its parts has one meaning. -/
structure Schema.Resolvable (schema : Schema) : Prop where
  labels : (schema.nodeLabels.map EntityDef.id).Nodup
  types : (schema.relationshipTypes.map EntityDef.id).Nodup
  nodes : (schema.nodeObjects.map NodeObject.id).Nodup
  labelled : ∀ object ∈ schema.nodeObjects,
    ∃ label ∈ schema.nodeLabels, object.firstLabel? = some label.id
  related : ∀ object ∈ schema.relationshipObjects,
    object.type.id ∈ schema.relationshipTypes.map EntityDef.id ∧
      object.start.id ∈ schema.nodeObjects.map NodeObject.id ∧
      object.finish.id ∈ schema.nodeObjects.map NodeObject.id

/-- A resolved schema answers what the schema says: its kinds stand for the objects in order,
each reference leads to the part with its id, and a label to the first kind of nodes that names
it first. For kinds of relationships this needs ids of their own. -/
structure Resolved.Of (schema : Schema) (resolved : Resolved) : Prop where
  nodeKinds : List.Forall₂ (NodeKind.Of schema) schema.nodeObjects resolved.nodeKinds
  relationshipKinds : List.Forall₂ (RelationshipKind.Between schema resolved.nodeKinds)
    schema.relationshipObjects resolved.relationshipKinds
  node : ∀ ref path kind, resolved.node ref path = .ok kind ↔
    kind ∈ resolved.nodeKinds ∧ kind.id = ref.id
  relationship : (schema.relationshipObjects.map RelationshipObject.id).Nodup →
    ∀ ref path kind, resolved.relationship ref path = .ok kind ↔
      kind ∈ resolved.relationshipKinds ∧ kind.id = ref.id
  nodeOfLabel : ∀ labelId, Option.Rel (NodeKind.Of schema)
    (schema.nodeObjects.find? (·.firstLabel? = some labelId)) (resolved.nodeOfLabel? labelId)

section Steps

variable {α : Type} {schema : Schema} {kinds : List NodeKind} {resolved : Resolved}

lemma lookUp_eq_ok_iff {parts : List α} {id : α → String} (distinct : (parts.map id).Nodup)
    {ref : Ref} {path : String} {target : Target} {part : α} :
    lookUp parts id ref path target = .ok part ↔ part ∈ parts ∧ id part = ref.id :=
  ⟨lookUp_eq_ok, fun ⟨member, same⟩ => lookUp_of_mem distinct member same path target⟩

lemma nodeKind_eq_ok_iff (labels : (schema.nodeLabels.map EntityDef.id).Nodup) {index : Nat}
    {object : NodeObject} {kind : NodeKind} :
    Resolved.nodeKind schema index object = .ok kind ↔
      object.id ∉ (schema.nodeObjects.take index).map NodeObject.id ∧ kind.Of schema object := by
  simp only [Resolved.nodeKind]
  split_ifs with repeated
  · refine iff_of_false (by simp) fun fresh => ?_
    exact fresh.1 (List.contains_iff_mem.1 repeated)
  · rw [List.contains_iff_mem] at repeated
    cases listed : object.labels with
    | nil =>
      have unlabelled : ¬ kind.Of schema object := by
        rintro ⟨-, -, first⟩
        simp [NodeObject.firstLabel?, listed] at first
      simp [unlabelled]
    | cons ref rest =>
      have first : object.firstLabel? = some ref.id := by simp [NodeObject.firstLabel?, listed]
      simp only [Except.map_eq_ok_iff, lookUp_eq_ok_iff labels, repeated, not_false_eq_true,
        true_and]
      constructor
      · rintro ⟨label, ⟨member, same⟩, rfl⟩
        exact ⟨rfl, member, same ▸ first⟩
      · rintro ⟨id, member, named⟩
        refine ⟨kind.label, ⟨member, Option.some.inj (named.symm.trans first)⟩, ?_⟩
        rw [← id]

lemma relationshipKind_eq_ok_iff (types : (schema.relationshipTypes.map EntityDef.id).Nodup)
    (nodes : (kinds.map NodeKind.id).Nodup) {index : Nat} {object : RelationshipObject}
    {kind : RelationshipKind} :
    Resolved.relationshipKind schema kinds index object = .ok kind ↔
      kind.Between schema kinds object := by
  simp only [Resolved.relationshipKind, Except.bind_eq_ok_iff, lookUp_eq_ok_iff types,
    lookUp_eq_ok_iff nodes]
  constructor
  · rintro ⟨type, ht, start, hs, finish, hf, made⟩
    cases made
    exact ⟨rfl, ht, hs, hf⟩
  · rintro ⟨id, ht, hs, hf⟩
    refine ⟨_, ht, _, hs, _, hf, ?_⟩
    rw [← id]
    rfl

lemma checkIds_eq_ok_iff {path : String} {ids : List String} {u : Unit} :
    checkIds path ids = .ok u ↔ ids.Nodup :=
  ⟨nodup_of_checkIds, fun distinct => checkIds_of_nodup distinct path⟩

lemma map_id_of_nodeKinds {objects : List NodeObject}
    (stand : List.Forall₂ (NodeKind.Of schema) objects kinds) :
    kinds.map NodeKind.id = objects.map NodeObject.id :=
  map_eq_map_of_forall₂ (fun _ _ stands => NodeKind.Of.id stands) stand

lemma mapM_nodeKind_eq_ok_iff (labels : (schema.nodeLabels.map EntityDef.id).Nodup) :
    (schema.nodeObjects.zipIdx.mapM fun (object, i) => Resolved.nodeKind schema i object) =
        .ok kinds ↔
      (schema.nodeObjects.map NodeObject.id).Nodup ∧
        List.Forall₂ (NodeKind.Of schema) schema.nodeObjects kinds := by
  simp only [Except.mapM_eq_ok_iff, nodeKind_eq_ok_iff labels]
  rw [List.forall₂_and_left, nodup_iff_forall_zipIdx, ← List.forall₂_map_left_iff,
    List.zipIdx_map_fst]

lemma mapM_relationshipKind_eq_ok_iff
    (types : (schema.relationshipTypes.map EntityDef.id).Nodup)
    (nodes : (kinds.map NodeKind.id).Nodup) {relationshipKinds : List RelationshipKind} :
    (schema.relationshipObjects.zipIdx.mapM fun (object, i) =>
        Resolved.relationshipKind schema kinds i object) = .ok relationshipKinds ↔
      List.Forall₂ (RelationshipKind.Between schema kinds) schema.relationshipObjects
        relationshipKinds := by
  simp only [Except.mapM_eq_ok_iff, relationshipKind_eq_ok_iff types nodes]
  rw [← List.forall₂_map_left_iff, List.zipIdx_map_fst]

/-- Resolution succeeds exactly with what the objects stand for. -/
theorem ofSchema_eq_ok_iff : Resolved.ofSchema schema = .ok resolved ↔
    (schema.nodeLabels.map EntityDef.id).Nodup ∧
      (schema.relationshipTypes.map EntityDef.id).Nodup ∧
      (schema.nodeObjects.map NodeObject.id).Nodup ∧
      List.Forall₂ (NodeKind.Of schema) schema.nodeObjects resolved.nodeKinds ∧
      List.Forall₂ (RelationshipKind.Between schema resolved.nodeKinds)
        schema.relationshipObjects resolved.relationshipKinds := by
  simp only [Resolved.ofSchema, Except.bind_eq_ok_iff, checkIds_eq_ok_iff, exists_const]
  constructor
  · rintro ⟨labels, types, nodeKinds, hn, relationshipKinds, hr, made⟩
    cases made
    obtain ⟨distinct, stand⟩ := (mapM_nodeKind_eq_ok_iff labels).1 hn
    have nodes := map_id_of_nodeKinds stand ▸ distinct
    exact ⟨labels, types, distinct, stand, (mapM_relationshipKind_eq_ok_iff types nodes).1 hr⟩
  · rintro ⟨labels, types, distinct, stand, between⟩
    have nodes := map_id_of_nodeKinds stand ▸ distinct
    exact ⟨labels, types, _, (mapM_nodeKind_eq_ok_iff labels).2 ⟨distinct, stand⟩, _,
      (mapM_relationshipKind_eq_ok_iff types nodes).2 between, rfl⟩

theorem exists_ofSchema_iff :
    (∃ resolved, Resolved.ofSchema schema = .ok resolved) ↔ schema.Resolvable := by
  constructor
  · rintro ⟨resolved, made⟩
    obtain ⟨labels, types, nodes, stand, between⟩ := ofSchema_eq_ok_iff.1 made
    refine ⟨labels, types, nodes, fun object member => ?_, fun object member => ?_⟩
    · obtain ⟨kind, -, present, named⟩ := exists_forall₂_iff.1 ⟨_, stand⟩ object member
      exact ⟨kind.label, present, named⟩
    · obtain ⟨kind, -, type, start, finish⟩ := exists_forall₂_iff.1 ⟨_, between⟩ object member
      rw [← map_id_of_nodeKinds stand]
      exact ⟨type.2 ▸ List.mem_map_of_mem type.1, start.2 ▸ List.mem_map_of_mem start.1,
        finish.2 ▸ List.mem_map_of_mem finish.1⟩
  · intro resolvable
    obtain ⟨kinds, stand⟩ : ∃ kinds, List.Forall₂ (NodeKind.Of schema) schema.nodeObjects kinds :=
      exists_forall₂_iff.2 fun object member => by
        obtain ⟨label, present, named⟩ := resolvable.labelled object member
        exact ⟨⟨object.id, label⟩, rfl, present, named⟩
    obtain ⟨relationshipKinds, between⟩ : ∃ relationshipKinds,
        List.Forall₂ (RelationshipKind.Between schema kinds) schema.relationshipObjects
          relationshipKinds :=
      exists_forall₂_iff.2 fun object member => by
        have related := resolvable.related object member
        rw [← map_id_of_nodeKinds stand] at related
        simp only [List.mem_map] at related
        obtain ⟨⟨type, ht⟩, ⟨start, hs⟩, finish, hf⟩ := related
        exact ⟨⟨object.id, type, start, finish⟩, rfl, ht, hs, hf⟩
    exact ⟨⟨kinds, relationshipKinds⟩, ofSchema_eq_ok_iff.2
      ⟨resolvable.labels, resolvable.types, resolvable.nodes, stand, between⟩⟩

lemma map_id_of_relationshipKinds {objects : List RelationshipObject}
    {relationshipKinds : List RelationshipKind}
    (between : List.Forall₂ (RelationshipKind.Between schema kinds) objects relationshipKinds) :
    relationshipKinds.map RelationshipKind.id = objects.map RelationshipObject.id :=
  map_eq_map_of_forall₂ (fun _ _ stands => RelationshipKind.Between.id stands) between

/-- The first kind of a label is that of the first object that names the label first. -/
lemma rel_find?_of_nodeKinds {objects : List NodeObject}
    (stand : List.Forall₂ (NodeKind.Of schema) objects kinds) (labelId : String) :
    Option.Rel (NodeKind.Of schema) (objects.find? (·.firstLabel? = some labelId))
      (kinds.find? (·.label.id = labelId)) := by
  induction stand with
  | nil => exact .none
  | @cons object kind _ _ head _ ih =>
    have named : object.firstLabel? = some labelId ↔ kind.label.id = labelId := by
      rw [head.label.2, Option.some.injEq]
    by_cases here : kind.label.id = labelId
    · simpa [named, here] using Option.Rel.some head
    · simpa [named, here] using ih

lemma of_ofSchema (made : Resolved.ofSchema schema = .ok resolved) : resolved.Of schema := by
  obtain ⟨-, -, distinct, stand, between⟩ := ofSchema_eq_ok_iff.1 made
  have nodes := map_id_of_nodeKinds stand ▸ distinct
  refine ⟨stand, between, fun ref path kind => lookUp_eq_ok_iff nodes, fun own ref path kind => ?_,
    rel_find?_of_nodeKinds stand⟩
  exact lookUp_eq_ok_iff (map_id_of_relationshipKinds between ▸ own)

end Steps

section Failures

variable {α β : Type}

/-- A computation that only fails at a part of a document. -/
def FailsAtPart (x : Except ModelError α) : Prop :=
  ∀ error, x = .error error → ∃ path fault, error = .document path fault

namespace FailsAtPart

lemma ok (a : α) : FailsAtPart (.ok a) := nofun

lemma part (path : String) (fault : DocumentFault) :
    FailsAtPart (.error (.document path fault) : Except ModelError α) := by
  rintro _ ⟨⟩
  exact ⟨path, fault, rfl⟩

lemma bind {x : Except ModelError α} {next : α → Except ModelError β} (first : FailsAtPart x)
    (rest : ∀ a, FailsAtPart (next a)) : FailsAtPart (x >>= next) := by
  cases x with
  | error error =>
    obtain ⟨path, fault, rfl⟩ := first error rfl
    exact .part path fault
  | ok a => exact rest a

lemma map {x : Except ModelError α} (fails : FailsAtPart x) (f : α → β) :
    FailsAtPart (x.map f) := by
  cases x with
  | error error =>
    obtain ⟨path, fault, rfl⟩ := fails error rfl
    exact .part path fault
  | ok a => exact .ok (f a)

lemma mapM {f : α → Except ModelError β} (each : ∀ x, FailsAtPart (f x)) (xs : List α) :
    FailsAtPart (xs.mapM f) := by
  induction xs with
  | nil => exact .ok []
  | cons x xs ih =>
    rw [List.mapM_cons]
    exact (each x).bind fun y => ih.bind fun ys => .ok (y :: ys)

lemma lookUp (parts : List α) (id : α → String) (ref : Ref) (path : String) (target : Target) :
    FailsAtPart (lookUp parts id ref path target) := by
  unfold ReferenceGraph.lookUp
  split
  · exact .ok _
  · exact .part _ _

lemma checkIds (path : String) (ids : List String) : FailsAtPart (checkIds path ids) := by
  unfold ReferenceGraph.checkIds
  split
  · exact .part _ _
  · exact .ok _

lemma nodeKind (schema : Schema) (index : Nat) (object : NodeObject) :
    FailsAtPart (Resolved.nodeKind schema index object) := by
  simp only [Resolved.nodeKind]
  split_ifs
  · exact .part _ _
  · split
    · exact .part _ _
    · exact .map (.lookUp _ _ _ _ _) _

lemma relationshipKind (schema : Schema) (kinds : List NodeKind) (index : Nat)
    (object : RelationshipObject) :
    FailsAtPart (Resolved.relationshipKind schema kinds index object) :=
  .bind (.lookUp _ _ _ _ _) fun _ => .bind (.lookUp _ _ _ _ _) fun _ =>
    .bind (.lookUp _ _ _ _ _) fun _ => .ok _

lemma ofSchema (schema : Schema) : FailsAtPart (Resolved.ofSchema schema) :=
  .bind (.checkIds _ _) fun _ => .bind (.checkIds _ _) fun _ =>
    .bind (.mapM (fun _ => .nodeKind _ _ _) _) fun _ =>
      .bind (.mapM (fun _ => .relationshipKind _ _ _ _) _) fun _ => .ok _

end FailsAtPart
end Failures

/-- A schema is resolved if it can be, with an answer to every reference and every label; else
a part of the document is refused. -/
theorem ofSchema_of_resolvable (schema : Schema) :
    (schema.Resolvable →
      ∃ resolved, Resolved.ofSchema schema = .ok resolved ∧ resolved.Of schema) ∧
    (¬ schema.Resolvable →
      ∃ path fault, Resolved.ofSchema schema = .error (.document path fault)) := by
  refine ⟨fun resolvable => ?_, fun unresolvable => ?_⟩
  · obtain ⟨resolved, made⟩ := exists_ofSchema_iff.2 resolvable
    exact ⟨resolved, made, of_ofSchema made⟩
  · cases made : Resolved.ofSchema schema with
    | error error =>
      obtain ⟨path, fault, rfl⟩ := FailsAtPart.ofSchema schema error made
      exact ⟨path, fault, rfl⟩
    | ok resolved => exact absurd (exists_ofSchema_iff.1 ⟨resolved, made⟩) unresolvable

/-- A schema of authors and books, who write each other under these ids. -/
def Schema.writing (authorsId booksId : String) : Schema where
  nodeLabels := [⟨"nl:0", "Author", []⟩, ⟨"nl:1", "Book", []⟩]
  relationshipTypes := [⟨"rt:1", "WROTE", []⟩]
  nodeObjects := [⟨"n:0", [.toId "nl:0"]⟩, ⟨"n:1", [.toId "nl:1"]⟩]
  relationshipObjects := [⟨authorsId, .toId "rt:1", .toId "n:0", .toId "n:1"⟩,
    ⟨booksId, .toId "rt:1", .toId "n:1", .toId "n:0"⟩]
  constraints := none
  indexes := none

theorem ofSchema_of_resolvable_writing :
    (∃ resolved, Resolved.ofSchema (.writing "r:1" "r:2") = .ok resolved ∧
        resolved.Of (.writing "r:1" "r:2")) ∧
      ∃ path fault, Resolved.ofSchema { Schema.writing "r:1" "r:2" with nodeObjects := [] } =
        .error (.document path fault) := by
  have resolvable : (Schema.writing "r:1" "r:2").Resolvable :=
    ⟨by decide +kernel, by decide +kernel, by decide +kernel, by decide +kernel,
      by decide +kernel⟩
  refine ⟨(ofSchema_of_resolvable _).1 resolvable, (ofSchema_of_resolvable _).2 ?_⟩
  exact fun others => absurd others.related (by decide +kernel)

/-- Two kinds of relationships with one id are resolved, and only the first is ever found. -/
theorem ofSchema_writing_twice :
    ¬ ((Schema.writing "r:1" "r:1").relationshipObjects.map RelationshipObject.id).Nodup ∧
      ∃ resolved first second, Resolved.ofSchema (.writing "r:1" "r:1") = .ok resolved ∧
        resolved.relationshipKinds = [first, second] ∧ first.start.label.token = "Author" ∧
        second.start.label.token = "Book" ∧
        ∀ path, resolved.relationship (.toId "r:1") path = .ok first := by
  have computed : (Resolved.ofSchema (.writing "r:1" "r:1")).map Resolved.relationshipKinds =
      let authors : NodeKind := ⟨"n:0", ⟨"nl:0", "Author", []⟩⟩
      let books : NodeKind := ⟨"n:1", ⟨"nl:1", "Book", []⟩⟩
      .ok [⟨"r:1", ⟨"rt:1", "WROTE", []⟩, authors, books⟩,
        ⟨"r:1", ⟨"rt:1", "WROTE", []⟩, books, authors⟩] := by decide +kernel
  obtain ⟨resolved, made, kinds⟩ := Except.map_eq_ok_iff.1 computed
  refine ⟨by decide +kernel, resolved, _, _, made, kinds, rfl, rfl, fun path => ?_⟩
  simp [Resolved.relationship, lookUp, kinds]

end PropertyGraph.ReferenceGraph

import PropertyGraph.Proofs.Diagram.Redrawing
import PropertyGraph.Proofs.JsonText

/-! What is written of a model is as a program holds it: every object that is put together here
has members of different names, none of them an index, and what a model only keeps is as tidy as
its record. -/
namespace PropertyGraph

namespace Json

section Parts

variable {names : List String} {name : String} {v w : Json}
  {ms : List (String × Json)} {α : Type}

/-- Members under some of the names, in their order. -/
inductive Fields : List String → List (String × Json) → Prop
  | nil : Fields [] []
  | member {name : String} {v : Json} {names : List String} {ms : List (String × Json)}
      (tidy : v.Tidy) (rest : Fields names ms) : Fields (name :: names) ((name, v) :: ms)
  | absent {name : String} {names : List String} {ms : List (String × Json)}
      (rest : Fields names ms) : Fields (name :: names) ms

lemma Fields.optional {f : α → Json} {a : Option α} (each : ∀ x ∈ a, (f x).Tidy)
    (rest : Fields names ms) : Fields (name :: names) (Json.optional name (a.map f) ++ ms) := by
  cases a with
  | none => exact .absent rest
  | some x => exact .member (each x rfl) rest

lemma Fields.optional_last {f : α → Json} {a : Option α} (each : ∀ x ∈ a, (f x).Tidy) :
    Fields [name] (Json.optional name (a.map f)) := by
  simpa using optional each .nil

lemma tidy_object (fields : Fields names ms) (distinct : names.Nodup)
    (plain : ∀ name ∈ names, Members.isIndex name = false) : (object ms).Tidy := by
  have both : (ms.map Prod.fst).Sublist names ∧ ∀ m ∈ ms, m.2.Tidy := by
    clear distinct plain
    induction fields with
    | nil => simp
    | member tidy rest ih => exact ⟨ih.1.cons_cons _, List.forall_mem_cons.2 ⟨tidy, ih.2⟩⟩
    | absent rest ih => exact ⟨ih.1.cons _, ih.2⟩
  exact .object (both.1.nodup distinct)
    (Members.inOrder_of_not_index fun name inside => plain name (both.1.subset inside)) both.2

lemma tidy_map {f : α → Json} {xs : List α} (each : ∀ x ∈ xs, (f x).Tidy) :
    (array (xs.map f)).Tidy :=
  .array (by simpa using each)

lemma Tidy.item {items : List Json} (tidy : (Json.array items).Tidy) (inside : v ∈ items) :
    v.Tidy := by
  cases tidy with
  | array each => exact each v inside

lemma Tidy.member (name : String) (tidy : v.Tidy) (found : v.get? name = some w) : w.Tidy := by
  cases tidy with
  | object distinct ordered values => exact values _ (Members.mem_of_lookup name found)
  | _ => cases found

lemma Tidy.optional (name : String) (tidy : v.Tidy) {f : α → Json} {a : Option α}
    (kept : v.get? name = a.map f) : ∀ x ∈ a, (f x).Tidy := by
  rintro x ⟨rfl⟩
  exact tidy.member name kept

lemma tidy_empty : (object []).Tidy := .object .nil .nil (List.forall_mem_nil _)

lemma tidy_getD {members : Option (List (String × Json))}
    (each : ∀ kept ∈ members, (object kept).Tidy) (other : (object ms).Tidy) :
    (object (members.getD ms)).Tidy := by
  cases members with
  | none => exact other
  | some kept => exact each kept rfl

end Parts
end Json

open Json (Fields tidy_object tidy_map)

lemma Position.Finite.tidy {position : Position} (finite : position.Finite) :
    position.toJson.Tidy :=
  tidy_object (.member (.number finite.1) <| .member (.number finite.2) .nil) (by decide)
    (by decide)

lemma Position.finite_of_tidy {position : Position} (tidy : position.toJson.Tidy) :
    position.Finite := by
  have hx : (Json.number position.x).Tidy := tidy.member "x" (by simp [toJson])
  have hy : (Json.number position.y).Tidy := tidy.member "y" (by simp [toJson])
  cases hx with
  | number hx =>
    cases hy with
    | number hy => exact ⟨hx, hy⟩

namespace Diagram

section Drawings

lemma textsToJson_tidy {texts : List (String × String)} (distinct : (texts.map Prod.fst).Nodup)
    (ordered : Members.InOrder (texts.map Prod.fst)) : (textsToJson texts).Tidy := by
  have names : (texts.map fun entry => (entry.1, Json.string entry.2)).map Prod.fst =
      texts.map Prod.fst := by simp [Function.comp_def]
  refine .object (names ▸ distinct) (names ▸ ordered) fun member inside => ?_
  obtain ⟨entry, -, rfl⟩ := List.mem_map.1 inside
  exact .string entry.2

lemma writeProperties_tidy {key : Option Property} {properties : List Property}
    (valid : ValidProperties key properties) :
    (textsToJson (writeProperties key properties)).Tidy := by
  have distinct : ((textsOf key properties).map Prod.fst).Nodup :=
    map_fst_textsOf key properties ▸ valid.names
  change (textsToJson (Members.assign (Members.merge (textsOf key properties)))).Tidy
  rw [Members.merge_of_nodup distinct]
  exact textsToJson_tidy (Members.nodup_assign distinct) (Members.inOrder_arrange _)

lemma Box.tidy {box : Box} (texts : (textsToJson box.properties).Tidy)
    (style : ∀ s ∈ box.style, (Json.object s).Tidy)
    (position : ∀ p ∈ box.position, p.Finite) : box.toJson.Tidy := by
  simp only [toJson, List.append_assoc]
  exact tidy_object
    (.member (.string _) <| .member (tidy_map fun label _ => .string label) <| .member texts <|
      .optional style <| .optional (fun p known => (position p known).tidy) <|
      .optional_last fun caption _ => .string caption)
    (by decide) (by decide)

lemma Arrow.tidy {arrow : Arrow} (texts : (textsToJson arrow.properties).Tidy)
    (style : ∀ s ∈ arrow.style, (Json.object s).Tidy) : arrow.toJson.Tidy :=
  tidy_object
    (.member (.string _) <| .member (.string _) <| .member (.string _) <| .member texts <|
      .optional_last style)
    (by decide) (by decide)

lemma tidy {diagram : Diagram} (boxes : ∀ box ∈ diagram.boxes, box.toJson.Tidy)
    (arrows : ∀ arrow ∈ diagram.arrows, arrow.toJson.Tidy)
    (style : ∀ s ∈ diagram.style, (Json.object s).Tidy) : diagram.toJson.Tidy :=
  tidy_object (.member (tidy_map boxes) <| .member (tidy_map arrows) <| .optional_last style)
    (by decide) (by decide)

end Drawings
end Diagram

namespace ReferenceGraph

section Graphs

lemma Ref.tidy (ref : Ref) : ref.toJson.Tidy :=
  tidy_object (.member (.string _) .nil) (by decide) (by decide)

lemma PropertyDef.tidy (definition : PropertyDef) : definition.toJson.Tidy :=
  tidy_object
    (.member (.string _) <| .member (.string _) <|
      .member (tidy_object (.member (.string _) .nil) (by decide) (by decide)) <|
      .optional_last fun b _ => .bool b)
    (by decide) (by decide)

lemma EntityDef.tidy (definition : EntityDef) : definition.toJson.Tidy :=
  tidy_object
    (.member (.string _) <| .member (.string _) <|
      .member (tidy_map fun property _ => property.tidy) .nil)
    (by decide) (by decide)

lemma NodeObject.tidy (object : NodeObject) : object.toJson.Tidy :=
  tidy_object (.member (.string _) <| .member (tidy_map fun ref _ => ref.tidy) .nil) (by decide)
    (by decide)

lemma RelationshipObject.tidy (object : RelationshipObject) : object.toJson.Tidy :=
  tidy_object
    (.member (.string _) <| .member (Ref.tidy _) <| .member (Ref.tidy _) <|
      .member (Ref.tidy _) .nil)
    (by decide) (by decide)

lemma Rule.tidy_forKey (kind : RuleKind) (number : Nat) (name : String) (owner : RuleOwner)
    (keyId : String) : (forKey kind number name owner keyId).toJson.Tidy := by
  have properties : (Json.array ([Ref.toId keyId].map Ref.toJson)).Tidy :=
    tidy_map fun ref _ => ref.tidy
  cases owner with
  | node label =>
    cases kind <;> exact tidy_object
      (.member (.string _) <| .member (.string _) <| .member (.string _) <|
        .member (.string _) <| .member label.tidy <| .member .null <| .member properties .nil)
      (by decide) (by decide)
  | relationship type =>
    cases kind <;> exact tidy_object
      (.member (.string _) <| .member (.string _) <| .member (.string _) <|
        .member (.string _) <| .member .null <| .member type.tidy <| .member properties .nil)
      (by decide) (by decide)

lemma Schema.tidy {schema : Schema}
    (constraints : ∀ rules ∈ schema.constraints, ∀ rule ∈ rules, rule.toJson.Tidy)
    (indexes : ∀ rules ∈ schema.indexes, ∀ rule ∈ rules, rule.toJson.Tidy) :
    schema.toJson.Tidy := by
  simp only [toJson, List.append_assoc]
  exact tidy_object
    (.member (tidy_map fun definition _ => definition.tidy) <|
      .member (tidy_map fun definition _ => definition.tidy) <|
      .member (tidy_map fun object _ => object.tidy) <|
      .member (tidy_map fun object _ => object.tidy) <|
      .optional (fun rules known => tidy_map (constraints rules known)) <|
      .optional_last fun rules known => tidy_map (indexes rules known))
    (by decide) (by decide)

lemma NodeKey.tidy (key : NodeKey) : key.toJson.Tidy :=
  tidy_object (.member (Ref.tidy _) <| .member (Ref.tidy _) .nil) (by decide) (by decide)

lemma FieldMapping.tidy (mapping : FieldMapping) : mapping.toJson.Tidy :=
  tidy_object (.member (Ref.tidy _) <| .member (.string _) .nil) (by decide) (by decide)

lemma NodeMapping.tidy (mapping : NodeMapping) : mapping.toJson.Tidy :=
  tidy_object
    (.member (Ref.tidy _) <| .member (.string _) <|
      .member (tidy_map fun field _ => field.tidy) .nil)
    (by decide) (by decide)

lemma RelationshipMapping.tidy (mapping : RelationshipMapping) : mapping.toJson.Tidy := by
  have field (name : String) : (endToJson name).Tidy :=
    tidy_object (.member (.string _) .nil) (by decide) (by decide)
  simp only [toJson, List.append_assoc]
  exact tidy_object
    (.member (Ref.tidy _) <| .member (.string _) <|
      .member (tidy_map fun field _ => field.tidy) <|
      .optional (fun name _ => field name) <| .optional_last fun name _ => field name)
    (by decide) (by decide)

lemma Field.tidy (field : Field) : field.toJson.Tidy :=
  tidy_object
    (.member (.string _) <| .member (.string _) <|
      .member (tidy_object (.member (.string _) .nil) (by decide) (by decide)) .nil)
    (by decide) (by decide)

lemma Table.tidy (table : Table) : table.toJson.Tidy :=
  tidy_object (.member (.string _) <| .member (tidy_map fun field _ => field.tidy) .nil)
    (by decide) (by decide)

lemma SourceSchema.tidy_infer (kind : SourceKind) (mapped : List Table) :
    (infer kind mapped).toJson.Tidy :=
  tidy_object (.member (.string _) <| .member (tidy_map fun table _ => table.tidy) .nil)
    (by decide) (by decide)

lemma Placement.tidy {placement : Placement} (finite : placement.position.Finite) :
    placement.toJson.Tidy :=
  tidy_object (.member (.string _) <| .member finite.tidy .nil) (by decide) (by decide)

lemma tidy {graph : ReferenceGraph}
    (placements : ∀ places ∈ graph.placements, ∀ place ∈ places, place.position.Finite)
    (schema : graph.schema.toJson.Tidy) (source : ∀ s ∈ graph.sourceSchema, s.toJson.Tidy)
    (configurations : ∀ c ∈ graph.configurations, (Json.object c).Tidy) : graph.toJson.Tidy := by
  have drawing : ∀ places ∈ graph.placements,
      (Json.object [("nodes", .array (places.map Placement.toJson))]).Tidy := fun places known =>
    tidy_object
      (.member (tidy_map fun place inside => Placement.tidy (placements places known place inside))
        .nil)
      (by decide) (by decide)
  have extension : (Json.object
      [("nodeKeyProperties", .array (graph.nodeKeys.map NodeKey.toJson))]).Tidy :=
    tidy_object (.member (tidy_map fun key _ => key.tidy) .nil) (by decide) (by decide)
  have representation : (Json.object (Json.optional "version" (graph.schemaVersion.map .string) ++
      [("graphSchema", graph.schema.toJson)])).Tidy :=
    tidy_object (.optional (fun version _ => .string version) <| .member schema .nil) (by decide)
      (by decide)
  have mapping : (Json.object
      (Json.optional "dataSourceSchema" (graph.sourceSchema.map SourceSchema.toJson) ++
        [("nodeMappings", .array (graph.nodeMappings.map NodeMapping.toJson)),
          ("relationshipMappings",
            .array (graph.relationshipMappings.map RelationshipMapping.toJson))])).Tidy :=
    tidy_object
      (.optional source <| .member (tidy_map fun mapping _ => mapping.tidy) <|
        .member (tidy_map fun mapping _ => mapping.tidy) .nil)
      (by decide) (by decide)
  simp only [toJson, List.append_assoc]
  exact tidy_object
    (.optional (fun version _ => .string version) <| .optional drawing <| .member
      (tidy_object
        (.optional (fun version _ => .string version) <| .member representation <|
          .member extension <| .member mapping <| .optional_last configurations)
        (by decide) (by decide))
      .nil)
    (by decide) (by decide)

end Graphs
end ReferenceGraph
end PropertyGraph

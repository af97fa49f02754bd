import PropertyGraph.Proofs.Layout
import PropertyGraph.Proofs.ReferenceGraph.Codec
import PropertyGraph.Proofs.ReferenceGraph.Reread

/-! The exported graph passes the check of documents: what is made anew has the right form,
and what is stored is given back only if it had that form. -/
namespace PropertyGraph

def Position.Finite (position : Position) : Prop :=
  position.x.isFinite = true ∧ position.y.isFinite = true

lemma Position.Finite.isNumber {position : Position} (finite : position.Finite) :
    position.x.isNaN = false ∧ position.y.isNaN = false := by
  have number {x : Binary64} (hx : x.isFinite = true) : x.isNaN = false := by
    cases x <;> simp_all [Binary64.isFinite, Binary64.isNaN]
  exact ⟨number finite.1, number finite.2⟩

/-- All positions that are stored with a model are finite. -/
def Model.PositionsFinite (model : Model) : Prop :=
  ∀ node ∈ model.nodes, ∀ position, node.metadata.place = some position ∨
    node.metadata.diagramPosition? = some position → position.Finite

lemma Model.positionsFinite_of_empty {model : Model}
    (h : ∀ node ∈ model.nodes, node.metadata = .empty) : model.PositionsFinite := by
  intro node member position known
  rw [h node member] at known
  rcases known with known | known <;> cases known

namespace ReferenceGraph
open Conversion (AddsOnly answer_bind answer_lift answer_tellAll)
open Shape (yields_object yields_anyText yields_choice yields_list yields_null)

def Stored.rules (stored : Stored) : RuleKind → Option (List Rule)
  | .constraint => stored.constraints
  | .index => stored.indexes

/-- What a model stores of a reference graph has the form that it must have. -/
def Stored.Accepted (stored : Stored) : Prop :=
  ∃ result, shape.parse (some stored.toJson) = .ok result

section Stored

variable {stored : Stored}

lemma rules_pass {kind : RuleKind} {rules : List Rule} {result : Json}
    (passes : (Shape.optional (.listOf (Rule.shape kind))).Yields
      (.array (rules.map Rule.toJson)) result) : ∀ rule ∈ rules, rule.Passes kind := by
  obtain ⟨items, same, -, each⟩ := Shape.list_rebuilt passes.of_optional
  cases same
  intro rule member
  exact ⟨_, each rule.toJson (List.mem_map_of_mem member)⟩

lemma Stored.Accepted.rules (accepted : stored.Accepted) (kind : RuleKind) :
    ∀ rules ∈ stored.rules kind, ∀ rule ∈ rules, rule.Passes kind := by
  intro rules present
  obtain ⟨result, parsed⟩ := accepted
  have yields := Shape.yields_of_parse parsed
  rw [Option.mem_def] at present
  cases kind with
  | constraint =>
    have given : stored.toJson.get? "constraints" = some (.array (rules.map Rule.toJson)) := by
      simp_all [toJson, Stored.rules]
    exact rules_pass (Shape.given_rebuilt yields (by decide) (by simp) given).1
  | index =>
    have given : stored.toJson.get? "indexes" = some (.array (rules.map Rule.toJson)) := by
      simp_all [toJson, Stored.rules]
    exact rules_pass (Shape.given_rebuilt yields (by decide) (by simp) given).1

lemma Stored.Accepted.sourceSchema (accepted : stored.Accepted) :
    ∀ schema ∈ stored.sourceSchema, schema.Passes := by
  intro schema present
  obtain ⟨result, parsed⟩ := accepted
  have given : stored.toJson.get? "dataSourceSchema" = some schema.toJson := by
    rw [Option.mem_def] at present
    simp [toJson, present]
  exact ⟨_, (Shape.given_rebuilt (Shape.yields_of_parse parsed) (by decide) (by simp)
    given).1.of_optional⟩

lemma Stored.empty_accepted : Stored.empty.Accepted := ⟨.object [], by decide +kernel⟩

lemma Stored.accepted_getD {stored : Option Stored} (accepted : ∀ s ∈ stored, s.Accepted) :
    (stored.getD .empty).Accepted := by
  cases stored with
  | none => exact empty_accepted
  | some s => exact accepted s rfl

end Stored

section Made

lemma Rule.forKey_yields (kind : RuleKind) (number : Nat) (name : String) (owner : RuleOwner)
    (keyId : String) (ho : ∀ ref, owner = .node ref ∨ owner = .relationship ref → ref.text ≠ "") :
    (Rule.shape kind).Yields (forKey kind number name owner keyId).toJson
      (forKey kind number name owner keyId).toJson := by
  have properties : (Shape.listOf Ref.shape).Yields (.array ([Ref.toId keyId].map Ref.toJson))
      (.array ([Ref.toId keyId].map Ref.toJson)) := by
    refine yields_list fun ref member => ?_
    obtain rfl := List.mem_singleton.1 member
    exact Ref.toId_yields keyId
  have text (s : String) := yields_anyText s
  cases owner with
  | node ref =>
    have label := (Ref.yields (ho ref (.inl rfl)))
    cases kind <;> exact yields_object
      (.member (text _) <| .member (text _) <| .member (text _) <|
        .member (yields_choice (by decide)) <| .member (Shape.Yields.nullable label) <|
        .member (yields_null _) <| .member properties .nil)
      (by decide) (by decide)
  | relationship ref =>
    have type := (Ref.yields (ho ref (.inr rfl)))
    cases kind <;> exact yields_object
      (.member (text _) <| .member (text _) <| .member (text _) <|
        .member (yields_choice (by decide)) <| .member (yields_null _) <|
        .member (Shape.Yields.nullable type) <| .member properties .nil)
      (by decide) (by decide)

lemma Field.yields (field : Field) : shape.Yields field.toJson field.toJson := by
  have type : (Shape.openObject [("type", .anyText)]).Yields
      (.object [("type", .string field.type)]) (.object [("type", .string field.type)]) :=
    yields_object (.member (yields_anyText _) .nil) (by decide) (by decide)
  have sample : Shape.anyText.optional.Yields (.string ("sample_" ++ field.name))
      (.string ("sample_" ++ field.name)) := fun path => by
    simpa only [Shape.check] using yields_anyText _ path
  have recommended : (Shape.openObject [("type", .anyText)]).optional.Yields
      (.object [("type", .string field.type)]) (.object [("type", .string field.type)]) :=
    fun path => by simpa only [Shape.check] using type path
  exact yields_object
    (.member (yields_anyText _) <| .member sample <| .member recommended .nil)
    (by decide) (by decide)

lemma Table.yields (table : Table) : shape.Yields table.toJson table.toJson :=
  yields_object
    (.member (yields_anyText _) <| .member (yields_list fun field _ => field.yields) .nil)
    (by decide) (by decide)

lemma SourceSchema.infer_yields (kind : SourceKind) (tables : List Table) :
    shape.Yields (infer kind tables).toJson (infer kind tables).toJson := by
  have type : Shape.anyText.optional.Yields (.string kind.name) (.string kind.name) :=
    fun path => by simpa only [Shape.check] using yields_anyText _ path
  have tables : (Shape.optional (.listOf Table.shape)).Yields
      (.array ((Table.infer tables).map Table.toJson))
      (.array ((Table.infer tables).map Table.toJson)) := fun path => by
    simpa only [Shape.check] using yields_list (fun table _ => Table.yields table) path
  exact yields_object (.member type <| .member tables .nil) (by decide) (by decide)

end Made

section Built

variable {model : Model} {numbered : NumberedModel} {settings : Settings}

lemma ne_empty_of_not_blank {text : String} (h : Text.isBlank text = false) : text ≠ "" := by
  rintro rfl
  exact absurd h (by decide)

lemma exists_forKey_of_mem {kind : RuleKind} {rule : Rule} (member : rule ∈ numbered.rules kind) :
    ∃ number name owner keyId, rule = .forKey kind number name owner keyId ∧
      ∀ ref, owner = .node ref ∨ owner = .relationship ref → ref.text ≠ "" := by
  rcases List.mem_append.1 member with ofNode | ofRelationship
  · obtain ⟨entry, -, rfl⟩ := List.mem_map.1 ofNode
    refine ⟨_, _, _, _, rfl, ?_⟩
    rintro ref (same | same) <;> cases same
    simp [Ref.toId]
  · obtain ⟨entry, -, found⟩ := List.mem_filterMap.1 ofRelationship
    obtain ⟨key, -, rfl⟩ := Option.map_eq_some_iff.1 found
    refine ⟨_, _, _, _, rfl, ?_⟩
    rintro ref (same | same) <;> cases same
    simp [Ref.toId]

lemma chooseRules_cases (numbered : NumberedModel) (generated : List Rule)
    (stored : Option (List Rule)) :
    (∃ rules, stored = some rules ∧ (chooseRules numbered generated stored).1 = rules) ∨
      (chooseRules numbered generated stored).1 = generated := by
  cases stored with
  | none => exact .inr rfl
  | some rules =>
    rw [chooseRules]
    split
    · exact .inl ⟨rules, rfl, rfl⟩
    · exact .inr rfl

lemma forall_mem_chooseRules {P : Rule → Prop} {generated : List Rule}
    {stored : Option (List Rule)} (kept : ∀ rules ∈ stored, ∀ rule ∈ rules, P rule)
    (made : ∀ rule ∈ generated, P rule) :
    ∀ rule ∈ (chooseRules numbered generated stored).1, P rule := by
  rcases chooseRules_cases numbered generated stored with ⟨rules, given, chosen⟩ | chosen
  · rw [chosen]
    exact kept rules given
  · rw [chosen]
    exact made

lemma chooseRules_pass {kind : RuleKind} {rules : Option (List Rule)}
    (h : ∀ stored ∈ rules, ∀ rule ∈ stored, rule.Passes kind) :
    ∀ rule ∈ (chooseRules numbered (numbered.rules kind) rules).1, rule.Passes kind := by
  have made : ∀ rule ∈ numbered.rules kind, rule.Passes kind := by
    intro rule member
    obtain ⟨number, name, owner, keyId, rfl, ho⟩ := exists_forKey_of_mem member
    exact ⟨_, Rule.forKey_yields kind number name owner keyId ho⟩
  exact forall_mem_chooseRules h made

lemma chooseSource_pass {kind : SourceKind} {tables : List Table} {stored : Option SourceSchema}
    (h : ∀ schema ∈ stored, schema.Passes) : (chooseSource kind tables stored).Passes := by
  unfold chooseSource
  split
  · rename_i schema kept
    exact h schema (Option.filter_eq_some_iff.1 kept).1
  · exact ⟨_, SourceSchema.infer_yields _ _⟩

/-- The place of a node is a number: stored places are finite, and the grid has one for every
index. -/
lemma placement_isNumber (grid : Grid) (regular : grid.Regular)
    (finite : grid.spacing.isFinite = true) {entry : NumberedNode}
    (places : ∀ position, entry.node.metadata.place = some position ∨
      entry.node.metadata.diagramPosition? = some position → position.Finite) :
    (entry.placement grid).position.x.isNaN = false ∧
      (entry.placement grid).position.y.isNaN = false := by
  simp only [NumberedNode.placement]
  cases place : entry.node.metadata.place with
  | some position => exact (places position (.inl place)).isNumber
  | none =>
    cases drawn : entry.node.metadata.diagramPosition? with
    | some position => exact (places position (.inr drawn)).isNumber
    | none => exact regular.place_isNumber finite entry.index

lemma definitions_yield {definition : EntityDef} {properties : List Numbered}
    (hid : definition.id ≠ "") (ht : definition.token ≠ "")
    (same : definition.properties = properties.map Numbered.definition)
    (ids : ∀ n ∈ properties, n.id ≠ "") (valid : ∀ n ∈ properties, n.property.Valid) :
    EntityDef.shape.Yields definition.toJson definition.toJson := by
  refine EntityDef.yields hid ht fun p member => ?_
  rw [same] at member
  obtain ⟨n, inside, rfl⟩ := List.mem_map.1 member
  exact ⟨ids n inside, ne_empty_of_not_blank (valid n inside).name⟩

lemma mappings_yield (properties : List Numbered) :
    ∀ field ∈ properties.map Numbered.mapping, field.property.text ≠ "" := by
  intro field member
  obtain ⟨n, -, rfl⟩ := List.mem_map.1 member
  simp [Numbered.mapping, Ref.toId]

lemma valid_of_node (fits : numbered.FitsValid model) {entry : NumberedNode}
    (member : entry ∈ numbered.nodes) : ∀ n ∈ entry.properties, n.property.Valid := by
  intro n inside
  have listed : n.property ∈ entry.node.allProperties :=
    (fits.eachNode entry member).map_property ▸ List.mem_map_of_mem inside
  exact (fits.valid.nodes _ (fits.node_mem member)).properties.each _ listed

lemma valid_of_relationship (fits : numbered.FitsValid model)
    {entry : NumberedRelationship} (member : entry ∈ numbered.relationships) :
    ∀ n ∈ entry.properties, n.property.Valid := by
  intro n inside
  have listed : n.property ∈ entry.relationship.allProperties :=
    (fits.eachRelationship entry member).map_property ▸ List.mem_map_of_mem inside
  exact (fits.valid.relationships _ (fits.relationship_mem member)).properties.each _ listed

theorem build_passes (fits : numbered.FitsValid model)
    (positions : model.PositionsFinite)
    (accepted : ∀ stored ∈ model.metadata.referenceGraph, stored.Accepted)
    (regular : settings.grid.Regular) (finite : settings.grid.spacing.isFinite = true) :
    (build settings model numbered).1.Passes := by
  have stored := Stored.accepted_getD accepted
  have toId (id : String) : (Ref.toId id).text ≠ "" := by simp [Ref.toId]
  refine ⟨?_, ⟨?_, ?_, ?_, ?_, ?_, ?_⟩, ?_, ?_, ?_, ?_⟩
  · rintro places ⟨rfl⟩ place member
    obtain ⟨entry, inside, rfl⟩ := List.mem_map.1 member
    obtain ⟨hx, hy⟩ := placement_isNumber settings.grid regular finite
      (positions _ (fits.node_mem inside))
    exact Placement.yields hx hy
  · intro definition member
    obtain ⟨entry, inside, rfl⟩ := List.mem_map.1 member
    exact definitions_yield (append_ne_empty (by decide) _)
      (ne_empty_of_not_blank (fits.valid.nodes _ (fits.node_mem inside)).label) rfl
      (fits.node_id_ne_empty inside) (valid_of_node fits inside)
  · intro definition member
    obtain ⟨entry, inside, rfl⟩ := List.mem_map.1 member
    exact definitions_yield (append_ne_empty (by decide) _)
      (ne_empty_of_not_blank (fits.valid.relationships _ (fits.relationship_mem inside)).type) rfl
      (fits.relationship_id_ne_empty inside) (valid_of_relationship fits inside)
  · intro object member
    obtain ⟨entry, -, rfl⟩ := List.mem_map.1 member
    exact NodeObject.yields (append_ne_empty (by decide) _) (by
      intro ref listed
      obtain rfl := List.mem_singleton.1 listed
      exact toId _)
  · intro object member
    obtain ⟨entry, -, rfl⟩ := List.mem_map.1 member
    exact RelationshipObject.yields (append_ne_empty (by decide) _) (toId _) (toId _) (toId _)
  · rintro rules ⟨rfl⟩
    exact chooseRules_pass (stored.rules .constraint)
  · rintro rules ⟨rfl⟩
    exact chooseRules_pass (stored.rules .index)
  · intro key member
    obtain ⟨entry, -, rfl⟩ := List.mem_map.1 member
    exact NodeKey.yields (toId _) (toId _)
  · rintro schema ⟨rfl⟩
    exact chooseSource_pass stored.sourceSchema
  · intro mapping member
    obtain ⟨entry, -, rfl⟩ := List.mem_map.1 member
    exact NodeMapping.yields (toId _) (mappings_yield _)
  · intro mapping member
    obtain ⟨entry, -, rfl⟩ := List.mem_map.1 member
    exact RelationshipMapping.yields (toId _) (mappings_yield _)

/-- What comes out of the check still shows the numbered model. -/
theorem build_normal_shows (settings : Settings) (model : Model) (numbered : NumberedModel) :
    Shows settings.grid numbered (build settings model numbered).1.normal :=
  ⟨rfl, rfl, rfl, rfl, rfl, rfl, rfl, rfl⟩

end Built

theorem answer_write (model : Model) (asked : Option Json) :
    (write model asked).answer =
      (Settings.resolve asked >>= fun settings => (ofModel settings model).map Prod.fst) := by
  have last (made : ReferenceGraph × List Event) : AddsOnly (do
      made.2.forM Conversion.tell
      return made.1) :=
    (AddsOnly.tellAll made.2).bind fun _ => .pure made.1
  unfold write
  rw [answer_bind fun settings => (AddsOnly.lift (ofModel settings model)).bind last, answer_lift]
  congr 1
  funext settings
  rw [answer_bind last, answer_lift]
  cases ofModel settings model with
  | error e => rfl
  | ok made =>
    change (made.2.forM Conversion.tell >>= fun _ => pure made.1).answer = .ok made.1
    rw [answer_bind fun _ => AddsOnly.pure made.1, answer_tellAll]
    rfl

lemma answer_write_of_ofModel {model : Model} {numbered : NumberedModel}
    (made : NumberedModel.ofModel model = .ok numbered) {asked : Option Json} {settings : Settings}
    (resolved : Settings.resolve asked = .ok settings) :
    (write model asked).answer = .ok (build settings model numbered).1 := by
  rw [answer_write, resolved]
  change (ofModel settings model).map Prod.fst = .ok (build settings model numbered).1
  simp only [ofModel, made]
  rfl

/-- A valid model has a reference graph under all accepted settings. -/
theorem exists_answer_write {model : Model} (valid : model.Valid) {asked : Option Json}
    {settings : Settings} (resolved : Settings.resolve asked = .ok settings) :
    ∃ numbered : NumberedModel, numbered.FitsValid model ∧
      (write model asked).answer = .ok (build settings model numbered).1 := by
  obtain ⟨numbered, made⟩ := NumberedModel.exists_ofModel valid
  exact ⟨numbered, ⟨NumberedModel.fits_of_ofModel made, valid⟩,
    answer_write_of_ofModel made resolved⟩

end ReferenceGraph
end PropertyGraph

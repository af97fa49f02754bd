import PropertyGraph.Proofs.ReferenceGraph.RuleTargets
import PropertyGraph.Query

/-! Names of the constraints that are made for keys. They come from the label or the type alone,
in statements as in reference graphs, so two keyed relationships of one type share a name, and
so does a keyed relationship with a node whose label is its type. -/
namespace PropertyGraph

def Model.keyedTypes (model : Model) : List String :=
  model.relationships.filterMap fun r => r.key.map fun _ => r.type

namespace Query

/-- The names of the constraints of a model, those of nodes first. -/
def constraintNames (model : Model) : List String :=
  (model.labels ++ model.keyedTypes).map constraintName

/-- A statement that makes the constraint of a name unless there is one. -/
def Creates (statement name : String) : Prop :=
  ∃ rest, statement = "CREATE CONSTRAINT " ++ name ++ " IF NOT EXISTS FOR " ++ rest

lemma constraintName_injective : Function.Injective constraintName := fun _ _ same => by
  simpa [constraintName] using same

lemma creates_of_ending {ending rest : String} (name : String)
    (begins : " IF NOT EXISTS FOR " ++ rest = ending) (tail : String) :
    Creates ("CREATE CONSTRAINT " ++ name ++ ending ++ tail) name :=
  ⟨rest ++ tail, by simp only [← begins, String.append_assoc]⟩

lemma creates_nodeConstraint (node : Node) :
    Creates (nodeConstraint node ++ ";") (constraintName node.label) := by
  have begins : " IF NOT EXISTS FOR " ++ "(n:" = " IF NOT EXISTS FOR (n:" := by simp
  have made := creates_of_ending (constraintName node.label) begins
    (node.label ++ (") REQUIRE (n." ++ (node.key.name ++ (") IS NODE KEY" ++ ";"))))
  unfold nodeConstraint
  simpa only [String.append_assoc] using made

lemma creates_relationshipConstraint {relationship : Relationship} {statement : String}
    (keyed : relationshipConstraint relationship = some statement) :
    Creates (statement ++ ";") (constraintName relationship.type) := by
  obtain ⟨key, -, rfl⟩ := Option.map_eq_some_iff.1 keyed
  have begins : " IF NOT EXISTS FOR " ++ "()-[r:" = " IF NOT EXISTS FOR ()-[r:" := by simp
  have made := creates_of_ending (constraintName relationship.type) begins
    (relationship.type ++ ("]->() REQUIRE (r." ++ (key.name ++ (") IS RELATIONSHIP KEY" ++ ";"))))
  simpa only [String.append_assoc] using made

lemma creates_relationshipConstraints (relationships : List Relationship) :
    List.Forall₂ Creates ((relationships.filterMap relationshipConstraint).map (· ++ ";"))
      ((relationships.filterMap fun r => r.key.map fun _ => r.type).map constraintName) := by
  induction relationships with
  | nil => exact .nil
  | cons relationship rest ih =>
    cases keyed : relationship.key with
    | none => simpa [relationshipConstraint, keyed] using ih
    | some key =>
      obtain ⟨statement, made⟩ :
          ∃ statement, relationshipConstraint relationship = some statement := by
        simp [relationshipConstraint, keyed]
      rw [List.filterMap_cons_some made,
        List.filterMap_cons_some (by rw [keyed, Option.map_some])]
      exact .cons (creates_relationshipConstraint made) ih

/-- Statement for statement, the constraints of a model have the names listed. -/
lemma creates_constraints (model : Model) :
    List.Forall₂ Creates (constraints model) (constraintNames model) := by
  rw [constraints, constraintNames, List.map_append, List.map_append]
  refine List.rel_append ?_ (creates_relationshipConstraints model.relationships)
  rw [Model.labels, List.map_map, List.map_map, List.forall₂_map_left_iff,
    List.forall₂_map_right_iff, List.forall₂_same]
  exact fun node _ => creates_nodeConstraint node

end Query

namespace ReferenceGraph

variable {model : Model} {numbered : NumberedModel}

lemma Rule.name_forKey (kind : RuleKind) (number : Nat) (name : String) (owner : RuleOwner)
    (keyId : String) : (forKey kind number name owner keyId).name = name ++ kind.suffix := by
  cases kind <;> cases owner <;> rfl

lemma NumberedRelationship.Fits.key_map {nodes : List NumberedNode}
    {entry : NumberedRelationship} (fits : entry.Fits nodes) :
    entry.key.map Numbered.property = entry.relationship.key := by
  have keys := fits.key.properties
  cases known : entry.key <;> cases stored : entry.relationship.key <;> simp_all

lemma NumberedModel.Fits.map_name_rules (fits : numbered.Fits model) (kind : RuleKind) :
    (numbered.rules kind).map Rule.name =
      (model.labels ++ model.keyedTypes).map (· ++ kind.suffix) := by
  rw [rules, List.map_append, List.map_append, Model.labels, Model.keyedTypes, ← fits.nodes,
    ← fits.relationships, List.map_map, List.map_map, List.map_map, List.filterMap_map,
    List.map_filterMap, List.map_filterMap]
  refine congrArg₂ _ (List.map_congr_left fun entry _ => Rule.name_forKey ..)
    (List.filterMap_congr fun entry member => ?_)
  have key := (fits.eachRelationship entry member).key_map
  cases known : entry.key <;>
    simp [NumberedRelationship.rule?, known, ← key, Rule.name_forKey]

lemma map_name_constraints_of_write {asked : Option Json} {settings : Settings}
    (reachable : model.Reachable) (resolved : Settings.resolve asked = .ok settings)
    (unstored : ∀ stored ∈ model.metadata.referenceGraph, stored.constraints = none) :
    ∃ graph rules, (write model asked).answer = .ok graph ∧
      graph.schema.constraints = some rules ∧
      rules.map Rule.name = Query.constraintNames model := by
  obtain ⟨numbered, fits, written⟩ := exists_answer_write reachable.valid resolved
  have given : model.metadata.referenceGraph.bind (·.rules .constraint) = none :=
    Option.bind_eq_none_iff.2 unstored
  refine ⟨_, numbered.rules .constraint, written, ?_, fits.map_name_rules .constraint⟩
  have built := rules_build settings model numbered .constraint
  rwa [given, chooseRules] at built

end ReferenceGraph

namespace Query
open ReferenceGraph (write Rule)

/-- The constraints of a model, as statements and in a graph that has none stored, have the
names listed. They differ exactly if no two keyed relationships have one type and no such type
is a label. -/
theorem constraintNames_nodup_iff {model : Model} (reachable : model.Reachable) :
    List.Forall₂ Creates (constraints model) (constraintNames model) ∧
      (∀ asked settings, Settings.resolve asked = .ok settings →
        (∀ stored ∈ model.metadata.referenceGraph, stored.constraints = none) →
          ∃ graph rules, (write model asked).answer = .ok graph ∧
            graph.schema.constraints = some rules ∧
            rules.map Rule.name = constraintNames model) ∧
      ((constraintNames model).Nodup ↔
        model.keyedTypes.Nodup ∧ ∀ type ∈ model.keyedTypes, type ∉ model.labels) := by
  refine ⟨creates_constraints model, fun asked settings resolved unstored =>
    ReferenceGraph.map_name_constraints_of_write reachable resolved unstored, ?_⟩
  rw [constraintNames, List.nodup_map_iff constraintName_injective, List.nodup_append]
  have labels := reachable.valid.labels
  constructor
  · rintro ⟨-, types, apart⟩
    exact ⟨types, fun type keyed label => apart type label type keyed rfl⟩
  · rintro ⟨types, apart⟩
    exact ⟨labels, types, fun label there type keyed same => apart type keyed (same ▸ there)⟩

end Query

def Node.article : Node := ⟨"Article", .ofName "doi", [], .empty⟩

def Relationship.wroteBy (endLabel key : String) : Relationship :=
  ⟨"WROTE", "Author", endLabel, some (.ofName key), [], .empty⟩

/-- A model in which one relationship has a key. -/
def Model.dated : Model := ⟨[.author, .book], [.wroteBy "Book" "year"], .empty⟩

/-- A model in which relationships of one type between different labels have different keys. -/
def Model.writings : Model :=
  ⟨[.author, .book, .article], [.wroteBy "Book" "year", .wroteBy "Article" "month"], .empty⟩

lemma Relationship.wroteBy_reachable {endLabel key : String} (named : Text.isBlank key = false)
    (built : Relationship.build "WROTE" "Author" endLabel (some (.ofName key)) [] .empty =
      .ok (wroteBy endLabel key)) : (wroteBy endLabel key).Reachable :=
  .build (by simp [Property.ofName_built named]) (by simp) built

lemma Model.dated_reachable : dated.Reachable := by
  have book : (Relationship.wroteBy "Book" "year").Reachable :=
    Relationship.wroteBy_reachable rfl rfl
  have built : Model.build dated.nodes dated.relationships .empty = .ok dated := rfl
  refine .initial (.build ?_ ?_ built)
  · simp [dated, Node.author_reachable, Node.book_reachable]
  · simp [dated, book]

lemma Model.writings_reachable : writings.Reachable := by
  have article : Node.article.Reachable :=
    .build (Property.ofName_built rfl) (by simp)
      (show Node.build "Article" (.ofName "doi") [] .empty = _ from rfl)
  have book : (Relationship.wroteBy "Book" "year").Reachable :=
    Relationship.wroteBy_reachable rfl rfl
  have other : (Relationship.wroteBy "Article" "month").Reachable :=
    Relationship.wroteBy_reachable rfl rfl
  have built : Model.build writings.nodes writings.relationships .empty = .ok writings := rfl
  refine .initial (.build ?_ ?_ built)
  · simp [writings, article, Node.author_reachable, Node.book_reachable]
  · simp [writings, book, other]

namespace Query
open ReferenceGraph (write Rule)

theorem constraintNames_nodup_iff_dated :
    (constraintNames .dated).Nodup ∧ ∃ graph rules, (write .dated none).answer = .ok graph ∧
      graph.schema.constraints = some rules ∧ rules.map Rule.name =
        ["Author_constraint", "Book_constraint", "WROTE_constraint"] := by
  have resolved : Settings.resolve none = .ok Settings.standard := by decide +kernel
  obtain ⟨-, written, distinct⟩ := constraintNames_nodup_iff Model.dated_reachable
  obtain ⟨graph, rules, wrote, made, names⟩ := written none _ resolved (by rintro _ ⟨⟩)
  refine ⟨distinct.2 (by decide +kernel), graph, rules, wrote, made, ?_⟩
  rw [names]
  decide +kernel

/-- The constraint on another key of a type is made under the name of the first one. -/
theorem same_name_of_writings :
    Model.writings.Reachable ∧ Model.writings.metadata.referenceGraph = none ∧
      List.Forall₂ Creates (constraints .writings) ["Author_constraint", "Book_constraint",
        "Article_constraint", "WROTE_constraint", "WROTE_constraint"] ∧
      ∃ graph rules, (write .writings none).answer = .ok graph ∧
        graph.schema.constraints = some rules ∧ ¬ (rules.map Rule.name).Nodup := by
  have names : constraintNames .writings = ["Author_constraint", "Book_constraint",
      "Article_constraint", "WROTE_constraint", "WROTE_constraint"] := by decide +kernel
  have resolved : Settings.resolve none = .ok Settings.standard := by decide +kernel
  obtain ⟨graph, rules, wrote, made, same⟩ := ReferenceGraph.map_name_constraints_of_write
    Model.writings_reachable resolved (by rintro _ ⟨⟩)
  refine ⟨Model.writings_reachable, rfl, names ▸ creates_constraints .writings, graph, rules,
    wrote, made, ?_⟩
  rw [same, names]
  decide

end Query
end PropertyGraph

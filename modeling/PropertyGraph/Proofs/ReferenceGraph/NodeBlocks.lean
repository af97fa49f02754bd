import PropertyGraph.Proofs.Reachable
import PropertyGraph.Proofs.ReferenceGraph.Export
import PropertyGraph.Proofs.ReferenceGraph.FreshIds

/-! The blocks of a written graph that are about nodes. Relationships come after all nodes, so
they only matter for the ids that they reserve, and of these only which ones they are: neither
the order of the relationships nor how often an id is stored shows in these blocks. -/
namespace PropertyGraph.ReferenceGraph

/-- Two states of an export in which the same ids have been given out, and the same ones are
reserved. -/
structure Ids.Alike (first second : Ids) : Prop where
  used : first.used = second.used
  next : first.next = second.next
  reserved : ∀ id, id ∈ first.reserved ↔ id ∈ second.reserved

/-- The blocks about nodes are the same. -/
structure SameNodes (first second : ReferenceGraph) : Prop where
  nodeLabels : first.schema.nodeLabels = second.schema.nodeLabels
  nodeObjects : first.schema.nodeObjects = second.schema.nodeObjects
  nodeKeys : first.nodeKeys = second.nodeKeys
  nodeMappings : first.nodeMappings = second.nodeMappings
  placements : first.placements = second.placements

def relationshipIds (model : Model) : List String :=
  (model.relationships.flatMap Relationship.allProperties).filterMap Property.storedId?

namespace Ids.Alike

variable {first second : Ids}

lemma isTaken_eq (alike : first.Alike second) (id : String) :
    first.isTaken id = second.isTaken id := by
  rw [Bool.eq_iff_iff]
  simp [isTaken, alike.used, alike.reserved]

lemma nextFree {number : Nat} (alike : first.Alike second) (found : first.NextFree number) :
    second.NextFree number where
  reached := alike.next ▸ found.reached
  free := alike.isTaken_eq _ ▸ found.free
  passed earlier reached before :=
    alike.isTaken_eq _ ▸ found.passed earlier (alike.next ▸ reached) before

lemma fresh (alike : first.Alike second) :
    first.fresh.1 = second.fresh.1 ∧ first.fresh.2.Alike second.fresh.2 := by
  obtain ⟨number, found, made⟩ := first.exists_fresh_eq
  rw [made, (alike.nextFree found).fresh_eq]
  exact ⟨rfl, by rw [alike.used], rfl, alike.reserved⟩

lemma take (alike : first.Alike second) (property : Property) :
    (first.take property).1 = (second.take property).1 ∧
      (first.take property).2.Alike (second.take property).2 := by
  unfold Ids.take
  cases property.storedId? with
  | none => exact alike.fresh
  | some id =>
    simp only [← alike.used]
    split_ifs
    · exact alike.fresh
    · exact ⟨rfl, rfl, alike.next, alike.reserved⟩

lemma number (alike : first.Alike second) (isKey : Bool) (properties : List Property) :
    (ReferenceGraph.number first isKey properties).1 =
        (ReferenceGraph.number second isKey properties).1 ∧
      (ReferenceGraph.number first isKey properties).2.Alike
        (ReferenceGraph.number second isKey properties).2 := by
  induction properties generalizing first second with
  | nil => exact ⟨rfl, alike⟩
  | cons property rest ih =>
    obtain ⟨same, taken⟩ := alike.take property
    obtain ⟨others, after⟩ := ih taken
    exact ⟨by simp only [ReferenceGraph.number, same, others], after⟩

/-- Nodes are numbered alike in both states, and both states are alike behind them. -/
lemma numberNodes (alike : first.Alike second) (index : Nat) (nodes : List Node) :
    (ReferenceGraph.numberNodes first index nodes).1 =
        (ReferenceGraph.numberNodes second index nodes).1 ∧
      (ReferenceGraph.numberNodes first index nodes).2.Alike
        (ReferenceGraph.numberNodes second index nodes).2 := by
  induction nodes generalizing first second index with
  | nil => exact ⟨rfl, alike⟩
  | cons node rest ih =>
    obtain ⟨key, taken⟩ := alike.take node.key
    obtain ⟨properties, numbered⟩ := taken.number false node.properties
    obtain ⟨others, after⟩ := ih numbered (index + 1)
    exact ⟨by simp only [ReferenceGraph.numberNodes, key, properties, others], after⟩

end Ids.Alike

section Written

variable {first second : Model}

lemma Ids.alike_ofModel (nodes : first.nodes = second.nodes)
    (ids : ∀ id, id ∈ relationshipIds first ↔ id ∈ relationshipIds second) :
    (Ids.ofModel first).Alike (Ids.ofModel second) := by
  have parts (model : Model) (id : String) : id ∈ storedIds model ↔
      id ∈ (model.nodes.flatMap Node.allProperties).filterMap Property.storedId? ∨
        id ∈ relationshipIds model := by
    rw [storedIds, propertiesOf, List.mem_eraseDups, List.filterMap_append, List.mem_append]
    rfl
  refine ⟨rfl, rfl, fun id => ?_⟩
  change id ∈ storedIds first ↔ id ∈ storedIds second
  rw [parts, parts, nodes, ids]

lemma mem_relationshipIds_of_perm (permuted : first.relationships.Perm second.relationships)
    (id : String) : id ∈ relationshipIds first ↔ id ∈ relationshipIds second :=
  ((permuted.flatMap_right Relationship.allProperties).filterMap Property.storedId?).mem_iff

lemma NumberedModel.nodes_of_ofModel {model : Model} {numbered : NumberedModel}
    (made : ofModel model = .ok numbered) :
    numbered.nodes = (numberNodes (.ofModel model) 0 model.nodes).1 := by
  simp only [ofModel, Except.bind_eq_ok_iff] at made
  obtain ⟨relationships, -, finish⟩ := made
  cases finish
  rfl

lemma sameNodes_build {settings : Settings} {numbered other : NumberedModel}
    (nodes : numbered.nodes = other.nodes) :
    SameNodes (build settings first numbered).1 (build settings second other).1 := by
  constructor <;> simp only [build, NumberedModel.nodeLabels, nodes]

/-- Of the relationships of a model only the ids that they are stored with, in whatever order
and number, count for what is written about its nodes. -/
theorem sameNodes_of_write (reachable : first.Reachable) (reachable' : second.Reachable)
    (nodes : first.nodes = second.nodes)
    (ids : ∀ id, id ∈ relationshipIds first ↔ id ∈ relationshipIds second)
    {asked : Option Json} {settings : Settings}
    (resolved : Settings.resolve asked = .ok settings) :
    ∃ graph other, (write first asked).answer = .ok graph ∧
      (write second asked).answer = .ok other ∧ SameNodes graph other := by
  obtain ⟨numbered, made⟩ := NumberedModel.exists_ofModel reachable.valid
  obtain ⟨numbered', made'⟩ := NumberedModel.exists_ofModel reachable'.valid
  have same : numbered.nodes = numbered'.nodes := by
    rw [NumberedModel.nodes_of_ofModel made, NumberedModel.nodes_of_ofModel made', nodes]
    exact ((Ids.alike_ofModel nodes ids).numberNodes 0 second.nodes).1
  exact ⟨_, _, answer_write_of_ofModel made resolved, answer_write_of_ofModel made' resolved,
    sameNodes_build same⟩

/-- A relationship between an author and a book, with a property that is stored with an id. -/
def recorded (type name id : String) : Relationship :=
  ⟨type, "Author", "Book", none, [⟨name, "STRING", none, none, some ⟨some id, none⟩⟩], .empty⟩

/-- Two relationships that reserve the first ids that would be made up. -/
def readers : Model :=
  ⟨[.author, .book], [recorded "WROTE" "year" (freshId 1), recorded "READ" "page" (freshId 0)],
    .empty⟩

/-- The same model with its relationships in the other order. -/
def readersReversed : Model := { readers with relationships := readers.relationships.reverse }

lemma recorded_reachable {type name id : String} (named : Text.isBlank name = false)
    (built : Relationship.build type "Author" "Book" none
      (recorded type name id).properties .empty = .ok (recorded type name id)) :
    (recorded type name id).Reachable := by
  refine .build (by simp) (fun property member => ?_) built
  obtain rfl := List.mem_singleton.1 member
  exact ⟨⟨name, none, none, none, some ⟨some id, none⟩⟩, by simp only [Property.build, named]; rfl⟩

theorem sameNodes_of_write_readers :
    readers.relationships ≠ readersReversed.relationships ∧
      ∃ graph other, (write readers none).answer = .ok graph ∧
        (write readersReversed none).answer = .ok other ∧ SameNodes graph other ∧
        graph.schema.nodeLabels.map (·.properties.map PropertyDef.id) =
          [[freshId 2], [freshId 3, freshId 4]] := by
  have each : ∀ r ∈ readers.relationships, r.Reachable := by
    have wrote : (recorded "WROTE" "year" (freshId 1)).Reachable := recorded_reachable rfl rfl
    have read : (recorded "READ" "page" (freshId 0)).Reachable := recorded_reachable rfl rfl
    simp [readers, wrote, read]
  have nodes : ∀ n ∈ readers.nodes, n.Reachable := by
    simp [readers, Node.author_reachable, Node.book_reachable]
  have built : Model.build readers.nodes readers.relationships .empty = .ok readers := rfl
  have built' : Model.build readersReversed.nodes readersReversed.relationships .empty =
      .ok readersReversed := rfl
  have reachable : readers.Reachable := .initial (.build nodes each built)
  have reachable' : readersReversed.Reachable :=
    .initial (.build nodes (fun r member => each r (List.mem_reverse.1 member)) built')
  have permuted : readers.relationships.Perm readersReversed.relationships :=
    (List.reverse_perm _).symm
  have resolved : Settings.resolve none = .ok Settings.standard := by decide +kernel
  obtain ⟨graph, other, wrote, wrote', same⟩ := sameNodes_of_write reachable reachable' rfl
    (mem_relationshipIds_of_perm permuted) resolved
  have computed : (write readers none).answer.map (fun graph =>
      graph.schema.nodeLabels.map (·.properties.map PropertyDef.id)) =
        .ok [[freshId 2], [freshId 3, freshId 4]] := by
    decide +kernel
  rw [wrote] at computed
  exact ⟨by decide, graph, other, wrote, wrote', same, Except.ok.inj computed⟩

end Written
end PropertyGraph.ReferenceGraph

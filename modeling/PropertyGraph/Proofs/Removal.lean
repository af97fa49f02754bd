import PropertyGraph.Proofs.Construction

/-! What is gone when a node is removed: the node of that label and, if the removal cascades, the
relationships that start or end at it, and nothing else. -/
namespace PropertyGraph

/-- A relationship that does not start or end at the label. -/
def Relationship.Avoids (relationship : Relationship) (label : String) : Prop :=
  relationship.startLabel ≠ label ∧ relationship.endLabel ≠ label

instance (relationship : Relationship) (label : String) : Decidable (relationship.Avoids label) :=
  inferInstanceAs (Decidable (_ ∧ _))

lemma Relationship.touches_eq_false_iff {relationship : Relationship} {label : String} :
    relationship.touches label = false ↔ relationship.Avoids label := by
  simp [touches, Avoids]

/-- What is said of a relationship at the label. The start is looked at first. -/
inductive Relationship.Holds (relationship : Relationship) (label : String) : ModelError → Prop
  | start (starts : relationship.startLabel = label) :
      Holds relationship label (.danglingEnd relationship.pattern .start label)
  | finish (elsewhere : relationship.startLabel ≠ label) (ends : relationship.endLabel = label) :
      Holds relationship label (.danglingEnd relationship.pattern .finish label)

/-- What is said of the first of the relationships at the label. -/
def FirstHolding (relationships : List Relationship) (label : String) (error : ModelError) :
    Prop :=
  ∃ before relationship after, relationships = before ++ relationship :: after ∧
    (∀ earlier ∈ before, earlier.Avoids label) ∧ relationship.Holds label error

section Holding

variable {relationship : Relationship} {relationships : List Relationship} {label : String}
  {error : ModelError}

lemma Relationship.holds_iff :
    relationship.Holds label error ↔
      relationship.touches label = true ∧
        error = .danglingEnd relationship.pattern
          (if relationship.startLabel = label then .start else .finish) label := by
  constructor
  · rintro (starts | ⟨elsewhere, ends⟩)
    · simp [touches, starts]
    · simp [touches, elsewhere, ends]
  · rintro ⟨touches, rfl⟩
    split_ifs with starts
    · exact .start starts
    · exact .finish starts (by simpa [Relationship.touches, starts] using touches)

lemma firstHolding_iff :
    FirstHolding relationships label error ↔
      ∃ first, relationships.find? (·.touches label) = some first ∧ first.Holds label error := by
  simp only [FirstHolding, List.find?_eq_some_iff_append, Bool.not_eq_true',
    Relationship.touches_eq_false_iff]
  constructor
  · rintro ⟨before, first, after, split, avoiding, holds⟩
    exact ⟨first, ⟨(Relationship.holds_iff.1 holds).1, before, after, split, avoiding⟩, holds⟩
  · rintro ⟨first, ⟨-, before, after, split, avoiding⟩, holds⟩
    exact ⟨before, first, after, split, avoiding, holds⟩

lemma find?_touches_eq_none_iff :
    relationships.find? (·.touches label) = none ↔ ∀ r ∈ relationships, r.Avoids label := by
  simp only [List.find?_eq_none, Bool.not_eq_true, Relationship.touches_eq_false_iff]

lemma exists_firstHolding (held : ¬ ∀ r ∈ relationships, r.Avoids label) :
    ∃ error, FirstHolding relationships label error := by
  rw [← find?_touches_eq_none_iff, ← ne_eq, Option.ne_none_iff_exists'] at held
  obtain ⟨first, found⟩ := held
  have touches : first.touches label = true := by simpa using List.find?_some found
  exact ⟨_, firstHolding_iff.2 ⟨first, found, Relationship.holds_iff.2 ⟨touches, rfl⟩⟩⟩

end Holding

namespace Model

/-- What is left of a model without the nodes of that label and the relationships at them. -/
def without (model : Model) (label : String) : Model :=
  { model with
    nodes := model.nodes.filter (·.label ≠ label)
    relationships := model.relationships.filter (·.Avoids label) }

lemma without_comm (model : Model) (first second : String) :
    (model.without first).without second = (model.without second).without first := by
  simp only [without, List.filter_comm]

section Removing

variable {model next : Model} {label : String} {cascade : Bool} {error : ModelError}

/-- A removal is refused for the first relationship at the node, unless it cascades. -/
lemma removeNode_eq_error_iff :
    model.removeNode label cascade = .error error ↔
      cascade = false ∧ label ∈ model.labels ∧
        FirstHolding model.relationships label error := by
  rw [firstHolding_iff]
  unfold removeNode
  by_cases present : label ∈ model.labels
  · rw [if_neg (not_not.2 present)]
    cases cascade with
    | true => simp
    | false =>
      cases found : model.relationships.find? (·.touches label) with
      | none => simp
      | some first =>
        have touches : first.touches label = true := by simpa using List.find?_some found
        simp only [Except.error.injEq, present, true_and, Option.some.injEq, exists_eq_left',
          Relationship.holds_iff, touches]
        exact eq_comm
  · simp [present]

lemma removeNode_of_present (present : label ∈ model.labels)
    (free : cascade = true ∨ ∀ r ∈ model.relationships, r.Avoids label) :
    model.removeNode label cascade = .ok (model.detach label) := by
  unfold removeNode
  rw [if_neg (not_not.2 present)]
  rcases free with rfl | avoiding
  · simp [detach]
  · rw [find?_touches_eq_none_iff.2 avoiding]
    rfl

end Removing
end Model

namespace ValidModel
open Model (removeNode_eq_error_iff removeNode_of_present)

variable (model : ValidModel) {next : Model} {label : String} {cascade : Bool}

lemma avoids_of_not_mem (absent : label ∉ model.labels) :
    ∀ r ∈ model.relationships, r.Avoids label := by
  intro r member
  obtain ⟨start, finish⟩ := model.valid.ends r member
  exact ⟨fun same => absent (same ▸ start), fun same => absent (same ▸ finish)⟩

lemma without_of_not_mem (absent : label ∉ model.labels) :
    model.toModel.without label = model.toModel := by
  have nodes : ∀ n ∈ model.nodes, n.label ≠ label := by
    rintro n member rfl
    exact absent (List.mem_map_of_mem member)
  have relationships := model.avoids_of_not_mem absent
  rw [Model.without, List.filter_eq_self.2 (by simpa using nodes),
    List.filter_eq_self.2 (by simpa using relationships)]

/-- Labels are distinct, so it does not matter that only the first node is looked for. -/
lemma detach_eq_without (label : String) :
    model.toModel.detach label = model.toModel.without label := by
  have untouched (r : Relationship) : (!r.touches label) = decide (r.Avoids label) := by
    rw [Bool.eq_iff_iff, Bool.not_eq_true', Relationship.touches_eq_false_iff, decide_eq_true_eq]
  simp only [Model.detach, Model.without, eraseP_eq_filter_of_nodup model.valid.labels, untouched]

lemma removeNode_eq_ok_iff :
    model.toModel.removeNode label cascade = .ok next ↔
      (cascade = true ∨ ∀ r ∈ model.relationships, r.Avoids label) ∧
        next = model.toModel.without label := by
  constructor
  · intro removed
    constructor
    · by_contra held
      rw [not_or, Bool.not_eq_true] at held
      obtain ⟨error, first⟩ := exists_firstHolding held.2
      have present : label ∈ model.labels :=
        not_not.1 fun absent => held.2 (model.avoids_of_not_mem absent)
      rw [removeNode_eq_error_iff.2 ⟨held.1, present, first⟩] at removed
      cases removed
    · rcases Model.eq_of_removeNode removed with ⟨absent, rfl⟩ | ⟨-, rfl⟩
      · exact (model.without_of_not_mem absent).symm
      · exact model.detach_eq_without label
  · rintro ⟨free, rfl⟩
    by_cases present : label ∈ model.labels
    · rw [removeNode_of_present present free, detach_eq_without]
    · unfold Model.removeNode
      rw [if_pos present, model.without_of_not_mem present]

def without (label : String) : ValidModel :=
  ⟨model.toModel.without label, model.detach_eq_without label ▸ model.valid.detach label⟩

lemma attempt_removeNode_cascade (label : String) :
    (Edit.removeNode label true).attempt model.toModel = (.ok (), (model.without label).toModel) :=
  model.attempt_eq_ok_iff.2 (model.removeNode_eq_ok_iff.2 ⟨.inl rfl, rfl⟩)

lemma attemptAll_removeNode_cascade (first second : String) :
    Edit.attemptAll model.toModel [.removeNode first true, .removeNode second true] =
      ((model.without first).without second).toModel := by
  simp only [Edit.attemptAll, List.foldl_cons, List.foldl_nil, attempt_removeNode_cascade]

end ValidModel

namespace Edit

variable {model : Model}

/-- A node can be removed unless there are relationships at it and the removal does not cascade;
then the first of them is named and nothing changes. What is removed is the node and, if there
are any, the relationships at it; all others stay as they are, in their order. So it does not
matter in which order two removals cascade. -/
theorem attempt_removeNode_iff (reachable : model.Reachable) (label : String) (cascade : Bool) :
    (∀ error next, (removeNode label cascade).attempt model = (.error error, next) ↔
      (cascade = false ∧ label ∈ model.labels ∧
        FirstHolding model.relationships label error) ∧ next = model) ∧
    (∀ next, (removeNode label cascade).attempt model = (.ok (), next) ↔
      (cascade = true ∨ label ∉ model.labels ∨ ∀ r ∈ model.relationships, r.Avoids label) ∧
        next = model.without label) ∧
    ∀ other, attemptAll model [removeNode label true, removeNode other true] =
      attemptAll model [removeNode other true, removeNode label true] := by
  let whole : ValidModel := ⟨model, reachable.valid⟩
  refine ⟨fun error next => ?_, fun next => ?_, fun other => ?_⟩
  · rw [whole.attempt_eq_error_iff]
    exact and_congr_left' Model.removeNode_eq_error_iff
  · have unheld : label ∉ model.labels → ∀ r ∈ model.relationships, r.Avoids label :=
      whole.avoids_of_not_mem
    rw [whole.attempt_eq_ok_iff, or_iff_right_of_imp unheld]
    exact whole.removeNode_eq_ok_iff
  · have swapped := Model.without_comm model label other
    rw [whole.attemptAll_removeNode_cascade, whole.attemptAll_removeNode_cascade]
    exact swapped

end Edit

def Relationship.revises : Relationship := ⟨"REVISES", "Book", "Book", none, [], .empty⟩

def Relationship.quotes : Relationship := ⟨"QUOTES", "Book", "Author", none, [], .empty⟩

/-- Relationships in both directions, and one from a node to itself. -/
def Model.revisions : Model := ⟨[.author, .book], [.revises, .quotes, .wrote], .empty⟩

lemma Model.revisions_reachable : revisions.Reachable := by
  have revises : Relationship.build "REVISES" "Book" "Book" none [] .empty = .ok .revises := rfl
  have quotes : Relationship.build "QUOTES" "Book" "Author" none [] .empty = .ok .quotes := rfl
  have first : Relationship.revises.Reachable := .build (by simp) (by simp) revises
  have second : Relationship.quotes.Reachable := .build (by simp) (by simp) quotes
  have built : Model.build [.author, .book] [.revises, .quotes, .wrote] .empty =
      .ok revisions := rfl
  refine .initial (.build ?_ ?_ built)
  · simp [Node.author_reachable, Node.book_reachable]
  · simp [first, second, Relationship.wrote_reachable]

theorem Edit.attempt_removeNode_iff_revisions :
    Model.revisions.Reachable ∧
      (removeNode "Author" false).attempt .revisions =
        (.error (.danglingEnd Relationship.quotes.pattern .finish "Author"), .revisions) ∧
      (removeNode "Author" true).attempt .revisions =
        (.ok (), Model.revisions.without "Author") ∧
      Model.revisions.without "Author" = ⟨[.book], [.revises], .empty⟩ := by
  have reachable := Model.revisions_reachable
  have held : FirstHolding Model.revisions.relationships "Author"
      (.danglingEnd Relationship.quotes.pattern .finish "Author") :=
    ⟨[.revises], .quotes, [.wrote], rfl, by decide, .finish (by decide) rfl⟩
  obtain ⟨refused, -, -⟩ := attempt_removeNode_iff reachable "Author" false
  obtain ⟨-, removed, -⟩ := attempt_removeNode_iff reachable "Author" true
  exact ⟨reachable, (refused _ _).2 ⟨⟨rfl, by decide, held⟩, rfl⟩,
    (removed _).2 ⟨.inl rfl, rfl⟩, by decide⟩

end PropertyGraph

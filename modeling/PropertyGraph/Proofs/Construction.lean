import PropertyGraph.Proofs.Mutation

/-! Models built at once and models built step by step. A list of nodes and a list of
relationships are accepted as a whole exactly if they are accepted one after the other, whatever
the order within each list, and the model is the same. -/
namespace PropertyGraph

namespace Edit

def applyAll (model : Model) (edits : List Edit) : Except ModelError Model :=
  edits.foldlM apply model

def additions (nodes : List Node) (relationships : List Relationship) : List Edit :=
  nodes.map addNode ++ relationships.map addRelationship

end Edit

namespace Edit

section Runs

variable {model next : Model} {nodes : List Node} {relationships : List Relationship}

lemma applyAll_cons_eq_ok_iff {edit : Edit} {edits : List Edit} :
    applyAll model (edit :: edits) = .ok next ↔
      ∃ mid, edit.apply model = .ok mid ∧ applyAll mid edits = .ok next := by
  rw [applyAll, List.foldlM_cons, Except.bind_eq_ok_iff]
  rfl

lemma applyAll_append_eq_ok_iff {first rest : List Edit} :
    applyAll model (first ++ rest) = .ok next ↔
      ∃ mid, applyAll model first = .ok mid ∧ applyAll mid rest = .ok next := by
  rw [applyAll, List.foldlM_append, Except.bind_eq_ok_iff]
  rfl

/-- Additions that take what fits the model they meet and let the model grow by it; what fits in
a run is what fits one by one. -/
structure Extends {α : Type} (add : α → Edit) (grow : Model → List α → Model)
    (Fits : Model → List α → Prop) : Prop where
  step : ∀ model x next,
    (add x).apply model = .ok next ↔ Fits model [x] ∧ next = grow model [x]
  grow_nil : ∀ model, grow model [] = model
  grow_cons : ∀ model x xs, grow model (x :: xs) = grow (grow model [x]) xs
  fits_cons : ∀ model x xs, Fits model (x :: xs) ↔ Fits model [x] ∧ Fits (grow model [x]) xs

/-- A run of additions takes what fits the model that it starts from. -/
lemma Extends.applyAll_map_eq_ok_iff {α : Type} {add : α → Edit}
    {grow : Model → List α → Model} {Fits : Model → List α → Prop}
    (extending : Extends add grow Fits) {xs : List α} (start : Fits model []) :
    applyAll model (xs.map add) = .ok next ↔ Fits model xs ∧ next = grow model xs := by
  induction xs generalizing model with
  | nil => simp [applyAll, start, extending.grow_nil, pure, Except.pure, eq_comm]
  | cons x xs ih =>
    rw [List.map_cons, applyAll_cons_eq_ok_iff, extending.fits_cons,
      extending.grow_cons model x xs]
    constructor
    · rintro ⟨mid, made, more⟩
      obtain ⟨fits, rfl⟩ := (extending.step _ _ _).1 made
      have again := ((extending.fits_cons _ _ _).1 fits).2
      obtain ⟨others, rfl⟩ := (ih again).1 more
      exact ⟨⟨fits, others⟩, rfl⟩
    · rintro ⟨⟨fits, others⟩, rfl⟩
      have again := ((extending.fits_cons _ _ _).1 fits).2
      exact ⟨_, (extending.step _ _ _).2 ⟨fits, rfl⟩, (ih again).2 ⟨others, rfl⟩⟩

lemma extends_addNode : Extends addNode
    (fun model nodes => { model with nodes := model.nodes ++ nodes })
    (fun model nodes => (model.labels ++ nodes.map Node.label).Nodup) where
  step _ _ _ := Model.addNode_eq_ok_iff
  grow_nil := by simp
  grow_cons := by simp
  fits_cons model node rest := by
    simpa [Model.labels] using
      nodup_append_cons_iff model.labels node.label (rest.map Node.label)

lemma extends_addRelationship : Extends addRelationship
    (fun model rs => { model with relationships := model.relationships ++ rs })
    (fun model rs => (model.patterns ++ rs.map Relationship.pattern).Nodup ∧
      ∀ r ∈ rs, r.startLabel ∈ model.labels ∧ r.endLabel ∈ model.labels) where
  step _ _ _ := by simpa [apply, and_assoc] using Model.addRelationship_eq_ok_iff
  grow_nil := by simp
  grow_cons := by simp
  fits_cons model r rest := by
    have patterns :=
      nodup_append_cons_iff model.patterns r.pattern (rest.map Relationship.pattern)
    have grown : Model.patterns { model with relationships := model.relationships ++ [r] } =
        model.patterns ++ [r.pattern] := by simp [Model.patterns]
    rw [List.map_cons, patterns, List.forall_mem_cons, grown]
    simp only [List.map_cons, List.map_nil, List.mem_singleton, forall_eq]
    exact and_and_and_comm

end Runs

section Construction

variable {model : Model} {nodes : List Node} {relationships : List Relationship}

lemma applyAll_additions_eq_ok_iff :
    applyAll .empty (additions nodes relationships) = .ok model ↔
      Consistent (nodes.map Node.label) (relationships.map Relationship.link) ∧
        model = ⟨nodes, relationships, .empty⟩ := by
  have added (mid : Model) : applyAll .empty (nodes.map addNode) = .ok mid ↔
      (nodes.map Node.label).Nodup ∧ mid = ⟨nodes, [], .empty⟩ :=
    extends_addNode.applyAll_map_eq_ok_iff List.nodup_nil
  have related : applyAll ⟨nodes, [], .empty⟩ (relationships.map addRelationship) = .ok model ↔
      ((relationships.map Relationship.pattern).Nodup ∧ ∀ r ∈ relationships,
        r.startLabel ∈ nodes.map Node.label ∧ r.endLabel ∈ nodes.map Node.label) ∧
      model = ⟨nodes, relationships, .empty⟩ :=
    extends_addRelationship.applyAll_map_eq_ok_iff ⟨List.nodup_nil, by simp⟩
  rw [additions, applyAll_append_eq_ok_iff, Model.consistent_iff]
  constructor
  · rintro ⟨mid, first, rest⟩
    obtain ⟨labels, rfl⟩ := (added mid).1 first
    obtain ⟨others, rfl⟩ := related.1 rest
    exact ⟨⟨labels, others⟩, rfl⟩
  · rintro ⟨⟨labels, others⟩, rfl⟩
    exact ⟨_, (added _).2 ⟨labels, rfl⟩, related.2 ⟨others, rfl⟩⟩

lemma consistent_of_perm {nodes' : List Node} {relationships' : List Relationship}
    (sameNodes : nodes.Perm nodes') (sameRelationships : relationships.Perm relationships')
    (consistent : Consistent (nodes.map Node.label) (relationships.map Relationship.link)) :
    Consistent (nodes'.map Node.label) (relationships'.map Relationship.link) := by
  have labels := sameNodes.map Node.label
  have links := sameRelationships.map Relationship.link
  refine ⟨labels.nodup_iff.1 consistent.labelsOnce,
    (links.map Link.pattern).nodup_iff.1 consistent.patternsOnce, fun link member => ?_⟩
  rw [← labels.mem_iff, ← labels.mem_iff]
  exact consistent.endsKnown link (links.mem_iff.2 member)

/-- A model is built of two lists exactly if it can be built up from nothing by their elements
one after the other. Both ways lead to the model that has just these lists, and neither minds
the order within a list. -/
theorem build_iff_applyAll (nodes : List Node) (relationships : List Relationship) :
    (∀ model, Model.build nodes relationships .empty = .ok model ↔
      applyAll .empty (additions nodes relationships) = .ok model) ∧
    (∀ model, Model.build nodes relationships .empty = .ok model →
      model.nodes = nodes ∧ model.relationships = relationships) ∧
    ∀ nodes' relationships', nodes.Perm nodes' → relationships.Perm relationships' →
      ((∃ model, Model.build nodes relationships .empty = .ok model) ↔
        ∃ model, Model.build nodes' relationships' .empty = .ok model) ∧
      ((∃ model, applyAll .empty (additions nodes relationships) = .ok model) ↔
        ∃ model, applyAll .empty (additions nodes' relationships') = .ok model) := by
  refine ⟨fun model => ?_, fun model built => ?_, fun nodes' relationships' sn sr => ?_⟩
  · rw [Model.build_eq_ok_iff, applyAll_additions_eq_ok_iff]
  · obtain ⟨-, rfl⟩ := Model.build_eq_ok_iff.1 built
    exact ⟨rfl, rfl⟩
  · have same : Consistent (nodes.map Node.label) (relationships.map Relationship.link) ↔
        Consistent (nodes'.map Node.label) (relationships'.map Relationship.link) :=
      ⟨consistent_of_perm sn sr, consistent_of_perm sn.symm sr.symm⟩
    simp only [Model.build_eq_ok_iff, applyAll_additions_eq_ok_iff, exists_and_left,
      exists_eq, and_true]
    exact ⟨same, same⟩

/-- A relationship cannot be added before the nodes at its ends. -/
theorem build_iff_applyAll_library :
    applyAll .empty (additions [.author, .book] [.wrote]) = .ok .library ∧
      (∃ model, applyAll .empty (additions [.book, .author] [.wrote]) = .ok model) ∧
      ∀ model, applyAll .empty (additions [.author] [.wrote]) ≠ .ok model := by
  have built : Model.build [.author, .book] [.wrote] .empty = .ok .library := rfl
  have swapped : [Node.author, .book].Perm [.book, .author] := .swap ..
  obtain ⟨steps, -, reordered⟩ := build_iff_applyAll [.author, .book] [.wrote]
  refine ⟨(steps _).1 built, (reordered _ _ swapped (.refl _)).2.1 ⟨_, (steps _).1 built⟩, ?_⟩
  intro model added
  have whole := ((build_iff_applyAll [.author] [.wrote]).1 model).2 added
  cases whole

end Construction
end Edit
end PropertyGraph

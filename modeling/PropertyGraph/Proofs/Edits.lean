import PropertyGraph.Proofs.Validity

/-! Every operation on models keeps their invariants. -/
namespace PropertyGraph
namespace Model

theorem build_eq_ok_iff {nodes : List Node} {relationships : List Relationship}
    {metadata : ModelMetadata} {model : Model} :
    build nodes relationships metadata = .ok model ↔
      Consistent (nodes.map Node.label) (relationships.map Relationship.link) ∧
        model = ⟨nodes, relationships, metadata⟩ := by
  have checked (u : Unit) : checkModel (nodes.map Node.label)
      (relationships.map Relationship.link) = .ok u ↔ _ := checkModel_eq_ok_iff
  simp only [build, Except.map_eq_ok_iff, checked, exists_const, @eq_comm _ model]

theorem valid_of_build {nodes : List Node} {relationships : List Relationship}
    {metadata : ModelMetadata} {model : Model} (hn : ∀ n ∈ nodes, n.Valid)
    (hr : ∀ r ∈ relationships, r.Valid)
    (built : build nodes relationships metadata = .ok model) : model.Valid := by
  obtain ⟨consistent, rfl⟩ := build_eq_ok_iff.1 built
  exact ⟨consistent, hn, hr⟩

theorem addNode_eq_ok_iff {model next : Model} {node : Node} :
    model.addNode node = .ok next ↔
      (model.labels ++ [node.label]).Nodup ∧
        next = { model with nodes := model.nodes ++ [node] } := by
  have checked (u : Unit) : checkLabels (model.labels ++ [node.label]) = .ok u ↔ _ :=
    checkLabels_eq_ok_iff
  simp only [addNode, Except.map_eq_ok_iff, checked]
  constructor
  · rintro ⟨_, distinct, rfl⟩
    exact ⟨distinct, rfl⟩
  · rintro ⟨distinct, rfl⟩
    exact ⟨(), distinct, rfl⟩

theorem addRelationship_eq_ok_iff {model next : Model} {relationship : Relationship} :
    model.addRelationship relationship = .ok next ↔
      (model.patterns ++ [relationship.pattern]).Nodup ∧
        (relationship.startLabel ∈ model.labels ∧ relationship.endLabel ∈ model.labels) ∧
        next = { model with relationships := model.relationships ++ [relationship] } := by
  have patterns (u : Unit) : checkPatterns (model.patterns ++ [relationship.pattern]) = .ok u ↔ _ :=
    checkPatterns_eq_ok_iff
  have ends (u : Unit) : checkEnds model.labels [relationship.link] = .ok u ↔ _ :=
    checkEnds_eq_ok_iff
  simp only [addRelationship, Except.bind_eq_ok_iff, patterns, ends, List.mem_singleton,
    forall_eq, pure, Except.pure, Except.ok.injEq]
  constructor
  · rintro ⟨_, distinct, _, known, rfl⟩
    exact ⟨distinct, known, rfl⟩
  · rintro ⟨distinct, known, rfl⟩
    exact ⟨(), distinct, (), known, rfl⟩

/-- The model without a node and the relationships at it. -/
def detach (model : Model) (label : String) : Model :=
  { model with
    nodes := model.nodes.eraseP (·.label = label)
    relationships := model.relationships.filter (!·.touches label) }

theorem eq_of_removeNode {model next : Model} {label : String} {cascade : Bool}
    (removed : model.removeNode label cascade = .ok next) :
    (label ∉ model.labels ∧ next = model) ∨
      (label ∈ model.labels ∧ next = model.detach label) := by
  unfold removeNode at removed
  by_cases present : label ∈ model.labels
  · rw [if_neg (not_not.2 present)] at removed
    split at removed
    · cases removed
    · cases removed
      exact .inr ⟨present, rfl⟩
  · rw [if_pos present] at removed
    cases removed
    exact .inl ⟨present, rfl⟩

theorem node_eq_ok_iff {model : Model} {label : String} {node : Node} :
    model.node label = .ok node ↔ model.node? label = some node := by
  unfold Model.node
  split <;> simp_all

theorem relationship_eq_ok_iff {model : Model} {type startLabel endLabel : String}
    {relationship : Relationship} :
    model.relationship type startLabel endLabel = .ok relationship ↔
      model.relationship? type startLabel endLabel = some relationship := by
  unfold Model.relationship
  split <;> simp_all

theorem labels_replaceNode (model : Model) (node : Node) :
    (model.replaceNode node).labels = model.labels := by
  simp only [labels, replaceNode, List.map_map]
  refine List.map_congr_left fun n _ => ?_
  by_cases same : n.label = node.label <;> simp [same]

theorem mem_replaceNode {model : Model} {node n : Node}
    (member : n ∈ (model.replaceNode node).nodes) : n = node ∨ n ∈ model.nodes := by
  obtain ⟨old, present, rfl⟩ := List.mem_map.1 member
  split_ifs
  · exact .inl rfl
  · exact .inr present

theorem patterns_replaceRelationship (model : Model) (relationship : Relationship) :
    (model.replaceRelationship relationship).patterns = model.patterns := by
  simp only [patterns, replaceRelationship, List.map_map]
  refine List.map_congr_left fun r _ => ?_
  by_cases same : r.pattern = relationship.pattern <;> simp [same]

theorem mem_replaceRelationship {model : Model} {relationship r : Relationship}
    (member : r ∈ (model.replaceRelationship relationship).relationships) :
    r = relationship ∨ r ∈ model.relationships := by
  obtain ⟨old, present, rfl⟩ := List.mem_map.1 member
  split_ifs
  · exact .inl rfl
  · exact .inr present

namespace Valid

variable {model next : Model}

theorem addNode {node : Node} (valid : model.Valid) (hn : node.Valid)
    (added : model.addNode node = .ok next) : next.Valid := by
  obtain ⟨distinct, rfl⟩ := addNode_eq_ok_iff.1 added
  refine ⟨consistent_iff.2 ⟨?_, valid.patterns, fun r hr => ?_⟩, ?_, valid.relationships⟩
  · simpa [Model.labels] using distinct
  · have := valid.ends r hr
    simp only [Model.labels, List.map_append, List.mem_append] at this ⊢
    exact ⟨.inl this.1, .inl this.2⟩
  · simpa [or_imp, forall_and] using And.intro valid.nodes hn

theorem addRelationship {relationship : Relationship} (valid : model.Valid)
    (hr : relationship.Valid) (added : model.addRelationship relationship = .ok next) :
    next.Valid := by
  obtain ⟨distinct, ends, rfl⟩ := addRelationship_eq_ok_iff.1 added
  refine ⟨consistent_iff.2 ⟨valid.labels, ?_, fun r member => ?_⟩, valid.nodes, ?_⟩
  · simpa [Model.patterns] using distinct
  · rcases List.mem_append.1 member with old | new
    · exact valid.ends r old
    · rw [List.mem_singleton.1 new]
      exact ends
  · simpa [or_imp, forall_and] using And.intro valid.relationships hr

theorem detach (valid : model.Valid) (label : String) : (model.detach label).Valid := by
  have fewer : (model.nodes.eraseP (·.label = label)).Sublist model.nodes :=
    List.eraseP_sublist
  have kept : ∀ other ∈ model.labels, other ≠ label → other ∈ (model.detach label).labels := by
    intro other member different
    obtain ⟨n, hn, rfl⟩ := List.mem_map.1 member
    exact List.mem_map.2 ⟨n, (List.mem_eraseP_of_neg (by simpa using different)).2 hn, rfl⟩
  refine ⟨consistent_iff.2 ⟨valid.labels.sublist (fewer.map _),
      valid.patterns.sublist (List.filter_sublist.map _), fun r hr => ?_⟩,
    fun n hn => valid.nodes n (fewer.subset hn),
    fun r hr => valid.relationships r (List.mem_filter.1 hr).1⟩
  obtain ⟨member, free⟩ := List.mem_filter.1 hr
  simp only [Relationship.touches, Bool.not_or, Bool.and_eq_true, Bool.not_eq_true',
    decide_eq_false_iff_not] at free
  have := valid.ends r member
  exact ⟨kept _ this.1 free.1, kept _ this.2 free.2⟩

theorem removeNode {label : String} {cascade : Bool} (valid : model.Valid)
    (removed : model.removeNode label cascade = .ok next) : next.Valid := by
  rcases eq_of_removeNode removed with ⟨-, rfl⟩ | ⟨-, rfl⟩
  · exact valid
  · exact valid.detach label

theorem removeRelationship (valid : model.Valid) (type startLabel endLabel : String) :
    (model.removeRelationship type startLabel endLabel).Valid := by
  have fewer : (model.removeRelationship type startLabel endLabel).relationships.Sublist
      model.relationships := List.eraseP_sublist
  exact ⟨consistent_iff.2 ⟨valid.labels, valid.patterns.sublist (fewer.map _),
      fun r hr => valid.ends r (fewer.subset hr)⟩,
    valid.nodes, fun r hr => valid.relationships r (fewer.subset hr)⟩

theorem replaceNode {node : Node} (valid : model.Valid) (hn : node.Valid) :
    (model.replaceNode node).Valid := by
  refine ⟨(labels_replaceNode model node).symm ▸ valid.consistent, fun n member => ?_,
    valid.relationships⟩
  rcases mem_replaceNode member with rfl | old
  · exact hn
  · exact valid.nodes n old

theorem replaceRelationship {old relationship : Relationship} (valid : model.Valid)
    (present : old ∈ model.relationships) (sameStart : relationship.startLabel = old.startLabel)
    (sameEnd : relationship.endLabel = old.endLabel) (hr : relationship.Valid) :
    (model.replaceRelationship relationship).Valid := by
  refine ⟨consistent_iff.2 ⟨valid.labels, ?_, fun r member => ?_⟩, valid.nodes,
    fun r member => ?_⟩
  · have patterns := patterns_replaceRelationship model relationship
    exact Eq.subst (motive := List.Nodup) patterns.symm valid.patterns
  · rcases mem_replaceRelationship member with rfl | kept
    · rw [sameStart, sameEnd]
      exact valid.ends old present
    · exact valid.ends r kept
  · rcases mem_replaceRelationship member with rfl | kept
    · exact hr
    · exact valid.relationships r kept

theorem node (valid : model.Valid) {label : String} {node : Node}
    (found : model.node label = .ok node) : node.Valid :=
  valid.nodes node (List.mem_of_find?_eq_some (node_eq_ok_iff.1 found))

theorem relationship (valid : model.Valid) {type startLabel endLabel : String}
    {relationship : Relationship}
    (found : model.relationship type startLabel endLabel = .ok relationship) :
    relationship ∈ model.relationships ∧ relationship.Valid := by
  have member := List.mem_of_find?_eq_some (relationship_eq_ok_iff.1 found)
  exact ⟨member, valid.relationships relationship member⟩

end Valid
end Model
end PropertyGraph

import PropertyGraph.Proofs.Removal

/-! Removals that take back additions. What an addition brings in is new by the name under which
it is removed again, so its removal finds just this and leaves the model that was there before. -/
namespace PropertyGraph

lemma eraseP_concat_of_new {key : Option Property} {properties : List Property}
    {property : Property} (new : property.name ∉ (withKey key properties).map Property.name) :
    (properties ++ [property]).eraseP (·.name = property.name) = properties := by
  rw [withKey, List.map_append, List.mem_append, not_or] at new
  exact eraseP_concat_of_not_mem new.2

lemma Node.removeProperty_addProperty {node changed : Node} {property : Property}
    (added : node.addProperty property = .ok changed) :
    changed.removeProperty property.name = node := by
  obtain ⟨new, rfl⟩ := addProperty_eq_ok_iff.1 added
  rw [removeProperty, appendProperty, eraseP_concat_of_new new]

lemma Relationship.removeProperty_addProperty {relationship changed : Relationship}
    {property : Property} (added : relationship.addProperty property = .ok changed) :
    changed.removeProperty property.name = relationship := by
  obtain ⟨new, rfl⟩ := addProperty_eq_ok_iff.1 added
  rw [removeProperty, appendProperty, eraseP_concat_of_new new]

namespace Model

variable {model next : Model}

lemma removeRelationship_addRelationship {relationship : Relationship}
    (added : model.addRelationship relationship = .ok next) :
    next.removeRelationship relationship.type relationship.startLabel relationship.endLabel =
      model := by
  obtain ⟨distinct, -, rfl⟩ := addRelationship_eq_ok_iff.1 added
  have erased : (model.relationships ++ [relationship]).eraseP
      (·.pattern = relationship.pattern) = model.relationships :=
    eraseP_concat_of_not_mem (not_mem_of_nodup_concat distinct)
  rw [removeRelationship]
  exact congrArg (fun rs => { model with relationships := rs }) erased

lemma node_replaceNode {label : String} {node changed : Node}
    (found : model.node label = .ok node) (same : changed.label = node.label) :
    (model.replaceNode changed).node label = .ok changed := by
  rw [node_eq_ok_iff] at found ⊢
  have named : node.label = label := by simpa using List.find?_some found
  rw [node?, replaceNode, same, named]
  exact find?_map_ite found (same.trans named)

lemma replaceNode_replaceNode {first second : Node} (same : first.label = second.label) :
    (model.replaceNode first).replaceNode second = model.replaceNode second := by
  simp only [replaceNode, same, map_ite_map_ite same]

lemma replaceNode_eq_self (labels : model.labels.Nodup) {label : String} {node : Node}
    (found : model.node label = .ok node) : model.replaceNode node = model := by
  rw [node_eq_ok_iff] at found
  have named : node.label = label := by simpa using List.find?_some found
  rw [replaceNode, named, map_ite_eq_self labels found]

lemma relationship_replaceRelationship {type startLabel endLabel : String}
    {relationship changed : Relationship}
    (found : model.relationship type startLabel endLabel = .ok relationship)
    (same : changed.pattern = relationship.pattern) :
    (model.replaceRelationship changed).relationship type startLabel endLabel = .ok changed := by
  rw [relationship_eq_ok_iff] at found ⊢
  have named : relationship.pattern = pattern startLabel type endLabel := by
    simpa using List.find?_some found
  rw [relationship?, replaceRelationship, same, named]
  exact find?_map_ite found (same.trans named)

lemma replaceRelationship_replaceRelationship {first second : Relationship}
    (same : first.pattern = second.pattern) :
    (model.replaceRelationship first).replaceRelationship second =
      model.replaceRelationship second := by
  simp only [replaceRelationship, same, map_ite_map_ite same]

lemma replaceRelationship_eq_self (patterns : model.patterns.Nodup)
    {type startLabel endLabel : String} {relationship : Relationship}
    (found : model.relationship type startLabel endLabel = .ok relationship) :
    model.replaceRelationship relationship = model := by
  rw [relationship_eq_ok_iff] at found
  have named : relationship.pattern = pattern startLabel type endLabel := by
    simpa using List.find?_some found
  rw [replaceRelationship, named, map_ite_eq_self patterns found]

end Model

lemma ValidModel.removeNode_addNode (model : ValidModel) {node : Node} {next : Model}
    (added : model.toModel.addNode node = .ok next) :
    next.removeNode node.label false = .ok model.toModel := by
  obtain ⟨distinct, rfl⟩ := Model.addNode_eq_ok_iff.1 added
  have fresh : node.label ∉ model.labels := not_mem_of_nodup_concat distinct
  have avoiding := model.avoids_of_not_mem fresh
  have untouched : model.relationships.filter (!·.touches node.label) = model.relationships := by
    refine List.filter_eq_self.2 fun r member => ?_
    rw [Relationship.touches_eq_false_iff.2 (avoiding r member)]
    rfl
  have present : node.label ∈ Model.labels { model.toModel with nodes := model.nodes ++ [node] } := by
    simp [Model.labels]
  refine (Model.removeNode_of_present present (.inr avoiding)).trans ?_
  rw [Model.detach, eraseP_concat_of_not_mem fresh, untouched]

namespace Edit

variable {model next : Model}

/-- A property that is taken out again leaves the entity, and so the model, that it came to.
Labels and patterns are the same all the time. -/
lemma removeProperty_addProperty (labels : model.labels.Nodup) (patterns : model.patterns.Nodup)
    {place : Place} {property : Property}
    (added : (addProperty place property).apply model = .ok next) :
    next.labels = model.labels ∧ next.patterns = model.patterns ∧
      (removeProperty place property.name).apply next = .ok model := by
  cases place with
  | node label =>
    simp only [apply, Except.bind_eq_ok_iff] at added
    obtain ⟨node, found, changed, grown, finish⟩ := added
    cases finish
    obtain ⟨-, made⟩ := Node.addProperty_eq_ok_iff.1 grown
    have same : changed.label = node.label := by
      rw [made]
      rfl
    have there := Model.node_replaceNode found same
    refine ⟨Model.labels_replaceNode model changed, rfl, ?_⟩
    simp only [apply, there, Node.removeProperty_addProperty grown, bind, Except.bind]
    rw [Model.replaceNode_replaceNode same, Model.replaceNode_eq_self labels found]
    rfl
  | relationship type startLabel endLabel =>
    simp only [apply, Except.bind_eq_ok_iff] at added
    obtain ⟨relationship, found, changed, grown, finish⟩ := added
    cases finish
    obtain ⟨-, made⟩ := Relationship.addProperty_eq_ok_iff.1 grown
    have same : changed.pattern = relationship.pattern := by
      rw [made]
      rfl
    have there := Model.relationship_replaceRelationship found same
    refine ⟨rfl, Model.patterns_replaceRelationship model changed, ?_⟩
    simp only [apply, there, Relationship.removeProperty_addProperty grown, bind, Except.bind]
    rw [Model.replaceRelationship_replaceRelationship same,
      Model.replaceRelationship_eq_self patterns found]
    rfl

/-- What has been added to a model, be it a node, a relationship or a property of one of them,
is removed again by its name, and the model is as it was. -/
theorem attempt_removal_of_addition (reachable : model.Reachable) :
    (∀ node next, (addNode node).attempt model = (.ok (), next) →
      (removeNode node.label false).attempt next = (.ok (), model)) ∧
    (∀ relationship next, (addRelationship relationship).attempt model = (.ok (), next) →
      (removeRelationship relationship.type relationship.startLabel
        relationship.endLabel).attempt next = (.ok (), model)) ∧
    (∀ place property next, (addProperty place property).attempt model = (.ok (), next) →
      (removeProperty place property.name).attempt next = (.ok (), model)) ∧
    (∀ node ∈ model.nodes, model.entity (.node node.label) = .ok (.node node)) ∧
    ∀ r ∈ model.relationships,
      model.entity (.relationship r.type r.startLabel r.endLabel) = .ok (.relationship r) := by
  let whole : ValidModel := ⟨model, reachable.valid⟩
  have labels := whole.valid.labels
  have patterns := whole.valid.patterns
  refine ⟨fun node next added => ?_, fun relationship next added => ?_,
    fun place property next added => ?_, fun node member => ?_, fun r member => ?_⟩
  · have grown := whole.attempt_eq_ok_iff.1 added
    have same : next.patterns = model.patterns := by
      obtain ⟨-, rfl⟩ := Model.addNode_eq_ok_iff.1 grown
      rfl
    rw [attempt_removeNode (same ▸ patterns), whole.removeNode_addNode grown]
    rfl
  · have grown := whole.attempt_eq_ok_iff.1 added
    rw [attempt_removeRelationship, Model.removeRelationship_addRelationship grown]
    rfl
  · have grown := whole.attempt_eq_ok_iff.1 added
    obtain ⟨sameLabels, samePatterns, removed⟩ := removeProperty_addProperty labels patterns grown
    rw [attempt_eq_settle_apply (sameLabels ▸ labels) (samePatterns ▸ patterns), removed]
    rfl
  · have found : model.node node.label = .ok node :=
      Model.node_eq_ok_iff.2 (find?_of_mem labels member rfl)
    rw [Model.entity, found]
    rfl
  · have found : model.relationship r.type r.startLabel r.endLabel = .ok r :=
      Model.relationship_eq_ok_iff.2 (find?_of_mem patterns member rfl)
    rw [Model.entity, found]
    rfl

/-- A node without relationships, a relationship of a new type between the same labels, and a
property of a relationship from a node to itself. -/
theorem attempt_removal_of_addition_revisions :
    Model.revisions.Reachable ∧
      (∃ next, (addNode ⟨"Pen", .ofName "Id", [], .empty⟩).attempt .revisions = (.ok (), next) ∧
        (removeNode "Pen" false).attempt next = (.ok (), .revisions)) ∧
      (∃ next, (addRelationship ⟨"CITES", "Book", "Book", none, [], .empty⟩).attempt .revisions =
          (.ok (), next) ∧
        (removeRelationship "CITES" "Book" "Book").attempt next = (.ok (), .revisions)) ∧
      ∃ next, (addProperty (.relationship "REVISES" "Book" "Book") (.ofName "year")).attempt
          .revisions = (.ok (), next) ∧
        (removeProperty (.relationship "REVISES" "Book" "Book") "year").attempt next =
          (.ok (), .revisions) := by
  have reachable := Model.revisions_reachable
  obtain ⟨nodes, relationships, properties, -, -⟩ := attempt_removal_of_addition reachable
  have taken (edit : Edit) (answered : (edit.attempt Model.revisions).1 = .ok ()) :
      edit.attempt .revisions = (.ok (), (edit.attempt .revisions).2) := Prod.ext answered rfl
  have pen := taken (addNode ⟨"Pen", .ofName "Id", [], .empty⟩) (by decide +kernel)
  have cites := taken (addRelationship ⟨"CITES", "Book", "Book", none, [], .empty⟩)
    (by decide +kernel)
  have year := taken (addProperty (.relationship "REVISES" "Book" "Book") (.ofName "year"))
    (by decide +kernel)
  have noPen := nodes _ _ pen
  have noCites := relationships _ _ cites
  have noYear := properties _ _ _ year
  exact ⟨reachable, ⟨_, pen, noPen⟩, ⟨_, cites, noCites⟩, ⟨_, year, noYear⟩⟩

end Edit
end PropertyGraph

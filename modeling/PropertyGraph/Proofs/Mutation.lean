import PropertyGraph.Model.Mutation
import PropertyGraph.Proofs.Reachable

/-! Edits as changes in place. On valid models every mutator does what the edit of the same name
answers, and one that fails has not written anything. So edits take valid models to valid models,
whatever is tried and however it ends. -/
namespace PropertyGraph

/-- What the answer of an edit comes to when the model is changed in place. -/
def Edit.settle (model : Model) : Except ModelError Model → Except ModelError Unit × Model
  | .ok next => (.ok (), next)
  | .error e => (.error e, model)

namespace Edit
open Mutation (changeNode changeRelationship editNode editRelationship)

variable {model : Model}

theorem attempt_addNode (node : Node) :
    (addNode node).attempt model = settle model (model.addNode node) := by
  simp only [attempt, perform, Mutation.addNode, Model.addNode, Mutation.runOn_bind,
    Mutation.runOn_get, Mutation.runOn_lift]
  cases checkLabels (model.labels ++ [node.label]) <;> rfl

theorem attempt_addRelationship (relationship : Relationship) :
    (addRelationship relationship).attempt model =
      settle model (model.addRelationship relationship) := by
  simp only [attempt, perform, Mutation.addRelationship, Model.addRelationship,
    Mutation.runOn_bind, Mutation.runOn_get, Mutation.runOn_lift]
  cases checkPatterns (model.patterns ++ [relationship.pattern]) with
  | error e => rfl
  | ok _ => cases checkEnds model.labels [relationship.link] <;> rfl

/-- The loop that drops relationships leaves those that it does not reach. -/
theorem runOn_forM_drop (relationships : List Relationship) (model : Model) :
    (forM relationships Mutation.drop).runOn model =
      (.ok (), { model with
        relationships := relationships.foldl List.erase model.relationships }) := by
  induction relationships generalizing model with
  | nil => rfl
  | cons r rest ih =>
    rw [List.forM_cons, Mutation.runOn_bind]
    exact ih _

theorem attempt_removeNode (patterns : model.patterns.Nodup) (label : String) (cascade : Bool) :
    (removeNode label cascade).attempt model =
      settle model (model.removeNode label cascade) := by
  have present : label ∈ model.labels ↔ ∃ n ∈ model.nodes, n.label = label := List.mem_map
  have distinct : model.relationships.Nodup := .of_map _ patterns
  simp only [attempt, perform, Mutation.removeNode, Model.removeNode, Mutation.runOn_bind,
    Mutation.runOn_get, List.head?_filter]
  cases place : model.nodes.findIdx? (·.label = label) with
  | none =>
    have absent : label ∉ model.labels := by
      simpa [present] using List.findIdx?_eq_none_iff.1 place
    simp [absent, settle]
  | some index =>
    have here : label ∈ model.labels := by
      obtain ⟨inside, same, -⟩ := List.findIdx?_eq_some_iff_getElem.1 place
      exact present.2 ⟨_, List.getElem_mem inside, by simpa using same⟩
    have erased : model.nodes.eraseP (·.label = label) = model.nodes.eraseIdx index := by
      rw [List.eraseP_eq_eraseIdx, place]
    simp only [here, not_true_eq_false, if_false, erased]
    cases model.relationships.find? (·.touches label) with
    | none =>
      simp [Mutation.runOn_bind, runOn_forM_drop, foldl_erase_filter distinct, settle]
    | some first =>
      cases cascade
      · simp [settle]
      · simp [Mutation.runOn_bind, runOn_forM_drop, foldl_erase_filter distinct, settle]

theorem attempt_removeRelationship (type startLabel endLabel : String) :
    (removeRelationship type startLabel endLabel).attempt model =
      settle model (.ok (model.removeRelationship type startLabel endLabel)) := by
  simp only [attempt, perform, Mutation.removeRelationship, Model.removeRelationship,
    Mutation.runOn_bind, Mutation.runOn_get, List.eraseP_eq_eraseIdx, settle]
  cases model.relationships.findIdx? (·.pattern = pattern startLabel type endLabel) <;> rfl

theorem replaceNode_eq (labels : model.labels.Nodup) {label : String} {node : Node}
    (found : model.node label = .ok node) (change : Node → Node)
    (sameLabel : (change node).label = node.label) :
    model.replaceNode (change node) =
      { model with
        nodes := model.nodes.modify (model.nodes.findIdx (·.label = label)) change } := by
  have known := Model.node_eq_ok_iff.1 found
  have named : node.label = label := by simpa using List.find?_some known
  rw [Model.replaceNode, sameLabel, named]
  congr 1
  exact map_ite_eq_modify labels known change

theorem replaceRelationship_eq (patterns : model.patterns.Nodup)
    {type startLabel endLabel : String}
    {relationship : Relationship}
    (found : model.relationship type startLabel endLabel = .ok relationship)
    (change : Relationship → Relationship)
    (samePattern : (change relationship).pattern = relationship.pattern) :
    model.replaceRelationship (change relationship) =
      { model with
        relationships := model.relationships.modify
          (model.relationships.findIdx (·.pattern = pattern startLabel type endLabel)) change } := by
  have known := Model.relationship_eq_ok_iff.1 found
  have named : relationship.pattern = pattern startLabel type endLabel := by
    simpa using List.find?_some known
  rw [Model.replaceRelationship, samePattern, named]
  congr 1
  exact map_ite_eq_modify patterns known change

theorem runOn_editNode (labels : model.labels.Nodup) (label : String)
    {check : Node → Except ModelError Unit} {change : Node → Node}
    (sameLabel : ∀ node, (change node).label = node.label) :
    (editNode label check change).runOn model =
      settle model (model.node label >>= fun node =>
        (check node).map fun _ => model.replaceNode (change node)) := by
  simp only [editNode, Mutation.runOn_bind, Mutation.runOn_get, Mutation.runOn_lift]
  cases found : model.node label with
  | error e => rfl
  | ok node =>
    have replaced := replaceNode_eq labels found change (sameLabel node)
    change _ = settle model ((check node).map _)
    simp only [changeNode, Mutation.runOn_modify, replaced]
    cases check node <;> rfl

theorem runOn_editRelationship (patterns : model.patterns.Nodup)
    (type startLabel endLabel : String) {check : Relationship → Except ModelError Unit}
    {change : Relationship → Relationship}
    (samePattern : ∀ relationship, (change relationship).pattern = relationship.pattern) :
    (editRelationship type startLabel endLabel check change).runOn model =
      settle model (model.relationship type startLabel endLabel >>= fun relationship =>
        (check relationship).map fun _ =>
          model.replaceRelationship (change relationship)) := by
  simp only [editRelationship, Mutation.runOn_bind, Mutation.runOn_get, Mutation.runOn_lift]
  cases found : model.relationship type startLabel endLabel with
  | error e => rfl
  | ok relationship =>
    have replaced := replaceRelationship_eq patterns found change (samePattern relationship)
    change _ = settle model ((check relationship).map _)
    simp only [changeRelationship, Mutation.runOn_modify, replaced]
    cases check relationship <;> rfl

/-- Whether a property has been checked for before or while it is added is all one. -/
lemma bind_map_eq {α β : Type} (found : Except ModelError α) (check : α → Except ModelError Unit)
    (change : α → α) (put : α → β) :
    (found >>= fun a => (check a).map fun _ => put (change a)) =
      found >>= fun a => (check a).map (fun _ => change a) >>= fun b => .ok (put b) := by
  refine bind_congr fun a => ?_
  cases check a <;> rfl

/-- Where labels and patterns are distinct, a mutator leaves what its edit answers, and the model
as it was when the edit fails. -/
theorem attempt_eq_settle_apply (labels : model.labels.Nodup) (patterns : model.patterns.Nodup)
    (edit : Edit) : edit.attempt model = settle model (edit.apply model) := by
  cases edit with
  | addNode node => exact attempt_addNode node
  | addRelationship relationship => exact attempt_addRelationship relationship
  | removeNode label cascade => exact attempt_removeNode patterns label cascade
  | removeRelationship type startLabel endLabel =>
    exact attempt_removeRelationship type startLabel endLabel
  | addProperty place property =>
    cases place with
    | node label =>
      have edited : (addProperty (.node label) property).attempt model = _ :=
        runOn_editNode labels label fun _ => rfl
      exact edited.trans (congrArg (settle model) (bind_map_eq _ _ _ _))
    | relationship type startLabel endLabel =>
      have edited : (addProperty (.relationship type startLabel endLabel) property).attempt model =
          _ := runOn_editRelationship patterns type startLabel endLabel fun _ => rfl
      exact edited.trans (congrArg (settle model) (bind_map_eq _ _ _ _))
  | removeProperty place name =>
    cases place with
    | node label => exact runOn_editNode labels label fun _ => rfl
    | relationship type startLabel endLabel =>
      exact runOn_editRelationship patterns type startLabel endLabel fun _ => rfl
  | setMetadata metadata => rfl
  | setNodeMetadata label metadata => exact runOn_editNode labels label fun _ => rfl
  | setRelationshipMetadata type startLabel endLabel metadata =>
    exact runOn_editRelationship patterns type startLabel endLabel fun _ => rfl

end Edit

namespace ValidModel
open Edit (attemptAll attempt_eq_settle_apply settle)

variable (model : ValidModel) {edit : Edit} {next : Model} {e : ModelError}

theorem attempt_eq (edit : Edit) :
    edit.attempt model.toModel = settle model.toModel (edit.apply model.toModel) :=
  attempt_eq_settle_apply model.valid.labels model.valid.patterns edit

theorem attempt_eq_ok_iff :
    edit.attempt model.toModel = (.ok (), next) ↔ edit.apply model.toModel = .ok next := by
  rw [attempt_eq]
  cases edit.apply model.toModel <;> simp [settle]

theorem attempt_eq_error_iff :
    edit.attempt model.toModel = (.error e, next) ↔
      edit.apply model.toModel = .error e ∧ next = model.toModel := by
  rw [attempt_eq]
  cases edit.apply model.toModel <;> simp [settle, eq_comm]

/-- An edit that fails changes nothing. -/
theorem attempt_of_error (failed : (edit.attempt model.toModel).1 = .error e) :
    (edit.attempt model.toModel).2 = model.toModel := by
  rw [attempt_eq] at failed ⊢
  cases applied : edit.apply model.toModel with
  | ok next => simp [applied, settle] at failed
  | error e => rfl

/-- The valid model that an edit leaves. -/
def after (edit : Edit) (legal : edit.Legal) : ValidModel where
  toModel := (edit.attempt model.toModel).2
  valid := by
    rw [attempt_eq]
    cases applied : edit.apply model.toModel with
    | ok next => exact Edit.valid_of_apply model.valid legal applied
    | error e => exact model.valid

/-- A run of edits leaves a valid model. -/
theorem exists_attemptAll {edits : List Edit} (legal : ∀ edit ∈ edits, edit.Legal) :
    ∃ reached : ValidModel, reached.toModel = attemptAll model.toModel edits := by
  induction edits generalizing model with
  | nil => exact ⟨model, rfl⟩
  | cons edit rest ih =>
    rw [List.forall_mem_cons] at legal
    exact ih (model.after edit legal.1) legal.2

end ValidModel

namespace Edit

variable {model : Model}

/-- Whatever is tried on a model and however it ends, labels and patterns stay distinct, ends
stay at nodes, and names stay distinct within every entity; and what fails changes nothing. -/
theorem invariants_of_attempts (initial : model.Initial) {edits : List Edit}
    (legal : ∀ edit ∈ edits, edit.Legal) :
    let reached := attemptAll model edits
    reached.labels.Nodup ∧ reached.patterns.Nodup ∧
      (∀ r ∈ reached.relationships,
        r.startLabel ∈ reached.labels ∧ r.endLabel ∈ reached.labels) ∧
      (∀ n ∈ reached.nodes, (n.allProperties.map Property.name).Nodup) ∧
      (∀ r ∈ reached.relationships, (r.allProperties.map Property.name).Nodup) ∧
      ∀ next : Edit, ∀ e, (next.attempt reached).1 = .error e →
        (next.attempt reached).2 = reached := by
  obtain ⟨reached, same⟩ := ValidModel.exists_attemptAll ⟨model, initial.valid⟩ legal
  have valid := reached.valid
  rw [← same]
  exact ⟨valid.labels, valid.patterns, valid.ends,
    fun n hn => (valid.nodes n hn).properties.names,
    fun r hr => (valid.relationships r hr).properties.names,
    fun next e failed => reached.attempt_of_error failed⟩

theorem invariants_of_attempts_library :
    let reached := attemptAll .library
      [.removeNode "Author" false, .removeNode "Author" true, .addNode .author]
    reached.labels = ["Book", "Author"] ∧ reached.labels.Nodup ∧
      (∀ r ∈ reached.relationships,
        r.startLabel ∈ reached.labels ∧ r.endLabel ∈ reached.labels) ∧
      ((addNode .author).attempt reached).2 = reached := by
  have legal : ∀ edit ∈ [removeNode "Author" false, removeNode "Author" true, addNode .author],
      edit.Legal := by
    simp [Legal, Node.author_reachable]
  obtain ⟨labels, -, ends, -, -, unchanged⟩ := invariants_of_attempts Model.library_initial legal
  have taken : ((addNode .author).attempt (attemptAll .library
      [.removeNode "Author" false, .removeNode "Author" true, .addNode .author])).1 =
      .error (.repeatedLabel "Author" 2) := by rfl
  exact ⟨by rfl, labels, ends, unchanged _ _ taken⟩

end Edit
end PropertyGraph

import PropertyGraph.Model.Edit

/-! Edits as changes in place. A mutator writes into the model step by step, and what it has
written stays when it fails later on. -/
namespace PropertyGraph

/-- A computation that changes a model in place and may fail on the way. -/
abbrev Mutation := ExceptT ModelError (StateM Model)

namespace Mutation

/-- What a mutator answers on a model, and the model as it stands then. -/
def runOn {α : Type} (mutation : Mutation α) (model : Model) : Except ModelError α × Model :=
  StateT.run mutation.run model

section Runs

variable {α β : Type} (model : Model)

@[simp] theorem runOn_get : (get : Mutation Model).runOn model = (.ok model, model) := rfl

@[simp] theorem runOn_modify (f : Model → Model) :
    (modify f : Mutation Unit).runOn model = (.ok (), f model) := rfl

@[simp] theorem runOn_pure (a : α) : (pure a : Mutation α).runOn model = (.ok a, model) := rfl

@[simp] theorem runOn_throw (e : ModelError) :
    (throw e : Mutation α).runOn model = (.error e, model) := rfl

@[simp] theorem runOn_lift (x : Except ModelError α) :
    (liftM x : Mutation α).runOn model = (x, model) := by
  cases x <;> rfl

theorem runOn_bind (mutation : Mutation α) (next : α → Mutation β) :
    (mutation >>= next).runOn model =
      match mutation.runOn model with
      | (.ok a, changed) => (next a).runOn changed
      | (.error e, changed) => (.error e, changed) := by
  simp only [runOn, ExceptT.run_bind, StateT.run_bind]
  rcases (StateT.run mutation.run model : Except ModelError α × Model) with ⟨_ | _, changed⟩ <;>
    rfl

end Runs

def addNode (node : Node) : Mutation Unit := do
  let model ← get
  checkLabels (model.labels ++ [node.label])
  modify fun m => { m with nodes := m.nodes ++ [node] }

def addRelationship (relationship : Relationship) : Mutation Unit := do
  let model ← get
  checkPatterns (model.patterns ++ [relationship.pattern])
  checkEnds model.labels [relationship.link]
  modify fun m => { m with relationships := m.relationships ++ [relationship] }

def drop (relationship : Relationship) : Mutation Unit :=
  modify fun m => { m with relationships := m.relationships.erase relationship }

/-- The relationships at the node are dropped one after the other before the node goes. -/
def removeNode (label : String) (cascade : Bool) : Mutation Unit := do
  let model ← get
  match model.nodes.findIdx? (·.label = label) with
  | none => return
  | some index =>
    let attached := model.relationships.filter (·.touches label)
    if let some first := attached.head? then
      if !cascade then
        throw (.danglingEnd first.pattern (if first.startLabel = label then .start else .finish)
          label)
    attached.forM drop
    modify fun m => { m with nodes := m.nodes.eraseIdx index }

def removeRelationship (type startLabel endLabel : String) : Mutation Unit := do
  let model ← get
  match model.relationships.findIdx? (·.pattern = pattern startLabel type endLabel) with
  | none => return
  | some index => modify fun m => { m with relationships := m.relationships.eraseIdx index }

def changeNode (label : String) (change : Node → Node) : Mutation Unit :=
  modify fun m => { m with nodes := m.nodes.modify (m.nodes.findIdx (·.label = label)) change }

def changeRelationship (pattern : String) (change : Relationship → Relationship) :
    Mutation Unit :=
  modify fun m =>
    { m with
      relationships :=
        m.relationships.modify (m.relationships.findIdx (·.pattern = pattern)) change }

/-- The node, which must be there and pass the check, is changed where it stands. -/
def editNode (label : String) (check : Node → Except ModelError Unit) (change : Node → Node) :
    Mutation Unit := do
  let node ← (← get).node label
  check node
  changeNode label change

def editRelationship (type startLabel endLabel : String)
    (check : Relationship → Except ModelError Unit) (change : Relationship → Relationship) :
    Mutation Unit := do
  let relationship ← (← get).relationship type startLabel endLabel
  check relationship
  changeRelationship (pattern startLabel type endLabel) change

end Mutation

namespace Edit
open Mutation (editNode editRelationship)

def perform : Edit → Mutation Unit
  | .addNode node => Mutation.addNode node
  | .addRelationship relationship => Mutation.addRelationship relationship
  | .removeNode label cascade => Mutation.removeNode label cascade
  | .removeRelationship type startLabel endLabel =>
    Mutation.removeRelationship type startLabel endLabel
  | .addProperty (.node label) property =>
    editNode label (·.checkNewProperty property) (·.appendProperty property)
  | .addProperty (.relationship type startLabel endLabel) property =>
    editRelationship type startLabel endLabel (·.checkNewProperty property)
      (·.appendProperty property)
  | .removeProperty (.node label) name => editNode label (fun _ => .ok ()) (·.removeProperty name)
  | .removeProperty (.relationship type startLabel endLabel) name =>
    editRelationship type startLabel endLabel (fun _ => .ok ()) (·.removeProperty name)
  | .setMetadata metadata => modify fun m => { m with metadata }
  | .setNodeMetadata label metadata =>
    editNode label (fun _ => .ok ()) fun n => { n with metadata }
  | .setRelationshipMetadata type startLabel endLabel metadata =>
    editRelationship type startLabel endLabel (fun _ => .ok ()) fun r => { r with metadata }

/-- What becomes of a model when an edit is tried on it: the fault that was met, if any, and
the model as it stands then. -/
def attempt (edit : Edit) (model : Model) : Except ModelError Unit × Model :=
  edit.perform.runOn model

def attemptAll (model : Model) (edits : List Edit) : Model :=
  edits.foldl (fun reached edit => (edit.attempt reached).2) model

end Edit
end PropertyGraph

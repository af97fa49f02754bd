import PropertyGraph.Diagram.Import
import PropertyGraph.Proofs.Edits
import PropertyGraph.Proofs.ReferenceGraph.Answers
import PropertyGraph.Record.Model

/-! The entities and models that can come about: built from parts, read from a record or a
document, and edited from there. All of them are valid. -/
namespace PropertyGraph

/-- A property is made from a draft and never changes. -/
def Property.Built (property : Property) : Prop := ∃ draft, Property.build draft = .ok property

/-- A node is built, and then its properties and metadata may be changed. -/
inductive Node.Reachable : Node → Prop
  | build {label : String} {key : Property} {properties : List Property}
      {metadata : NodeMetadata} {node : Node}
      (hk : key.Built) (hp : ∀ p ∈ properties, p.Built)
      (built : Node.build label key properties metadata = .ok node) : Reachable node
  | addProperty {node next : Node} {property : Property} (prior : Reachable node)
      (hp : property.Built) (added : node.addProperty property = .ok next) : Reachable next
  | removeProperty {node : Node} (prior : Reachable node) (name : String) :
      Reachable (node.removeProperty name)
  | withMetadata {node : Node} (prior : Reachable node) (metadata : NodeMetadata) :
      Reachable { node with metadata }

inductive Relationship.Reachable : Relationship → Prop
  | build {type startLabel endLabel : String} {key : Option Property}
      {properties : List Property} {metadata : RelationshipMetadata}
      {relationship : Relationship}
      (hk : ∀ k ∈ key, k.Built) (hp : ∀ p ∈ properties, p.Built)
      (built : Relationship.build type startLabel endLabel key properties metadata =
        .ok relationship) : Reachable relationship
  | addProperty {relationship next : Relationship} {property : Property}
      (prior : Reachable relationship) (hp : property.Built)
      (added : relationship.addProperty property = .ok next) : Reachable next
  | removeProperty {relationship : Relationship} (prior : Reachable relationship)
      (name : String) : Reachable (relationship.removeProperty name)
  | withMetadata {relationship : Relationship} (prior : Reachable relationship)
      (metadata : RelationshipMetadata) : Reachable { relationship with metadata }

/-- The models that the ways into the library answer. -/
inductive Model.Initial : Model → Prop
  | build {nodes : List Node} {relationships : List Relationship} {metadata : ModelMetadata}
      {model : Model} (hn : ∀ n ∈ nodes, n.Reachable) (hr : ∀ r ∈ relationships, r.Reachable)
      (built : Model.build nodes relationships metadata = .ok model) : Initial model
  | record {value : Option Json} {model : Model} (parsed : parseRecord value = .ok model) :
      Initial model
  | diagram {document : Option Json} {model : Model}
      (read : (Diagram.read document).answer = .ok model) : Initial model
  | referenceGraph {document : Option Json} {strict : Bool} {model : Model}
      (read : (ReferenceGraph.read document strict).answer = .ok model) : Initial model

namespace Property

def ofName (name : String) : Property := ⟨name, "STRING", none, none, none⟩

theorem ofName_built {name : String} (hn : Text.isBlank name = false) : (ofName name).Built :=
  ⟨⟨name, none, none, none, none⟩, by simp [build, hn]; rfl⟩

end Property

def Node.author : Node := ⟨"Author", .ofName "Id", [], .empty⟩

def Node.book : Node := ⟨"Book", .ofName "isbn", [.ofName "title"], .empty⟩

def Relationship.wrote : Relationship := ⟨"WROTE", "Author", "Book", none, [], .empty⟩

/-- A small model that has been built from parts. -/
def Model.library : Model := ⟨[.author, .book], [.wrote], .empty⟩

theorem Node.author_reachable : author.Reachable := by
  have built : Node.build "Author" (.ofName "Id") [] .empty = .ok author := rfl
  exact .build (Property.ofName_built rfl) (by simp) built

theorem Node.book_reachable : book.Reachable := by
  have built : Node.build "Book" (.ofName "isbn") [.ofName "title"] .empty = .ok book := rfl
  have title : (Property.ofName "title").Built := Property.ofName_built rfl
  exact .build (Property.ofName_built rfl) (by simp [title]) built

theorem Relationship.wrote_reachable : wrote.Reachable := by
  have built : Relationship.build "WROTE" "Author" "Book" none [] .empty = .ok wrote := rfl
  exact .build (by simp) (by simp) built

theorem Model.library_initial : library.Initial := by
  have built : Model.build [.author, .book] [.wrote] .empty = .ok library := rfl
  exact .build (by simp [Node.author_reachable, Node.book_reachable])
    (by simp [Relationship.wrote_reachable]) built

/-- What an edit brings in has been built before. -/
def Edit.Legal : Edit → Prop
  | .addNode node => node.Reachable
  | .addRelationship relationship => relationship.Reachable
  | .addProperty _ property => property.Built
  | _ => True

/-- The models that can come about by edits. -/
inductive Model.Reachable : Model → Prop
  | initial {model : Model} (start : Initial model) : Reachable model
  | edit {model next : Model} {edit : Edit} (prior : Reachable model) (legal : edit.Legal)
      (applied : edit.apply model = .ok next) : Reachable next

theorem Property.Built.valid {property : Property} : property.Built → property.Valid
  | ⟨_, built⟩ => valid_of_build built

theorem Node.Reachable.valid {node : Node} (reachable : node.Reachable) : node.Valid := by
  induction reachable with
  | build hk hp built => exact valid_of_build hk.valid (fun p member => (hp p member).valid) built
  | addProperty _ hp added ih => exact ih.addProperty hp.valid added
  | removeProperty _ name ih => exact ih.removeProperty name
  | withMetadata _ metadata ih => exact ih.withMetadata metadata

theorem Relationship.Reachable.valid {relationship : Relationship}
    (reachable : relationship.Reachable) : relationship.Valid := by
  induction reachable with
  | build hk hp built =>
    exact valid_of_build (fun k member => (hk k member).valid)
      (fun p member => (hp p member).valid) built
  | addProperty _ hp added ih => exact ih.addProperty hp.valid added
  | removeProperty _ name ih => exact ih.removeProperty name
  | withMetadata _ metadata ih => exact ih.withMetadata metadata

theorem Node.reachable_of_ofRecord {json : Json} {node : Node}
    (read : ofRecord json = .ok node) : node.Reachable := by
  simp only [ofRecord, Except.bind_eq_ok_iff] at read
  obtain ⟨key, hk, properties, hp, built⟩ := read
  exact .build ⟨_, hk⟩ (Except.forall_mem_of_mapM (fun _ _ made => ⟨_, made⟩) hp) built

theorem Relationship.reachable_of_ofRecord {json : Json} {relationship : Relationship}
    (read : ofRecord json = .ok relationship) : relationship.Reachable := by
  simp only [ofRecord, Except.bind_eq_ok_iff] at read
  obtain ⟨key, hk, properties, hp, built⟩ := read
  refine .build (fun k member => ?_)
    (Except.forall_mem_of_mapM (fun _ _ made => ⟨_, made⟩) hp) built
  cases found : json.get? "keyProperty" with
  | none =>
    rw [found] at hk
    cases hk
    cases member
  | some record =>
    rw [found] at hk
    obtain ⟨property, made, rfl⟩ := Except.map_eq_ok_iff.1 hk
    cases member
    exact ⟨_, made⟩

theorem Model.valid_of_parseRecord {value : Option Json} {model : Model}
    (parsed : parseRecord value = .ok model) : model.Valid := by
  unfold parseRecord at parsed
  split at parsed
  · simp only [ofRecord, Except.bind_eq_ok_iff] at parsed
    obtain ⟨nodes, hn, relationships, hr, built⟩ := parsed
    exact valid_of_build
      (Except.forall_mem_of_mapM (fun _ _ made => (Node.reachable_of_ofRecord made).valid) hn)
      (Except.forall_mem_of_mapM
        (fun _ _ made => (Relationship.reachable_of_ofRecord made).valid) hr) built
  · cases parsed

namespace Diagram

theorem valid_of_readProperties {key : Option Property} {texts : List (String × String)}
    {key' : Option Property} {properties : List Property} (hk : ∀ k ∈ key, k.Valid)
    (read : readProperties key texts = .ok (key', properties)) :
    (∀ k ∈ key', k.Valid) ∧ ∀ p ∈ properties, p.Valid := by
  induction texts generalizing key key' properties with
  | nil =>
    cases read
    exact ⟨hk, by simp⟩
  | cons entry rest ih =>
    obtain ⟨name, text⟩ := entry
    simp only [readProperties] at read
    split_ifs at read
    · obtain ⟨made, built, read⟩ := Except.bind_eq_ok_iff.1 read
      refine ih (fun k member => ?_) read
      cases member
      exact Property.valid_of_build built
    · simp only [Except.bind_eq_ok_iff] at read
      obtain ⟨made, built, ⟨found, others⟩, read, finish⟩ := read
      cases finish
      obtain ⟨validKey, validOthers⟩ := ih hk read
      refine ⟨validKey, ?_⟩
      simpa using And.intro (Property.valid_of_build built) validOthers

theorem Box.valid_of_toNode {box : Box} {node : Node} (made : box.toNode = .ok node) :
    node.Valid := by
  obtain ⟨⟨key, properties⟩, read, made⟩ := Except.bind_eq_ok_iff.1 made
  obtain ⟨hk, hp⟩ := valid_of_readProperties (by simp) read
  cases key with
  | none => cases made
  | some key => exact Node.valid_of_build (hk key rfl) hp made

theorem Arrow.valid_of_toRelationship {boxes : List Box} {index : Nat} {arrow : Arrow}
    {relationship : Relationship}
    (made : arrow.toRelationship boxes index = .ok relationship) : relationship.Valid := by
  simp only [toRelationship, Except.bind_eq_ok_iff] at made
  obtain ⟨_, _, _, _, ⟨key, properties⟩, read, built⟩ := made
  obtain ⟨hk, hp⟩ := valid_of_readProperties (by simp) read
  exact Relationship.valid_of_build hk hp built

theorem valid_of_toModel {diagram : Diagram} {model : Model}
    (made : diagram.toModel = .ok model) : model.Valid := by
  simp only [toModel, Except.bind_eq_ok_iff] at made
  obtain ⟨nodes, hn, relationships, hr, built⟩ := made
  exact Model.valid_of_build (Except.forall_mem_of_mapM (fun _ _ => Box.valid_of_toNode) hn)
    (Except.forall_mem_of_mapM (fun _ _ => Arrow.valid_of_toRelationship) hr) built

theorem answer_read (document : Option Json) :
    (read document).answer =
      (Document.check shape document "diagram document" >>= fun json => (ofJson json).toModel) := by
  unfold read
  rw [Conversion.answer_bind, Conversion.answer_lift]
  · congr 1
    funext json
    rw [Conversion.answer_bind, Conversion.answer_lift]
    · simp only [Conversion.answer_bind fun _ => Conversion.AddsOnly.pure _,
        Conversion.answer_tell, Conversion.answer_pure]
      cases (ofJson json).toModel <;> rfl
    · exact fun model => (Conversion.AddsOnly.tell _).bind fun _ => .pure _
  · exact fun json => (Conversion.AddsOnly.lift _).bind fun model =>
      (Conversion.AddsOnly.tell _).bind fun _ => .pure _

theorem valid_of_read {document : Option Json} {model : Model}
    (read : (read document).answer = .ok model) : model.Valid := by
  rw [answer_read] at read
  obtain ⟨json, -, made⟩ := Except.bind_eq_ok_iff.1 read
  exact valid_of_toModel made

end Diagram

namespace ReferenceGraph

theorem PropertyDef.valid_of_toProperty {mapping : Option Mapping} {kind : SourceKind}
    {owner : Owner} {definition : PropertyDef} {property : Property}
    (made : definition.toProperty mapping kind owner = .ok property) : property.Valid := by
  unfold toProperty at made
  split at made
  · exact Property.valid_of_build made
  · cases made

theorem EntityDef.valid_of_toNode {bindings : Bindings} {strict : Bool} {label : EntityDef}
    {node : Node} (made : (label.toNode bindings strict).answer = .ok node) : node.Valid := by
  simp only [answer_toNode, Except.bind_eq_ok_iff] at made
  obtain ⟨choice, -, key, hk, others, ho, built⟩ := made
  exact Node.valid_of_build (PropertyDef.valid_of_toProperty hk)
    (Except.forall_mem_of_mapM (fun _ _ => PropertyDef.valid_of_toProperty) ho) built

theorem RelationshipKind.valid_of_toRelationship {bindings : Bindings}
    {kind : RelationshipKind} {relationship : Relationship}
    (made : kind.toRelationship bindings = .ok relationship) : relationship.Valid := by
  simp only [toRelationship, Except.bind_eq_ok_iff] at made
  obtain ⟨properties, hp, built⟩ := made
  exact Relationship.valid_of_build (by simp)
    (Except.forall_mem_of_mapM (fun _ _ => PropertyDef.valid_of_toProperty) hp) built

theorem valid_of_toModel {graph : ReferenceGraph} {strict : Bool} {model : Model}
    (made : (graph.toModel strict).answer = .ok model) : model.Valid := by
  simp only [answer_toModel, Except.bind_eq_ok_iff] at made
  obtain ⟨bindings, -, nodes, hn, relationships, hr, built⟩ := made
  exact Model.valid_of_build
    (Except.forall_mem_of_mapM (fun _ _ => EntityDef.valid_of_toNode) hn)
    (Except.forall_mem_of_mapM (fun _ _ => RelationshipKind.valid_of_toRelationship) hr) built

theorem valid_of_read {document : Option Json} {strict : Bool} {model : Model}
    (read : (read document strict).answer = .ok model) : model.Valid := by
  rw [answer_read] at read
  obtain ⟨json, -, made⟩ := Except.bind_eq_ok_iff.1 read
  exact valid_of_toModel made

end ReferenceGraph

theorem Model.Initial.valid {model : Model} (initial : model.Initial) : model.Valid := by
  cases initial with
  | build hn hr built =>
    exact valid_of_build (fun n member => (hn n member).valid)
      (fun r member => (hr r member).valid) built
  | record parsed => exact valid_of_parseRecord parsed
  | diagram read => exact Diagram.valid_of_read read
  | referenceGraph read => exact ReferenceGraph.valid_of_read read

theorem Edit.valid_of_apply {model next : Model} {edit : Edit} (valid : model.Valid)
    (legal : edit.Legal) (applied : edit.apply model = .ok next) : next.Valid := by
  cases edit with
  | addNode node => exact valid.addNode (Node.Reachable.valid legal) applied
  | addRelationship relationship =>
    exact valid.addRelationship (Relationship.Reachable.valid legal) applied
  | removeNode label cascade => exact valid.removeNode applied
  | removeRelationship type startLabel endLabel =>
    cases applied
    exact valid.removeRelationship type startLabel endLabel
  | addProperty place property =>
    cases place with
    | node label =>
      simp only [apply, Except.bind_eq_ok_iff] at applied
      obtain ⟨node, found, changed, added, finish⟩ := applied
      cases finish
      exact valid.replaceNode ((valid.node found).addProperty legal.valid added)
    | relationship type startLabel endLabel =>
      simp only [apply, Except.bind_eq_ok_iff] at applied
      obtain ⟨relationship, found, changed, added, finish⟩ := applied
      cases finish
      obtain ⟨present, old⟩ := valid.relationship found
      obtain ⟨-, rfl⟩ := Relationship.addProperty_eq_ok_iff.1 added
      exact valid.replaceRelationship present rfl rfl (old.addProperty legal.valid added)
  | removeProperty place name =>
    cases place with
    | node label =>
      obtain ⟨node, found, finish⟩ := Except.bind_eq_ok_iff.1 applied
      cases finish
      exact valid.replaceNode ((valid.node found).removeProperty name)
    | relationship type startLabel endLabel =>
      obtain ⟨relationship, found, finish⟩ := Except.bind_eq_ok_iff.1 applied
      cases finish
      obtain ⟨present, old⟩ := valid.relationship found
      exact valid.replaceRelationship present rfl rfl (old.removeProperty name)
  | setMetadata metadata =>
    cases applied
    exact ⟨valid.consistent, valid.nodes, valid.relationships⟩
  | setNodeMetadata label metadata =>
    obtain ⟨node, found, finish⟩ := Except.bind_eq_ok_iff.1 applied
    cases finish
    exact valid.replaceNode ((valid.node found).withMetadata metadata)
  | setRelationshipMetadata type startLabel endLabel metadata =>
    obtain ⟨relationship, found, finish⟩ := Except.bind_eq_ok_iff.1 applied
    cases finish
    obtain ⟨present, old⟩ := valid.relationship found
    exact valid.replaceRelationship present rfl rfl (old.withMetadata metadata)

theorem Model.Reachable.valid {model : Model} (reachable : model.Reachable) : model.Valid := by
  induction reachable with
  | initial start => exact start.valid
  | edit _ legal applied ih => exact Edit.valid_of_apply ih legal applied

end PropertyGraph

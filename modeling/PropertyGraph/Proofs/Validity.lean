import PropertyGraph.Model.Edit
import PropertyGraph.Proofs.Checks
import PropertyGraph.Proofs.Conversion
import PropertyGraph.Proofs.Trimming

/-! What holds of every entity and model that can be built, and that every edit keeps: the
texts say something, names of properties are distinct within an entity, labels and patterns
within a model, and relationships end at nodes. -/
namespace PropertyGraph

/-- A property has a name, and its type is in normal form. -/
structure Property.Valid (property : Property) : Prop where
  name : Text.isBlank property.name = false
  type : ∃ text, property.type = TypeTag.normalize text

/-- The properties of one entity, its key among them, have distinct names. -/
structure ValidProperties (key : Option Property) (properties : List Property) : Prop where
  each : ∀ p ∈ withKey key properties, p.Valid
  names : ((withKey key properties).map Property.name).Nodup

structure Node.Valid (node : Node) : Prop where
  label : Text.isBlank node.label = false
  properties : ValidProperties (some node.key) node.properties

structure Relationship.Valid (relationship : Relationship) : Prop where
  type : Text.isBlank relationship.type = false
  startLabel : Text.isBlank relationship.startLabel = false
  endLabel : Text.isBlank relationship.endLabel = false
  properties : ValidProperties relationship.key relationship.properties

/-- The invariants of a model. -/
structure Model.Valid (model : Model) : Prop where
  consistent : Consistent model.labels (model.relationships.map Relationship.link)
  nodes : ∀ n ∈ model.nodes, n.Valid
  relationships : ∀ r ∈ model.relationships, r.Valid

/-- A model with its invariants. -/
structure ValidModel extends Model where
  valid : toModel.Valid

namespace Model

theorem consistent_iff {labels : List String} {relationships : List Relationship} :
    Consistent labels (relationships.map Relationship.link) ↔
      labels.Nodup ∧ (relationships.map Relationship.pattern).Nodup ∧
        ∀ r ∈ relationships, r.startLabel ∈ labels ∧ r.endLabel ∈ labels := by
  have patterns : (relationships.map Relationship.link).map Link.pattern =
      relationships.map Relationship.pattern := by
    rw [List.map_map]
    rfl
  constructor
  · rintro ⟨once, distinct, ends⟩
    exact ⟨once, patterns ▸ distinct, List.forall_mem_map.1 ends⟩
  · rintro ⟨once, distinct, ends⟩
    exact ⟨once, patterns ▸ distinct, List.forall_mem_map.2 ends⟩

namespace Valid

variable {model : Model} (valid : model.Valid)
include valid

theorem labels : model.labels.Nodup := valid.consistent.labelsOnce

theorem patterns : model.patterns.Nodup := (consistent_iff.1 valid.consistent).2.1

theorem ends : ∀ r ∈ model.relationships,
    r.startLabel ∈ model.labels ∧ r.endLabel ∈ model.labels :=
  (consistent_iff.1 valid.consistent).2.2

end Valid
end Model

namespace Property

theorem name_of_build {draft : Draft} {property : Property}
    (built : build draft = .ok property) : Text.isBlank draft.name = false := by
  unfold build at built
  split_ifs at built with blank
  simpa using blank

theorem valid_of_build {draft : Draft} {property : Property}
    (built : build draft = .ok property) : property.Valid := by
  unfold build at built
  split_ifs at built with blank
  cases built
  exact ⟨by simpa using blank, _, rfl⟩

theorem Valid.normalize_type {property : Property} (valid : property.Valid) :
    TypeTag.normalize property.type = property.type := by
  obtain ⟨text, normal⟩ := valid.type
  rw [normal, TypeTag.normalize_eq_self]

end Property

/-- What is made of a property list is made of the properties besides the key. -/
theorem map_checkProperties_eq_ok_iff {α : Type} {owner : Owner} {key : Option Property}
    {properties : List Property} {make : List Property → α} {made : α} :
    (checkProperties owner key properties).map make = .ok made ↔
      ((withoutKey key properties).map Property.name).Nodup ∧
        made = make (withoutKey key properties) := by
  simp only [Except.map_eq_ok_iff, checkProperties_eq_ok_iff]
  constructor
  · rintro ⟨_, ⟨rfl, distinct⟩, rfl⟩
    exact ⟨distinct, rfl⟩
  · rintro ⟨distinct, rfl⟩
    exact ⟨_, ⟨rfl, distinct⟩, rfl⟩

namespace ValidProperties

variable {key : Option Property} {properties : List Property}

theorem of_nodup (hk : ∀ k ∈ key, k.Valid) (hp : ∀ p ∈ properties, p.Valid)
    (distinct : ((withoutKey key properties).map Property.name).Nodup) :
    ValidProperties key (withoutKey key properties) := by
  refine ⟨fun p member => ?_, nodup_withKey_withoutKey distinct⟩
  rcases List.mem_append.1 member with isKey | other
  · exact hk p (Option.mem_toList.1 isKey)
  · exact hp p (mem_withoutKey other)

theorem append {property : Property} (valid : ValidProperties key properties)
    (hp : property.Valid)
    (fresh : property.name ∉ (withKey key properties).map Property.name) :
    ValidProperties key (properties ++ [property]) := by
  have grown : withKey key (properties ++ [property]) = withKey key properties ++ [property] := by
    simp [withKey]
  refine ⟨fun p member => ?_, ?_⟩
  · rw [grown] at member
    rcases List.mem_append.1 member with old | new
    · exact valid.each p old
    · rw [List.mem_singleton.1 new]
      exact hp
  · rw [grown, List.map_append, List.map_singleton]
    exact List.nodup_append_comm.1 (List.nodup_cons.2 ⟨fresh, valid.names⟩)

theorem erase (valid : ValidProperties key properties) (name : String) :
    ValidProperties key (properties.eraseP (·.name = name)) := by
  have fewer : (withKey key (properties.eraseP (·.name = name))).Sublist
      (withKey key properties) :=
    (List.Sublist.refl _).append List.eraseP_sublist
  exact ⟨fun p member => valid.each p (fewer.subset member), valid.names.sublist (fewer.map _)⟩

end ValidProperties

namespace Node

theorem build_eq_ok_iff {label : String} {key : Property} {properties : List Property}
    {metadata : NodeMetadata} {node : Node} :
    build label key properties metadata = .ok node ↔
      (Text.isBlank label = false ∧
        ((withoutKey (some key) properties).map Property.name).Nodup) ∧
        node = ⟨label, key, withoutKey (some key) properties, metadata⟩ := by
  rw [build]
  split_ifs with blank
  · simp [blank]
  · simp only [map_checkProperties_eq_ok_iff, Bool.eq_false_iff.2 blank, true_and]

theorem build_of_nodup {label : String} {key : Property} {properties : List Property}
    (text : Text.isBlank label = false)
    (distinct : ((withKey (some key) properties).map Property.name).Nodup)
    (metadata : NodeMetadata) :
    build label key properties metadata = .ok ⟨label, key, properties, metadata⟩ :=
  build_eq_ok_iff.2 ⟨⟨text, nodup_withoutKey distinct⟩, by rw [withoutKey_of_nodup distinct]⟩

theorem valid_of_build {label : String} {key : Property} {properties : List Property}
    {metadata : NodeMetadata} {node : Node} (hk : key.Valid) (hp : ∀ p ∈ properties, p.Valid)
    (built : build label key properties metadata = .ok node) : node.Valid := by
  obtain ⟨⟨text, distinct⟩, rfl⟩ := build_eq_ok_iff.1 built
  exact ⟨text, .of_nodup (by simpa using hk) hp distinct⟩

theorem addProperty_eq_ok_iff {node next : Node} {property : Property} :
    node.addProperty property = .ok next ↔
      property.name ∉ node.allProperties.map Property.name ∧
        next = node.appendProperty property := by
  rw [addProperty, Except.map_eq_ok_iff]
  simp only [checkNewProperty, checkNewProperty_eq_ok_iff, exists_const, @eq_comm _ next]
  rfl

theorem Valid.addProperty {node next : Node} {property : Property} (valid : node.Valid)
    (hp : property.Valid) (added : node.addProperty property = .ok next) : next.Valid := by
  obtain ⟨fresh, rfl⟩ := addProperty_eq_ok_iff.1 added
  exact ⟨valid.label, valid.properties.append hp fresh⟩

theorem Valid.removeProperty {node : Node} (valid : node.Valid) (name : String) :
    (node.removeProperty name).Valid :=
  ⟨valid.label, valid.properties.erase name⟩

theorem Valid.withMetadata {node : Node} (valid : node.Valid) (metadata : NodeMetadata) :
    Valid { node with metadata } :=
  ⟨valid.label, valid.properties⟩

end Node

namespace Relationship

theorem blankText?_eq_none_iff {type startLabel endLabel : String} :
    blankText? type startLabel endLabel = none ↔
      Text.isBlank type = false ∧ Text.isBlank startLabel = false ∧
        Text.isBlank endLabel = false := by
  unfold blankText?
  split_ifs <;> simp_all

theorem build_eq_ok_iff {type startLabel endLabel : String} {key : Option Property}
    {properties : List Property} {metadata : RelationshipMetadata}
    {relationship : Relationship} :
    build type startLabel endLabel key properties metadata = .ok relationship ↔
      ((Text.isBlank type = false ∧ Text.isBlank startLabel = false ∧
          Text.isBlank endLabel = false) ∧
        ((withoutKey key properties).map Property.name).Nodup) ∧
        relationship =
          ⟨type, startLabel, endLabel, key, withoutKey key properties, metadata⟩ := by
  rw [← blankText?_eq_none_iff, build]
  cases blankText? type startLabel endLabel with
  | some field => simp
  | none => simp only [map_checkProperties_eq_ok_iff, true_and]

theorem build_of_nodup {type startLabel endLabel : String} {key : Option Property}
    {properties : List Property} (ht : Text.isBlank type = false)
    (hs : Text.isBlank startLabel = false) (he : Text.isBlank endLabel = false)
    (distinct : ((withKey key properties).map Property.name).Nodup)
    (metadata : RelationshipMetadata) :
    build type startLabel endLabel key properties metadata =
      .ok ⟨type, startLabel, endLabel, key, properties, metadata⟩ :=
  build_eq_ok_iff.2
    ⟨⟨⟨ht, hs, he⟩, nodup_withoutKey distinct⟩, by rw [withoutKey_of_nodup distinct]⟩

theorem valid_of_build {type startLabel endLabel : String} {key : Option Property}
    {properties : List Property} {metadata : RelationshipMetadata}
    {relationship : Relationship} (hk : ∀ k ∈ key, k.Valid) (hp : ∀ p ∈ properties, p.Valid)
    (built : build type startLabel endLabel key properties metadata = .ok relationship) :
    relationship.Valid := by
  obtain ⟨⟨⟨ht, hs, he⟩, distinct⟩, rfl⟩ := build_eq_ok_iff.1 built
  exact ⟨ht, hs, he, .of_nodup hk hp distinct⟩

theorem addProperty_eq_ok_iff {relationship next : Relationship} {property : Property} :
    relationship.addProperty property = .ok next ↔
      property.name ∉ relationship.allProperties.map Property.name ∧
        next = relationship.appendProperty property := by
  rw [addProperty, Except.map_eq_ok_iff]
  simp only [checkNewProperty, checkNewProperty_eq_ok_iff, exists_const, @eq_comm _ next]
  rfl

theorem Valid.addProperty {relationship next : Relationship} {property : Property}
    (valid : relationship.Valid) (hp : property.Valid)
    (added : relationship.addProperty property = .ok next) : next.Valid := by
  obtain ⟨fresh, rfl⟩ := addProperty_eq_ok_iff.1 added
  exact ⟨valid.type, valid.startLabel, valid.endLabel, valid.properties.append hp fresh⟩

theorem Valid.removeProperty {relationship : Relationship} (valid : relationship.Valid)
    (name : String) : (relationship.removeProperty name).Valid :=
  ⟨valid.type, valid.startLabel, valid.endLabel, valid.properties.erase name⟩

theorem Valid.withMetadata {relationship : Relationship} (valid : relationship.Valid)
    (metadata : RelationshipMetadata) : Valid { relationship with metadata } :=
  ⟨valid.type, valid.startLabel, valid.endLabel, valid.properties⟩

end Relationship
end PropertyGraph

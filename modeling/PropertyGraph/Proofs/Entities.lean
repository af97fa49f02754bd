import PropertyGraph.Proofs.Faults
import PropertyGraph.Proofs.Validity

/-! How nodes and relationships are made of parts. The texts must say something and the other
properties must be distinct; repetitions of the key do not count and are left out. What has been
accepted is accepted again as it is, so the check that an entity makes of its own parts changes
nothing. -/
namespace PropertyGraph

/-- A text that says something: not all of it is blank. -/
def HasText (text : String) : Prop := ∃ c ∈ text.toList, Text.isBlankChar c = false

lemma isBlank_eq_false_iff {text : String} : Text.isBlank text = false ↔ HasText text := by
  simp [Text.isBlank, HasText]

lemma isBlank_iff {text : String} : Text.isBlank text = true ↔ ¬ HasText text := by
  rw [← isBlank_eq_false_iff, Bool.not_eq_false]

lemma withoutKey_withoutKey (key : Option Property) (properties : List Property) :
    withoutKey key (withoutKey key properties) = withoutKey key properties := by
  simp [withoutKey]

namespace Node

/-- What is said of parts that make no node. -/
inductive Fault (label : String) (key : Property) (properties : List Property) :
    ModelError → Prop
  | blank (blank : ¬ HasText label) : Fault label key properties .blankLabel
  | repeated {name : String} {count : Nat} (text : HasText label)
      (first : FirstRepeat ((withoutKey (some key) properties).map Property.name) name count) :
      Fault label key properties (.repeatedProperty (.node label) name count)

variable {label : String} {key : Property} {properties : List Property}
  {metadata : NodeMetadata} {node : Node} {error : ModelError}

lemma build_eq_error_iff :
    build label key properties metadata = .error error ↔ Fault label key properties error := by
  rw [build]
  split_ifs with blank
  · simp only [Except.error.injEq]
    constructor
    · rintro rfl
      exact .blank (isBlank_iff.1 blank)
    · rintro (_ | ⟨text, -⟩)
      · rfl
      · exact absurd text (isBlank_iff.1 blank)
  · have text := not_not.1 (mt isBlank_iff.2 blank)
    rw [Except.map_eq_error_iff, checkProperties_eq_error_iff]
    constructor
    · rintro ⟨name, count, first, rfl⟩
      exact .repeated text first
    · rintro (without | ⟨-, first⟩)
      · exact absurd text without
      · exact ⟨_, _, first, rfl⟩

lemma build_again (built : build label key properties metadata = .ok node) :
    build node.label node.key node.properties node.metadata = .ok node := by
  obtain ⟨accepted, rfl⟩ := build_eq_ok_iff.1 built
  rw [build_eq_ok_iff, withoutKey_withoutKey]
  exact ⟨accepted, rfl⟩

lemma construct_eq_build :
    construct label key properties metadata = build label key properties metadata := by
  rw [construct]
  cases built : build label key properties metadata with
  | error e => rfl
  | ok parts => exact build_again built

lemma construct_eq_ok_iff :
    construct label key properties metadata = .ok node ↔
      (HasText label ∧ ((withoutKey (some key) properties).map Property.name).Nodup) ∧
        node = ⟨label, key, withoutKey (some key) properties, metadata⟩ := by
  rw [construct_eq_build, build_eq_ok_iff, isBlank_eq_false_iff]

lemma construct_eq_error_iff :
    construct label key properties metadata = .error error ↔
      Fault label key properties error := by
  rw [construct_eq_build, build_eq_error_iff]

end Node

namespace Relationship

/-- The first of the three texts that says nothing. -/
inductive FirstBlank (type startLabel endLabel : String) : RelationshipText → Prop
  | type (blank : ¬ HasText type) : FirstBlank type startLabel endLabel .type
  | startLabel (text : HasText type) (blank : ¬ HasText startLabel) :
      FirstBlank type startLabel endLabel .startLabel
  | endLabel (text : HasText type) (start : HasText startLabel) (blank : ¬ HasText endLabel) :
      FirstBlank type startLabel endLabel .endLabel

/-- What is said of parts that make no relationship. -/
inductive Fault (type startLabel endLabel : String) (key : Option Property)
    (properties : List Property) : ModelError → Prop
  | blank {field : RelationshipText} (first : FirstBlank type startLabel endLabel field) :
      Fault type startLabel endLabel key properties (.blankRelationship field)
  | repeated {name : String} {count : Nat} (text : HasText type) (start : HasText startLabel)
      (finish : HasText endLabel)
      (first : FirstRepeat ((withoutKey key properties).map Property.name) name count) :
      Fault type startLabel endLabel key properties
        (.repeatedProperty (.relationship (PropertyGraph.pattern startLabel type endLabel)) name
          count)

variable {type startLabel endLabel : String} {key : Option Property}
  {properties : List Property} {metadata : RelationshipMetadata} {relationship : Relationship}
  {error : ModelError}

lemma blankText?_eq_some_iff {field : RelationshipText} :
    blankText? type startLabel endLabel = some field ↔
      FirstBlank type startLabel endLabel field := by
  constructor
  · intro found
    unfold blankText? at found
    split_ifs at found with noType noStart noEnd
    · cases found
      exact .type (isBlank_iff.1 noType)
    · cases found
      exact .startLabel (not_not.1 (mt isBlank_iff.2 noType)) (isBlank_iff.1 noStart)
    · cases found
      exact .endLabel (not_not.1 (mt isBlank_iff.2 noType))
        (not_not.1 (mt isBlank_iff.2 noStart)) (isBlank_iff.1 noEnd)
  · rintro (blank | ⟨text, blank⟩ | ⟨text, start, blank⟩)
    · simp [blankText?, isBlank_iff.2 blank]
    · simp [blankText?, isBlank_eq_false_iff.2 text, isBlank_iff.2 blank]
    · simp [blankText?, isBlank_eq_false_iff.2 text, isBlank_eq_false_iff.2 start,
        isBlank_iff.2 blank]

lemma build_eq_error_iff :
    build type startLabel endLabel key properties metadata = .error error ↔
      Fault type startLabel endLabel key properties error := by
  rw [build]
  cases found : blankText? type startLabel endLabel with
  | some field =>
    have first := blankText?_eq_some_iff.1 found
    simp only [Except.error.injEq]
    constructor
    · rintro rfl
      exact .blank first
    · rintro (other | ⟨text, start, finish, -⟩)
      · rw [← blankText?_eq_some_iff, found, Option.some.injEq] at other
        rw [other]
      · cases first <;> contradiction
  | none =>
    obtain ⟨text, start, finish⟩ := blankText?_eq_none_iff.1 found
    rw [isBlank_eq_false_iff] at text start finish
    simp only [Except.map_eq_error_iff, checkProperties_eq_error_iff]
    constructor
    · rintro ⟨name, count, first, rfl⟩
      exact .repeated text start finish first
    · rintro (other | ⟨-, -, -, first⟩)
      · cases other <;> contradiction
      · exact ⟨_, _, first, rfl⟩

lemma build_again
    (built : build type startLabel endLabel key properties metadata = .ok relationship) :
    build relationship.type relationship.startLabel relationship.endLabel relationship.key
      relationship.properties relationship.metadata = .ok relationship := by
  obtain ⟨accepted, rfl⟩ := build_eq_ok_iff.1 built
  rw [build_eq_ok_iff, withoutKey_withoutKey]
  exact ⟨accepted, rfl⟩

lemma construct_eq_build :
    construct type startLabel endLabel key properties metadata =
      build type startLabel endLabel key properties metadata := by
  rw [construct]
  cases built : build type startLabel endLabel key properties metadata with
  | error e => rfl
  | ok parts => exact build_again built

lemma construct_eq_ok_iff :
    construct type startLabel endLabel key properties metadata = .ok relationship ↔
      ((HasText type ∧ HasText startLabel ∧ HasText endLabel) ∧
        ((withoutKey key properties).map Property.name).Nodup) ∧
        relationship =
          ⟨type, startLabel, endLabel, key, withoutKey key properties, metadata⟩ := by
  simp only [construct_eq_build, build_eq_ok_iff, isBlank_eq_false_iff]

lemma construct_eq_error_iff :
    construct type startLabel endLabel key properties metadata = .error error ↔
      Fault type startLabel endLabel key properties error := by
  rw [construct_eq_build, build_eq_error_iff]

end Relationship

/-- Parts make a node, or a relationship, exactly if the texts say something and the names of
the properties besides the key are distinct. It has these properties in their order, and its own
parts make it again. Of other parts the first fault is reported. -/
theorem construct_iff :
    (∀ label key properties metadata,
      Node.construct label key properties metadata = Node.build label key properties metadata ∧
      (∀ node, Node.construct label key properties metadata = .ok node ↔
        (HasText label ∧ ((withoutKey (some key) properties).map Property.name).Nodup) ∧
          node = ⟨label, key, withoutKey (some key) properties, metadata⟩) ∧
      (∀ node, Node.build label key properties metadata = .ok node →
        Node.build node.label node.key node.properties node.metadata = .ok node) ∧
      ∀ error, Node.construct label key properties metadata = .error error ↔
        Node.Fault label key properties error) ∧
    ∀ type startLabel endLabel key properties metadata,
      Relationship.construct type startLabel endLabel key properties metadata =
        Relationship.build type startLabel endLabel key properties metadata ∧
      (∀ relationship,
        Relationship.construct type startLabel endLabel key properties metadata =
          .ok relationship ↔
        ((HasText type ∧ HasText startLabel ∧ HasText endLabel) ∧
          ((withoutKey key properties).map Property.name).Nodup) ∧
          relationship =
            ⟨type, startLabel, endLabel, key, withoutKey key properties, metadata⟩) ∧
      (∀ relationship,
        Relationship.build type startLabel endLabel key properties metadata = .ok relationship →
          Relationship.build relationship.type relationship.startLabel relationship.endLabel
            relationship.key relationship.properties relationship.metadata = .ok relationship) ∧
      ∀ error, Relationship.construct type startLabel endLabel key properties metadata =
          .error error ↔
        Relationship.Fault type startLabel endLabel key properties error := by
  refine ⟨fun label key properties metadata => ?_,
    fun type startLabel endLabel key properties metadata => ?_⟩
  · exact ⟨Node.construct_eq_build, fun node => Node.construct_eq_ok_iff,
      fun node => Node.build_again, fun error => Node.construct_eq_error_iff⟩
  · exact ⟨Relationship.construct_eq_build, fun relationship => Relationship.construct_eq_ok_iff,
      fun relationship => Relationship.build_again,
      fun error => Relationship.construct_eq_error_iff⟩

/-- The key comes twice among the properties, which does not count, and of two repeated names
the one that begins first is named. -/
example :
    let named (name : String) : Property := ⟨name, "STRING", none, none, none⟩
    Node.construct "Author" (named "Id") (["Id", "born", "name", "name", "Id", "born"].map named)
      .empty = .error (.repeatedProperty (.node "Author") "born" 2) := by decide +kernel

end PropertyGraph

import PropertyGraph.Proofs.Diagram.Keys

/-! Models that a diagram can show without loss. Names must not be indexes, for these are put
in another order, nor that of a prototype, under which nothing is put. Types must not have
separators, and descriptions must be put together from segments as a diagram puts them
together. -/
namespace PropertyGraph

/-- A description that says something in every segment, with one blank at each side of a
separator and none at the ends. -/
def Diagram.PropertyText.Canonical (description : String) : Prop :=
  description ≠ "" ∧ (∀ segment ∈ segments description, segment ≠ "") ∧
    Text.join separator (segments description) = description

instance (description : String) : Decidable (Diagram.PropertyText.Canonical description) :=
  inferInstanceAs (Decidable (_ ∧ (∀ segment ∈ _, _) ∧ _))

open Diagram.PropertyText (Canonical segments keyMark)

structure Property.Drawable (property : Property) : Prop where
  name : Members.isIndex property.name = false
  ordinary : property.name ≠ Members.prototype
  type : '|' ∉ property.type.toList
  description : ∀ d ∈ property.description, Canonical d

instance (property : Property) : Decidable property.Drawable :=
  decidable_of_iff (_ ∧ _ ∧ _ ∧ ∀ d ∈ property.description, Canonical d)
    ⟨fun h => ⟨h.1, h.2.1, h.2.2.1, h.2.2.2⟩,
      fun h => ⟨h.name, h.ordinary, h.type, h.description⟩⟩

/-- A property that is read as it is written, wherever it stands. -/
structure Property.Legible (property : Property) : Prop where
  type : '|' ∉ property.type.toList
  description : ∀ d ∈ property.description, Canonical d

lemma Property.Drawable.legible {property : Property} (drawable : property.Drawable) :
    property.Legible :=
  ⟨drawable.type, drawable.description⟩

/-- A model that a diagram can show without loss. -/
structure Model.Drawable (model : Model) : Prop where
  nodes : ∀ node ∈ model.nodes, ∀ p ∈ node.allProperties, p.Drawable
  relationships : ∀ relationship ∈ model.relationships,
    ∀ p ∈ relationship.allProperties, p.Drawable
  keyless : ∀ relationship ∈ model.relationships, relationship.key = none →
    ∀ p ∈ relationship.properties, ∀ d ∈ p.description, ∀ last ∈ (segments d).getLast?,
      Text.upper last ≠ keyMark

instance (model : Model) : Decidable model.Drawable :=
  decidable_of_iff
    ((∀ node ∈ model.nodes, ∀ p ∈ node.allProperties, p.Drawable) ∧
      (∀ relationship ∈ model.relationships, ∀ p ∈ relationship.allProperties, p.Drawable) ∧
      ∀ relationship ∈ model.relationships, relationship.key = none →
        ∀ p ∈ relationship.properties, ∀ d ∈ p.description, ∀ last ∈ (segments d).getLast?,
          Text.upper last ≠ keyMark)
    ⟨fun h => ⟨h.1, h.2.1, h.2.2⟩, fun h => ⟨h.nodes, h.relationships, h.keyless⟩⟩

lemma Model.Drawable.ordinaryNames {model : Model} (drawable : model.Drawable) :
    model.OrdinaryNames :=
  ⟨fun node member p inside => (drawable.nodes node member p inside).ordinary,
    fun relationship member p inside => (drawable.relationships relationship member p inside).ordinary⟩

/-- What a diagram shows of a property: its name, its type and its description. -/
def Property.shown (property : Property) : Property :=
  ⟨property.name, property.type, none, property.description, none⟩

/-- A node as it is once a diagram has carried it. -/
structure Node.DrawnAs (grid : Grid) (index : Nat) (node back : Node) : Prop where
  label : back.label = node.label
  key : back.key = node.key.shown
  properties : back.properties = node.properties.map Property.shown
  position : back.metadata.diagramPosition? =
    some ((node.metadata.diagramPosition? <|> node.metadata.place).getD (grid.place index))

/-- A relationship as it is once a diagram has carried it. -/
structure Relationship.DrawnAs (relationship back : Relationship) : Prop where
  type : back.type = relationship.type
  startLabel : back.startLabel = relationship.startLabel
  endLabel : back.endLabel = relationship.endLabel
  key : back.key = relationship.key.map Property.shown
  properties : back.properties = relationship.properties.map Property.shown

namespace Diagram
open PropertyText (parse joined? segments_of_plain segments_format segments_nonempty
  joined?_of_ne_empty type_parse description_key description_plain)

section Properties

variable {property : Property}

def descriptionSegments (property : Property) : List String :=
  property.description.toList.flatMap segments

lemma segments_type (valid : property.Valid) (legible : property.Legible) :
    segments property.type = [property.type] := by
  obtain ⟨text, normal⟩ := valid.type
  exact segments_of_plain legible.type (normal ▸ (TypeTag.trimmed_normalize text).2)

lemma filter_description (legible : property.Legible) :
    property.description.filter (!·.isEmpty) = property.description := by
  cases given : property.description with
  | none => rfl
  | some d => simp [(legible.description d given).1]

lemma segments_of_legible (valid : property.Valid) (legible : property.Legible)
    (isKey : Bool) : segments (PropertyText.format property isKey) =
      property.type :: (descriptionSegments property ++ if isKey then [keyMark] else []) := by
  rw [segments_format, filter_description legible, segments_type valid legible]
  rfl

lemma joined_descriptionSegments (legible : property.Legible) :
    joined? (descriptionSegments property) = property.description := by
  rw [descriptionSegments]
  cases given : property.description with
  | none => rfl
  | some d =>
    obtain ⟨-, each, joins⟩ := legible.description d given
    rw [Option.toList_some, List.flatMap_singleton,
      joined?_of_ne_empty (segments_nonempty d) each, joins]

lemma keyOf_textOf (valid : property.Valid) (legible : property.Legible) :
    keyOf (textOf true property) = property.shown := by
  have split := segments_of_legible valid legible true
  have description := description_key split (isTagged_key property)
  rw [if_pos rfl, List.dropLast_concat, joined_descriptionSegments legible] at description
  simp only [keyOf, textOf, type_parse split, valid.normalize_type, description]
  rfl

lemma plainOf_textOf (valid : property.Valid) (legible : property.Legible) :
    plainOf (textOf false property) = property.shown := by
  have split := segments_of_legible valid legible false
  have description := description_plain split
  rw [if_neg (by simp), List.append_nil, joined_descriptionSegments legible] at description
  simp only [plainOf, textOf, type_parse split, valid.normalize_type, description]
  rfl

lemma readsAsKey_of_drawable (valid : property.Valid) (drawable : property.Drawable)
    (plain : ∀ d ∈ property.description, ∀ last ∈ (segments d).getLast?,
      Text.upper last ≠ keyMark) : property.readsAsKey = false := by
  rw [← Bool.not_eq_true]
  intro marked
  obtain ⟨last, ends, reads⟩ := (readsAsKey_iff (segments_type valid drawable.legible)).1 marked
  rw [List.nil_append, filter_description drawable.legible] at ends
  cases given : property.description with
  | none => simp [given] at ends
  | some d =>
    rw [given, Option.toList_some, List.flatMap_singleton] at ends
    exact plain d given last ends reads

end Properties

section Entities

variable {key : Option Property} {properties : List Property}

lemma arrange_map_textOf (ordered : Members.InOrder (properties.map Property.name)) :
    Members.arrange (properties.map (textOf false)) = properties.map (textOf false) := by
  rw [Members.arrange_eq_self_iff, List.map_map]
  exact ordered

lemma map_plainOf_textOf (valid : ∀ p ∈ properties, p.Valid)
    (legible : ∀ p ∈ properties, p.Legible) :
    (properties.map (textOf false)).map plainOf = properties.map Property.shown := by
  rw [List.map_map]
  exact List.map_congr_left fun p member => plainOf_textOf (valid p member) (legible p member)

lemma splitTexts_write_none (valid : Writable none properties)
    (legible : ∀ p ∈ properties, p.Legible)
    (ordered : Members.InOrder (properties.map Property.name))
    (keeps : KeepsKey none properties) :
    splitTexts (writeProperties none properties) = (none, properties.map Property.shown) := by
  have written : writeProperties none properties = properties.map (textOf false) := by
    rw [writeProperties_eq valid, textsOf, Option.toList_none, List.map_nil, List.nil_append,
      arrange_map_textOf ordered]
  have untagged : ∀ entry ∈ properties.map (textOf false), ¬ isTagged entry = true := by
    intro entry member tagged
    obtain ⟨p, inside, rfl⟩ := List.mem_map.1 member
    obtain ⟨k, none, -⟩ := keeps p inside tagged
    cases none
  have each : ∀ p ∈ properties, p.Valid := fun p member => valid.each p (by simp [withKey, member])
  rw [written, splitTexts, List.find?_eq_none.2 untagged, List.eraseP_of_forall_not untagged,
    map_plainOf_textOf each legible]
  rfl

lemma splitTexts_write_some {k : Property} (valid : Writable (some k) properties)
    (own : k.Legible) (legible : ∀ p ∈ properties, p.Legible)
    (ordered : Members.InOrder (properties.map Property.name))
    (keeps : KeepsKey (some k) properties) :
    splitTexts (writeProperties (some k) properties) =
      (some k.shown, properties.map Property.shown) := by
  obtain ⟨before, after, arranged, rest, earlier, -⟩ :=
    Members.exists_arrange_cons_eq (textOf true k) (properties.map (textOf false))
  have written : writeProperties (some k) properties = before ++ textOf true k :: after := by
    rw [writeProperties_eq valid, ← arranged]
    rfl
  rw [arrange_map_textOf ordered] at rest
  have untagged : ∀ entry ∈ before, ¬ isTagged entry = true := by
    intro entry former tagged
    obtain ⟨p, inside, rfl⟩ : ∃ p ∈ properties, textOf false p = entry := by
      rw [← List.mem_map, rest]
      exact List.mem_append_left _ former
    obtain ⟨_, ⟨rfl⟩, behind⟩ := keeps p inside tagged
    have precedes := earlier _ former
    rw [textOf, textOf, behind] at precedes
    cases precedes
  have each := valid.each
  rw [withKey, List.forall_mem_append] at each
  have first := isTagged_key k
  rw [written, splitTexts, List.find?_append, List.find?_eq_none.2 untagged,
    List.find?_cons_of_pos first, List.eraseP_append_right _ untagged,
    List.eraseP_cons_of_pos first, ← rest, map_plainOf_textOf each.2 legible, Option.none_or,
    Option.map_some, keyOf_textOf (each.1 k (by simp)) own]

/-- The properties of an entity that stand in order are read as they are written exactly if
the key is kept. -/
theorem splitTexts_write_eq_iff (valid : Writable key properties)
    (legible : ∀ p ∈ withKey key properties, p.Legible)
    (ordered : Members.InOrder (properties.map Property.name)) :
    splitTexts (writeProperties key properties) =
      (key.map Property.shown, properties.map Property.shown) ↔ KeepsKey key properties := by
  constructor
  · intro same
    rw [← name_key_iff valid, same, Option.map_map]
    rfl
  · rw [withKey, List.forall_mem_append] at legible
    cases key with
    | none => exact splitTexts_write_none valid legible.2 ordered
    | some k => exact splitTexts_write_some valid (legible.1 k (by simp)) legible.2 ordered

lemma keepsKey_of_drawable (drawable : ∀ p ∈ properties, p.Drawable)
    (keyless : key = none → ∀ p ∈ properties, p.readsAsKey = false) : KeepsKey key properties := by
  intro p member reads
  cases key with
  | none => simp [keyless rfl p member] at reads
  | some k => exact ⟨k, rfl, Members.precedes_of_not_index (drawable p member).name k.name⟩

/-- The properties of an entity are read as they are written. -/
theorem splitTexts_of_drawable (valid : ValidProperties key properties)
    (drawable : ∀ p ∈ withKey key properties, p.Drawable)
    (keyless : key = none → ∀ p ∈ properties, p.readsAsKey = false) :
    splitTexts (writeProperties key properties) =
      (key.map Property.shown, properties.map Property.shown) := by
  have others : ∀ p ∈ properties, p.Drawable :=
    fun p member => drawable p (List.mem_append_right _ member)
  have ordered : Members.InOrder (properties.map Property.name) := by
    refine Members.inOrder_of_not_index fun name member => ?_
    obtain ⟨p, inside, rfl⟩ := List.mem_map.1 member
    exact (others p inside).name
  have writable : Writable key properties := ⟨valid, fun p member => (drawable p member).ordinary⟩
  exact (splitTexts_write_eq_iff writable (fun p member => (drawable p member).legible) ordered).2
    (keepsKey_of_drawable others keyless)

end Entities

section Models

variable {model : Model} {settings : Settings}

lemma drawnAs_redrawn_node {node : Node} (valid : node.Valid)
    (drawable : ∀ p ∈ node.allProperties, p.Drawable) (grid : Grid) (index : Nat) :
    node.DrawnAs grid index (node.redrawn grid index) := by
  have split := splitTexts_of_drawable valid.properties drawable nofun
  refine ⟨rfl, ?_, ?_, rfl⟩
  · simp [Node.redrawn, split]
  · simp [Node.redrawn, split]

lemma drawnAs_redrawn_relationship {relationship : Relationship} (valid : relationship.Valid)
    (drawable : ∀ p ∈ relationship.allProperties, p.Drawable)
    (keyless : relationship.key = none → ∀ p ∈ relationship.properties, p.readsAsKey = false) :
    relationship.DrawnAs relationship.redrawn := by
  have split := splitTexts_of_drawable valid.properties drawable keyless
  refine ⟨rfl, rfl, rfl, ?_, ?_⟩
  · simp [Relationship.redrawn, split]
  · simp [Relationship.redrawn, split]

/-- A drawable model with finite positions is read from its diagram with all names, types and
descriptions, keys in their place and everything else in order. Every node has the place that
it is drawn at. -/
theorem drawnAs_of_read_write (reachable : model.Reachable) (positions : model.PositionsFinite)
    (drawable : model.Drawable) {asked : Option Json}
    (resolved : Settings.resolve asked = .ok settings)
    (finite : settings.grid.spacing.isFinite = true) :
    ∃ diagram back, (write model asked).answer = .ok diagram ∧
      (read (some diagram.toJson)).answer = .ok back ∧
      List.Forall₂ (fun node back => Node.DrawnAs settings.grid node.2 node.1 back)
        model.nodes.zipIdx back.nodes ∧
      List.Forall₂ Relationship.DrawnAs model.relationships back.relationships := by
  obtain ⟨diagram, written, read⟩ := exists_read_eq reachable drawable.ordinaryNames positions resolved finite
  have valid := reachable.valid
  refine ⟨diagram, _, written, read, ?_, ?_⟩
  · rw [Model.redrawn, List.mapIdx_eq_zipIdx_map, List.forall₂_map_right_iff, List.forall₂_same]
    rintro ⟨node, index⟩ listed
    have member := List.mem_of_getElem? (List.mem_zipIdx_iff_getElem?.1 listed)
    exact drawnAs_redrawn_node (valid.nodes node member) (drawable.nodes node member) _ index
  · rw [Model.redrawn, List.forall₂_map_right_iff, List.forall₂_same]
    intro relationship member
    have relationshipValid := valid.relationships relationship member
    have each := drawable.relationships relationship member
    refine drawnAs_redrawn_relationship relationshipValid each fun bare p inside => ?_
    have known : p ∈ relationship.allProperties := List.mem_append_right _ inside
    exact readsAsKey_of_drawable (relationshipValid.properties.each p known) (each p known)
      (drawable.keyless relationship member bare p inside)

def volumeKey : Property := ⟨"serial", "KEY", none, some "Inventory | key", none⟩

def volume : Node :=
  ⟨"Volume", volumeKey, [describedAs "kind" "key"], ⟨none, some ⟨1, 2⟩⟩⟩

def binds : Relationship :=
  ⟨"BINDS", "Volume", "Volume", some (.ofName "id"), [describedAs "state" "old | Key"], .empty⟩

def owns : Relationship :=
  ⟨"OWNS", "Volume", "Volume", none, [describedAs "since" "KEY | year"], .empty⟩

def volumes : Model := ⟨[volume], [binds, owns], .empty⟩

lemma volumes_reachable : volumes.Reachable := by
  have key : volumeKey.Built := ⟨⟨"serial", some "key", none, some "Inventory | key", none⟩, by
    decide +kernel⟩
  have id : (Property.ofName "id").Built := Property.ofName_built rfl
  have kind : (describedAs "kind" "key").Built := describedAs_built rfl "key"
  have state : (describedAs "state" "old | Key").Built := describedAs_built rfl "old | Key"
  have since : (describedAs "since" "KEY | year").Built := describedAs_built rfl "KEY | year"
  have node : Node.build "Volume" volumeKey [describedAs "kind" "key"] ⟨none, some ⟨1, 2⟩⟩ =
      .ok volume := rfl
  have first : Relationship.build "BINDS" "Volume" "Volume" (some (.ofName "id"))
      [describedAs "state" "old | Key"] .empty = .ok binds := rfl
  have second : Relationship.build "OWNS" "Volume" "Volume" none
      [describedAs "since" "KEY | year"] .empty = .ok owns := rfl
  have nodes : volume.Reachable := .build key (by simp [kind]) node
  have keyed : binds.Reachable := .build (by simp [id]) (by simp [state]) first
  have bare : owns.Reachable := .build (by simp) (by simp [since]) second
  have built : Model.build [volume] [binds, owns] .empty = .ok volumes := by decide +kernel
  exact .initial (.build (by simpa using nodes) (by simp [keyed, bare]) built)

theorem drawnAs_of_read_write_volumes : ∃ diagram back,
    (write volumes none).answer = .ok diagram ∧ (read (some diagram.toJson)).answer = .ok back ∧
      back.nodes.map (fun node => (node.key, node.properties)) =
        [(volumeKey, [describedAs "kind" "key"])] ∧
      back.nodes.map (·.metadata.diagramPosition?) = [some ⟨1, 2⟩] ∧
      back.relationships.map (fun relationship => (relationship.key, relationship.properties)) =
        [(some (.ofName "id"), [describedAs "state" "old | Key"]),
          (none, [describedAs "since" "KEY | year"])] := by
  have positions : volumes.PositionsFinite := by
    intro node member position known
    obtain rfl := List.mem_singleton.1 member
    rcases known with placed | drawn
    · obtain rfl : (⟨1, 2⟩ : Position) = position := Option.some.inj placed
      exact ⟨by decide +kernel, by decide +kernel⟩
    · exact absurd drawn (by simp [volume, NodeMetadata.diagramPosition?])
  have drawable : volumes.Drawable := by decide +kernel
  have resolved : Settings.resolve none = .ok Settings.standard := by decide +kernel
  obtain ⟨diagram, back, written, read, nodes, relationships⟩ :=
    drawnAs_of_read_write volumes_reachable positions drawable resolved (by decide +kernel)
  refine ⟨diagram, back, written, read, ?_⟩
  obtain ⟨node, rest, first, none, same⟩ := List.forall₂_cons_left_iff.1 nodes
  obtain rfl := List.forall₂_nil_left_iff.1 none
  obtain ⟨keyed, others, second, more, listed⟩ := List.forall₂_cons_left_iff.1 relationships
  obtain ⟨bare, others, third, none, rfl⟩ := List.forall₂_cons_left_iff.1 more
  obtain rfl := List.forall₂_nil_left_iff.1 none
  simp only [same, listed, List.map_cons, List.map_nil, first.key, first.properties,
    first.position, second.key, second.properties, third.key, third.properties]
  exact ⟨rfl, rfl, rfl⟩

end Models
end Diagram
end PropertyGraph

import PropertyGraph.Diagram.Export
import PropertyGraph.Proofs.Diagram.Codec
import PropertyGraph.Proofs.Diagram.PropertyText
import PropertyGraph.Proofs.Reachable
import PropertyGraph.Proofs.ReferenceGraph.Export

/-! Diagrams of models, read again. Every valid model with finite positions is read from its
diagram as a model again, with the same labels, types and ends; what becomes of the properties
of an entity is said by their texts alone. -/
namespace PropertyGraph

namespace Diagram
open PropertyText (parse)

section Texts

def isTagged (entry : String × String) : Bool := (parse entry.2).isKey

def keyOf (entry : String × String) : Property :=
  ⟨entry.1, TypeTag.normalize (parse entry.2).type, none, (parse entry.2).description, none⟩

def plainOf (entry : String × String) : Property :=
  ⟨entry.1, TypeTag.normalize (parse entry.2).type, none,
    PropertyText.joined? ((parse entry.2).description.toList ++ (parse entry.2).keyTag.toList),
    none⟩

/-- The first text with the mark of a key stands for the key, the others for properties. -/
def splitTexts (texts : List (String × String)) : Option Property × List Property :=
  ((texts.find? isTagged).map keyOf, (texts.eraseP isTagged).map plainOf)

variable {texts : List (String × String)}

lemma readProperties_some (key : Property)
    (named : ∀ entry ∈ texts, Text.isBlank entry.1 = false) :
    readProperties (some key) texts = .ok (some key, texts.map plainOf) := by
  induction texts with
  | nil => rfl
  | cons entry rest ih =>
    obtain ⟨name, text⟩ := entry
    rw [List.forall_mem_cons] at named
    have built : (parse text).plainProperty name = .ok (plainOf (name, text)) := by
      simp [PropertyText.plainProperty, Property.build, named.1, plainOf]
    simp only [readProperties, Option.isNone_some, Bool.and_false, Bool.false_eq_true, if_false]
    rw [built, ih named.2]
    rfl

theorem readProperties_eq (named : ∀ entry ∈ texts, Text.isBlank entry.1 = false) :
    readProperties none texts = .ok (splitTexts texts) := by
  induction texts with
  | nil => rfl
  | cons entry rest ih =>
    obtain ⟨name, text⟩ := entry
    rw [List.forall_mem_cons] at named
    by_cases tagged : (parse text).isKey = true
    · have built : (parse text).keyProperty name = .ok (keyOf (name, text)) := by
        simp [PropertyText.keyProperty, Property.build, named.1, keyOf]
      have split : splitTexts ((name, text) :: rest) =
          (some (keyOf (name, text)), rest.map plainOf) := by
        simp [splitTexts, isTagged, tagged]
      simp only [readProperties, tagged, Option.isNone_none, Bool.and_self, if_true]
      rw [built, split]
      exact readProperties_some _ named.2
    · have built : (parse text).plainProperty name = .ok (plainOf (name, text)) := by
        simp [PropertyText.plainProperty, Property.build, named.1, plainOf]
      have split : splitTexts ((name, text) :: rest) =
          ((splitTexts rest).1, plainOf (name, text) :: (splitTexts rest).2) := by
        simp [splitTexts, isTagged, tagged]
      simp only [readProperties, tagged, Bool.false_and, Bool.false_eq_true, if_false]
      rw [built, ih named.2, split]
      rfl

lemma named_of_readProperties {key : Option Property} {parts : Option Property × List Property}
    (read : readProperties key texts = .ok parts) :
    ∀ entry ∈ texts, Text.isBlank entry.1 = false := by
  induction texts generalizing key parts with
  | nil => simp
  | cons entry rest ih =>
    obtain ⟨name, text⟩ := entry
    rw [List.forall_mem_cons]
    simp only [readProperties] at read
    split_ifs at read
    · obtain ⟨made, built, read⟩ := Except.bind_eq_ok_iff.1 read
      exact ⟨Property.name_of_build built, ih read⟩
    · simp only [Except.bind_eq_ok_iff] at read
      obtain ⟨made, built, others, read, -⟩ := read
      exact ⟨Property.name_of_build built, ih read⟩

theorem readProperties_eq_ok_iff {parts : Option Property × List Property} :
    readProperties none texts = .ok parts ↔
      (∀ entry ∈ texts, Text.isBlank entry.1 = false) ∧ parts = splitTexts texts := by
  constructor
  · intro read
    have named := named_of_readProperties read
    rw [readProperties_eq named, Except.ok.injEq] at read
    exact ⟨named, read.symm⟩
  · rintro ⟨named, rfl⟩
    exact readProperties_eq named

lemma names_splitTexts (texts : List (String × String)) :
    ((withKey (splitTexts texts).1 (splitTexts texts).2).map Property.name).Perm
      (texts.map Prod.fst) := by
  cases found : texts.find? isTagged with
  | none =>
    have untagged : ∀ entry ∈ texts, ¬ isTagged entry = true := List.find?_eq_none.1 found
    simp [splitTexts, found, withKey, List.eraseP_of_forall_not untagged, plainOf,
      Function.comp_def]
  | some entry =>
    obtain ⟨tagged, before, after, rfl, untagged⟩ := List.find?_eq_some_iff_append.1 found
    have others : ∀ other ∈ before, ¬ isTagged other = true := by simpa using untagged
    have erased : (before ++ entry :: after).eraseP isTagged = before ++ after := by
      rw [List.eraseP_append_right _ others, List.eraseP_cons_of_pos tagged]
    simp only [splitTexts, found, erased, withKey]
    simpa [keyOf, plainOf, Function.comp_def] using List.perm_middle.symm

end Texts

section Writing

variable {key : Option Property} {properties : List Property}

def textOf (isKey : Bool) (property : Property) : String × String :=
  (property.name, PropertyText.format property isKey)

def textsOf (key : Option Property) (properties : List Property) : List (String × String) :=
  key.toList.map (textOf true) ++ properties.map (textOf false)

lemma map_fst_textsOf (key : Option Property) (properties : List Property) :
    (textsOf key properties).map Prod.fst = (withKey key properties).map Property.name := by
  simp [textsOf, textOf, withKey, Function.comp_def]

/-- Properties whose texts an object can have: they are valid, and none of them has the name of a
prototype. -/
structure Writable (key : Option Property) (properties : List Property) : Prop extends
    ValidProperties key properties where
  ordinary : ∀ p ∈ withKey key properties, p.name ≠ Members.prototype

lemma writeProperties_eq (valid : Writable key properties) :
    writeProperties key properties = Members.arrange (textsOf key properties) := by
  have distinct : ((textsOf key properties).map Prod.fst).Nodup :=
    map_fst_textsOf key properties ▸ valid.names
  have ordinary : ∀ entry ∈ textsOf key properties, entry.1 ≠ Members.prototype := by
    intro entry member
    have named : entry.1 ∈ (textsOf key properties).map Prod.fst := List.mem_map_of_mem member
    rw [map_fst_textsOf] at named
    obtain ⟨p, inside, same⟩ := List.mem_map.1 named
    exact same ▸ valid.ordinary p inside
  change Members.assign (Members.merge (textsOf key properties)) = _
  rw [Members.merge_of_nodup distinct, Members.assign_eq_arrange ordinary]

lemma names_writeProperties (valid : Writable key properties) :
    ((writeProperties key properties).map Prod.fst).Perm
      ((withKey key properties).map Property.name) := by
  rw [writeProperties_eq valid, ← map_fst_textsOf]
  exact (Members.arrange_perm _).map _

lemma readProperties_write (valid : Writable key properties) :
    readProperties none (writeProperties key properties) =
      .ok (splitTexts (writeProperties key properties)) := by
  refine readProperties_eq fun entry member => ?_
  have named : entry.1 ∈ (withKey key properties).map Property.name :=
    (names_writeProperties valid).mem_iff.1 (List.mem_map_of_mem member)
  obtain ⟨property, inside, same⟩ := List.mem_map.1 named
  exact same ▸ (valid.each property inside).name

lemma names_split_write (valid : Writable key properties) :
    ((withKey (splitTexts (writeProperties key properties)).1
      (splitTexts (writeProperties key properties)).2).map Property.name).Perm
        ((withKey key properties).map Property.name) :=
  (names_splitTexts _).trans (names_writeProperties valid)

lemma isTagged_key (key : Property) : isTagged (textOf true key) = true := by
  obtain ⟨type, rest, split⟩ :=
    List.exists_cons_of_ne_nil (PropertyText.segments_nonempty key.type)
  have segments := PropertyText.segments_format key true
  rw [split, List.cons_append, List.cons_append] at segments
  refine (PropertyText.isKey_parse_iff segments).2 ⟨PropertyText.keyMark, ?_, by decide +kernel⟩
  simp

end Writing
end Diagram

open Diagram (splitTexts writeProperties)

/-- No property has the name of a prototype. -/
structure Model.OrdinaryNames (model : Model) : Prop where
  nodes : ∀ node ∈ model.nodes, ∀ p ∈ node.allProperties, p.name ≠ Members.prototype
  relationships : ∀ relationship ∈ model.relationships, ∀ p ∈ relationship.allProperties,
    p.name ≠ Members.prototype

instance (model : Model) : Decidable model.OrdinaryNames :=
  decidable_of_iff
    ((∀ node ∈ model.nodes, ∀ p ∈ node.allProperties, p.name ≠ Members.prototype) ∧
      ∀ relationship ∈ model.relationships, ∀ p ∈ relationship.allProperties,
        p.name ≠ Members.prototype)
    ⟨fun h => ⟨h.1, h.2⟩, fun h => ⟨h.nodes, h.relationships⟩⟩

def Node.redrawn (grid : Grid) (index : Nat) (node : Node) : Node :=
  let box := (Diagram.Box.ofNode grid index node).normal
  let parts := splitTexts (writeProperties (some node.key) node.properties)
  ⟨node.label, parts.1.getD node.key, parts.2,
    ⟨some ⟨box.position, box.caption, box.style⟩, none⟩⟩

def Relationship.redrawn (relationship : Relationship) : Relationship :=
  let arrow := (Diagram.Arrow.ofRelationship relationship).normal
  let parts := splitTexts (writeProperties relationship.key relationship.properties)
  ⟨relationship.type, relationship.startLabel, relationship.endLabel, parts.1, parts.2,
    ⟨arrow.style.map fun style => ⟨some style⟩⟩⟩

/-- The model as it is read from its diagram. -/
def Model.redrawn (grid : Grid) (model : Model) : Model :=
  ⟨model.nodes.mapIdx (Node.redrawn grid), model.relationships.map Relationship.redrawn,
    ⟨(Diagram.ofModel grid model).normal.style.map fun style => ⟨some style⟩, none⟩⟩

namespace Diagram

section Reading

variable {model : Model} {grid : Grid} {node : Node} {relationship : Relationship}

lemma properties_normal (key : Option Property) (properties : List Property) :
    Members.assign (writeProperties key properties) = writeProperties key properties :=
  Members.assign_assign _

lemma exists_key_split {key : Property} {properties : List Property}
    (valid : Writable (some key) properties) :
    ∃ first, (splitTexts (writeProperties (some key) properties)).1 = some first := by
  have listed : textOf true key ∈ writeProperties (some key) properties := by
    rw [writeProperties_eq valid, (Members.arrange_perm _).mem_iff]
    simp [textsOf]
  have found := List.find?_isSome.2 ⟨_, listed, isTagged_key key⟩
  obtain ⟨entry, known⟩ := Option.isSome_iff_exists.1 found
  exact ⟨keyOf entry, by simp [splitTexts, known]⟩

lemma toNode_ofNode (valid : node.Valid) (writable : Writable (some node.key) node.properties)
    (index : Nat) : (Box.ofNode grid index node).normal.toNode = .ok (node.redrawn grid index) := by
  obtain ⟨key, first⟩ := exists_key_split writable
  have distinct := (names_split_write writable).nodup_iff.2 valid.properties.names
  have read : readProperties none (Box.ofNode grid index node).normal.properties =
      .ok (some key, (splitTexts (writeProperties (some node.key) node.properties)).2) := by
    rw [← first, ← readProperties_write writable]
    exact congrArg _ (properties_normal _ _)
  rw [first] at distinct
  have label : (Box.ofNode grid index node).normal.label = node.label := rfl
  rw [Box.toNode, read]
  simp only [bind, Except.bind, label, Node.build_of_nodup valid.label distinct]
  simp only [Node.redrawn, first]
  rfl

lemma mem_boxes_ofModel {box : Box} (member : box ∈ (ofModel grid model).normal.boxes) :
    ∃ index node, model.nodes[index]? = some node ∧ (Box.ofNode grid index node).normal = box := by
  obtain ⟨drawn, inside, rfl⟩ := List.mem_map.1 member
  obtain ⟨index, bound, rfl⟩ := List.mem_mapIdx.1 inside
  exact ⟨index, _, List.getElem?_eq_getElem bound, rfl⟩

lemma endLabel_ofModel {label : String} (known : label ∈ model.labels) (index : Nat)
    (member : String) :
    endLabel (ofModel grid model).normal.boxes index member label = .ok label := by
  obtain ⟨node, inside, rfl⟩ := List.mem_map.1 known
  obtain ⟨place, bound, rfl⟩ := List.mem_iff_getElem.1 inside
  have listed : (Box.ofNode grid place model.nodes[place]).normal ∈
      (ofModel grid model).normal.boxes :=
    List.mem_map_of_mem (List.mem_mapIdx.2 ⟨place, bound, rfl⟩)
  have some : ((ofModel grid model).normal.boxes.reverse.find?
      (·.id = model.nodes[place].label)).isSome := by
    rw [List.find?_isSome]
    exact ⟨_, List.mem_reverse.2 listed, decide_eq_true rfl⟩
  obtain ⟨box, found⟩ := Option.isSome_iff_exists.1 some
  have same : box.id = model.nodes[place].label := by simpa using List.find?_some found
  obtain ⟨_, _, -, rfl⟩ :=
    mem_boxes_ofModel (List.mem_reverse.1 (List.mem_of_find?_eq_some found))
  rw [endLabel, labelOf?, found]
  exact congrArg Except.ok same

lemma toRelationship_ofRelationship (valid : relationship.Valid)
    (writable : Writable relationship.key relationship.properties)
    (start : relationship.startLabel ∈ model.labels)
    (finish : relationship.endLabel ∈ model.labels) (index : Nat) :
    (Arrow.ofRelationship relationship).normal.toRelationship (ofModel grid model).normal.boxes
      index = .ok relationship.redrawn := by
  have distinct := (names_split_write writable).nodup_iff.2 valid.properties.names
  have read : readProperties none (Arrow.ofRelationship relationship).normal.properties =
      .ok (splitTexts (writeProperties relationship.key relationship.properties)) := by
    rw [← readProperties_write writable]
    exact congrArg _ (properties_normal _ _)
  have built : Relationship.build relationship.type relationship.startLabel
      relationship.endLabel
      (splitTexts (writeProperties relationship.key relationship.properties)).1
      (splitTexts (writeProperties relationship.key relationship.properties)).2
      relationship.redrawn.metadata = .ok relationship.redrawn :=
    Relationship.build_of_nodup valid.type valid.startLabel valid.endLabel distinct _
  exact Except.bind_eq_ok_iff.2 ⟨_, endLabel_ofModel start index "fromId",
    Except.bind_eq_ok_iff.2 ⟨_, endLabel_ofModel finish index "toId",
      Except.bind_eq_ok_iff.2 ⟨_, read, built⟩⟩⟩

end Reading

section Models

variable {grid : Grid}

lemma labels_redrawn {model : Model} : (model.redrawn grid).labels = model.labels := by
  refine List.ext_getElem (by simp [Model.redrawn, Model.labels]) fun i _ _ => ?_
  simp [Model.redrawn, Model.labels, Node.redrawn]

lemma patterns_redrawn {model : Model} : (model.redrawn grid).patterns = model.patterns := by
  rw [Model.patterns, Model.redrawn, List.map_map]
  rfl

lemma place_isNumber (regular : grid.Regular) (finite : grid.spacing.isFinite = true)
    {node : Node} (places : ∀ position, node.metadata.place = some position ∨
      node.metadata.diagramPosition? = some position → position.Finite) (index : Nat) :
    (Box.place grid index node).x.isNaN = false ∧ (Box.place grid index node).y.isNaN = false := by
  rw [Box.place]
  cases drawn : node.metadata.diagramPosition? with
  | some position => exact (places position (.inr drawn)).isNumber
  | none =>
    cases place : node.metadata.place with
    | some position => exact (places position (.inl place)).isNumber
    | none => exact regular.place_isNumber finite index

section Valid

variable (model : ValidModel)

lemma writable_node (ordinary : model.OrdinaryNames) {node : Node}
    (member : node ∈ model.nodes) : Writable (some node.key) node.properties :=
  ⟨(model.valid.nodes node member).properties, ordinary.nodes node member⟩

lemma writable_relationship (ordinary : model.OrdinaryNames)
    {relationship : Relationship} (member : relationship ∈ model.relationships) :
    Writable relationship.key relationship.properties :=
  ⟨(model.valid.relationships relationship member).properties,
    ordinary.relationships relationship member⟩

/-- What is drawn for a valid model shows the model again, as far as its texts go. -/
theorem toModel_ofModel (ordinary : model.OrdinaryNames) (grid : Grid) :
    (ofModel grid model.toModel).normal.toModel = .ok (model.redrawn grid) := by
  have nodes : (ofModel grid model.toModel).normal.boxes.mapM Box.toNode =
      .ok (model.redrawn grid).nodes := by
    simp only [normal, ofModel, Model.redrawn, List.mapIdx_eq_zipIdx_map, List.map_map,
      List.mapM_map]
    refine Except.mapM_eq_map fun entry listed => ?_
    have member := List.mem_of_getElem? (List.mem_zipIdx_iff_getElem?.1 listed)
    exact toNode_ofNode (model.valid.nodes _ member) (writable_node model ordinary member) entry.2
  have relationships : (ofModel grid model.toModel).normal.arrows.zipIdx.mapM (fun entry =>
      entry.1.toRelationship (ofModel grid model.toModel).normal.boxes entry.2) =
        .ok (model.redrawn grid).relationships := by
    have arrows : (ofModel grid model.toModel).normal.arrows =
        model.relationships.map fun r => (Arrow.ofRelationship r).normal := List.map_map
    rw [arrows]
    refine Except.mapM_zipIdx_eq_map fun index relationship here => ?_
    have member := List.mem_of_getElem? here
    obtain ⟨start, finish⟩ := model.valid.ends relationship member
    exact toRelationship_ofRelationship (model.valid.relationships _ member)
      (writable_relationship model ordinary member) start finish index
  have labels : (model.redrawn grid).labels.Nodup := by
    rw [labels_redrawn]
    exact model.valid.labels
  have patterns : (model.redrawn grid).patterns.Nodup := by
    rw [patterns_redrawn]
    exact model.valid.patterns
  refine Except.bind_eq_ok_iff.2 ⟨_, nodes, Except.bind_eq_ok_iff.2 ⟨_, relationships,
    Model.build_eq_ok_iff.2
      ⟨Model.consistent_iff.2 ⟨labels, patterns, fun back member => ?_⟩, rfl⟩⟩⟩
  obtain ⟨relationship, inside, rfl⟩ := List.mem_map.1 member
  have ends := model.valid.ends relationship inside
  rwa [← labels_redrawn] at ends

/-- The diagram of a valid model whose places are numbers passes the check of documents. -/
lemma passes_ofModel (placed : ∀ index node, model.nodes[index]? = some node →
      (Box.place grid index node).x.isNaN = false ∧ (Box.place grid index node).y.isNaN = false) :
    (ofModel grid model.toModel).Passes := by
  constructor
  · intro box member
    obtain ⟨index, bound, rfl⟩ := List.mem_mapIdx.1 member
    have inside := List.getElem_mem bound
    have label := ReferenceGraph.ne_empty_of_not_blank (model.valid.nodes _ inside).label
    refine ⟨label, by simp [Box.ofNode], by simpa [Box.ofNode] using label, ?_⟩
    rintro position ⟨rfl⟩
    exact placed index _ (List.getElem?_eq_getElem bound)
  · intro arrow member
    obtain ⟨relationship, inside, rfl⟩ := List.mem_map.1 member
    have relationshipValid := model.valid.relationships _ inside
    exact ⟨ReferenceGraph.ne_empty_of_not_blank relationshipValid.startLabel,
      ReferenceGraph.ne_empty_of_not_blank relationshipValid.endLabel,
      ReferenceGraph.ne_empty_of_not_blank relationshipValid.type⟩

/-- A valid model whose places are numbers is read from its diagram. -/
theorem answer_read_ofModel (ordinary : model.OrdinaryNames)
    (placed : ∀ index node, model.nodes[index]? = some node →
      (Box.place grid index node).x.isNaN = false ∧ (Box.place grid index node).y.isNaN = false) :
    (read (some (ofModel grid model.toModel).toJson)).answer = .ok (model.redrawn grid) := by
  obtain ⟨json, checked, shown⟩ := (passes_ofModel model placed).exists_check_eq "diagram document"
  rw [answer_read, checked, ← toModel_ofModel model ordinary grid, ← shown]
  rfl

end Valid

variable {model : Model} {settings : Settings}

theorem answer_write (model : Model) {asked : Option Json} {settings : Settings}
    (resolved : Settings.resolve asked = .ok settings) :
    (write model asked).answer = .ok (ofModel settings.grid model) := by
  have told (settings : Settings) : Conversion.AddsOnly (do
      Conversion.tell (.diagramWritten model.nodes.length model.relationships.length)
      return ofModel settings.grid model) :=
    (Conversion.AddsOnly.tell _).bind fun _ => .pure _
  rw [write, Conversion.answer_bind told, Conversion.answer_lift, resolved]
  exact Conversion.answer_bind fun _ => .pure (ofModel settings.grid model)

lemma exists_read_eq (reachable : model.Reachable) (ordinary : model.OrdinaryNames)
    (positions : model.PositionsFinite) {asked : Option Json}
    (resolved : Settings.resolve asked = .ok settings)
    (finite : settings.grid.spacing.isFinite = true) :
    ∃ diagram, (write model asked).answer = .ok diagram ∧
      (read (some diagram.toJson)).answer = .ok (model.redrawn settings.grid) :=
  ⟨_, answer_write model resolved,
    answer_read_ofModel ⟨model, reachable.valid⟩ ordinary fun index _ found =>
    place_isNumber (Settings.regular_of_resolve resolved) finite
      (positions _ (List.mem_of_getElem? found)) index⟩

lemma names_redrawn_node {node : Node} (writable : Writable (some node.key) node.properties)
    (grid : Grid) (index : Nat) :
    ((node.redrawn grid index).allProperties.map Property.name).Perm
      (node.allProperties.map Property.name) := by
  obtain ⟨key, first⟩ := exists_key_split writable
  have names := names_split_write writable
  rw [first] at names
  simpa only [Node.redrawn, Node.allProperties, first, Option.getD_some] using names

/-- The importer accepts whatever the exporter writes for a model with finite positions: labels,
types and ends come back as they were and in order, and every entity has its properties, each
under its name once. -/
theorem names_of_read_write (reachable : model.Reachable) (ordinary : model.OrdinaryNames)
    (positions : model.PositionsFinite) {asked : Option Json}
    (resolved : Settings.resolve asked = .ok settings)
    (finite : settings.grid.spacing.isFinite = true) :
    ∃ diagram back, (write model asked).answer = .ok diagram ∧
      (read (some diagram.toJson)).answer = .ok back ∧
      List.Forall₂ (fun (node back : Node) => back.label = node.label ∧
        (back.allProperties.map Property.name).Nodup ∧
        (back.allProperties.map Property.name).Perm (node.allProperties.map Property.name))
          model.nodes back.nodes ∧
      List.Forall₂ (fun (relationship back : Relationship) => back.type = relationship.type ∧
        back.startLabel = relationship.startLabel ∧ back.endLabel = relationship.endLabel ∧
        (back.allProperties.map Property.name).Nodup ∧
        (back.allProperties.map Property.name).Perm
          (relationship.allProperties.map Property.name))
          model.relationships back.relationships := by
  obtain ⟨diagram, written, read⟩ := exists_read_eq reachable ordinary positions resolved finite
  refine ⟨diagram, _, written, read, ?_, ?_⟩
  · refine forall₂_mapIdx fun node member index => ?_
    have writable := writable_node ⟨model, reachable.valid⟩ ordinary member
    have names := names_redrawn_node writable settings.grid index
    exact ⟨rfl, names.nodup_iff.2 writable.names, names⟩
  · refine List.forall₂_map_right_iff.2 (List.forall₂_same.2 fun relationship member => ?_)
    have writable := writable_relationship ⟨model, reachable.valid⟩ ordinary member
    have names := names_split_write writable
    exact ⟨rfl, rfl, rfl, names.nodup_iff.2 writable.names, names⟩

def hatchKey : Property := ⟨"2", "A | KEY", none, some " | | ", none⟩

def hatch : Node :=
  ⟨"Hatch | KEY", hatchKey, [⟨"1", "KEY", none, some "key", none⟩, .ofName "| KEY"], .empty⟩

def lifts : Relationship :=
  ⟨" | ", "Hatch | KEY", "Hatch | KEY", none, [⟨"\n0", "|", none, some "KEY", none⟩], .empty⟩

/-- A model with separators, marks of a key and indexes all over. -/
def hatches : Model := ⟨[hatch], [lifts], .empty⟩

lemma hatches_reachable : hatches.Reachable := by
  have key : hatchKey.Built := ⟨⟨"2", some " a | key ", none, some " | | ", none⟩, by
    decide +kernel⟩
  have one : Property.Built ⟨"1", "KEY", none, some "key", none⟩ :=
    ⟨⟨"1", some "key", none, some "key", none⟩, by decide +kernel⟩
  have zero : Property.Built ⟨"\n0", "|", none, some "KEY", none⟩ :=
    ⟨⟨"\n0", some "|", none, some "KEY", none⟩, by decide +kernel⟩
  have mark : (Property.ofName "| KEY").Built := Property.ofName_built (by decide +kernel)
  have node : Node.build hatch.label hatchKey hatch.properties .empty = .ok hatch := by
    decide +kernel
  have relationship : Relationship.build lifts.type lifts.startLabel lifts.endLabel none
      lifts.properties .empty = .ok lifts := by decide +kernel
  have built : Model.build [hatch] [lifts] .empty = .ok hatches := by decide +kernel
  have first : hatch.Reachable := .build key (by simp [hatch, one, mark]) node
  have second : lifts.Reachable := .build (by simp) (by simp [lifts, zero]) relationship
  exact .initial (.build (by simpa using first) (by simpa using second) built)

theorem names_of_read_write_hatches : ∃ diagram back,
    (write hatches none).answer = .ok diagram ∧ (read (some diagram.toJson)).answer = .ok back ∧
      back.labels = ["Hatch | KEY"] ∧ back.patterns = ["(:Hatch | KEY)-[: | ]->(:Hatch | KEY)"] ∧
      ∀ node ∈ back.nodes, (node.allProperties.map Property.name).Perm ["2", "1", "| KEY"] := by
  have positions : hatches.PositionsFinite :=
    Model.positionsFinite_of_empty (by simp [hatches, hatch])
  have resolved : Settings.resolve none = .ok Settings.standard := by decide +kernel
  obtain ⟨diagram, back, written, read, nodes, relationships⟩ :=
    names_of_read_write hatches_reachable (by decide +kernel) positions resolved
      (by decide +kernel)
  obtain ⟨node, rest, ⟨label, -, names⟩, none, same⟩ := List.forall₂_cons_left_iff.1 nodes
  obtain rfl := List.forall₂_nil_left_iff.1 none
  obtain ⟨relationship, others, ⟨type, start, finish, -⟩, none, listed⟩ :=
    List.forall₂_cons_left_iff.1 relationships
  obtain rfl := List.forall₂_nil_left_iff.1 none
  refine ⟨diagram, back, written, read, ?_, ?_, ?_⟩
  · rw [Model.labels, same, List.map_singleton, label]
    rfl
  · rw [Model.patterns, listed, List.map_singleton, Relationship.pattern, type, start, finish]
    rfl
  · rw [same, List.forall_mem_singleton]
    exact names

end Models
end Diagram
end PropertyGraph

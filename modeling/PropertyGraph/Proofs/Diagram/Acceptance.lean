import PropertyGraph.Proofs.Diagram.KeyMark
import PropertyGraph.Proofs.Diagram.Reread
import PropertyGraph.Proofs.Lists
import PropertyGraph.Proofs.TidyDocuments

/-! Which diagrams show a model. A document with the shape of a diagram is accepted exactly if
every box has a text with the mark of a key, no text that names something is blank, the labels
and the patterns are distinct, and every arrow ends at boxes; and then no entry is lost. -/
namespace PropertyGraph

namespace Json

/-- A value in which every object has each name once, as in any that a program holds. -/
inductive NamesOnce : Json → Prop
  | null : NamesOnce .null
  | bool (b : Bool) : NamesOnce (.bool b)
  | number (x : Binary64) : NamesOnce (.number x)
  | string (s : String) : NamesOnce (.string s)
  | array {vs : List Json} (items : ∀ v ∈ vs, NamesOnce v) : NamesOnce (.array vs)
  | object {ms : List (String × Json)} (distinct : (ms.map Prod.fst).Nodup)
      (values : ∀ m ∈ ms, NamesOnce m.2) : NamesOnce (.object ms)

namespace NamesOnce

variable {v w : Json}

lemma item {items : List Json} (once : (Json.array items).NamesOnce) (inside : v ∈ items) :
    v.NamesOnce := by
  cases once with
  | array each => exact each v inside

lemma member (name : String) (once : v.NamesOnce) (found : v.get? name = some w) :
    w.NamesOnce := by
  cases once with
  | object _ values => exact values _ (Members.mem_of_lookup name found)
  | _ => cases found

lemma getD (name : String) (once : v.NamesOnce) {default : Json} (other : default.NamesOnce) :
    ((v.get? name).getD default).NamesOnce := by
  cases given : v.get? name with
  | none => exact other
  | some w => exact once.member name given

end NamesOnce

lemma Tidy.namesOnce {v : Json} (tidy : v.Tidy) : v.NamesOnce := by
  induction tidy with
  | null => exact .null
  | bool b => exact .bool b
  | number _ => exact .number _
  | string s => exact .string s
  | array _ ih => exact .array ih
  | object distinct _ _ ih => exact .object distinct ih

end Json

namespace Diagram
open PropertyText (parse EndsInKey isKey_parse_iff_endsInKey)
open Members (mem_of_lookup)

/-- A key and the other properties that stand in the same order as their texts. The first text
with the mark of a key is that of the key. -/
inductive Divided : List (String × String) → Option Property → List Property → Prop
  | keyed {before after : List (String × String)} {entry : String × String}
      (first : ∀ other ∈ before, ¬ EndsInKey other.2) (marked : EndsInKey entry.2) :
      Divided (before ++ entry :: after) (some (keyOf entry)) ((before ++ after).map plainOf)
  | keyless {texts : List (String × String)} (unmarked : ∀ entry ∈ texts, ¬ EndsInKey entry.2) :
      Divided texts none (texts.map plainOf)

/-- The pattern that an arrow shows, if there are boxes at its ends. -/
def patternOf? (boxes : List Box) (arrow : Arrow) : Option String := do
  let startLabel ← labelOf? boxes arrow.fromId
  let endLabel ← labelOf? boxes arrow.toId
  return pattern startLabel arrow.type endLabel

/-- A diagram that shows a model. -/
structure WellFormed (diagram : Diagram) : Prop where
  keyed : ∀ box ∈ diagram.boxes, ∃ entry ∈ box.properties, EndsInKey entry.2
  labels : ∀ box ∈ diagram.boxes, Text.isBlank box.label = false
  types : ∀ arrow ∈ diagram.arrows, Text.isBlank arrow.type = false
  boxNames : ∀ box ∈ diagram.boxes, ∀ entry ∈ box.properties, Text.isBlank entry.1 = false
  arrowNames : ∀ arrow ∈ diagram.arrows, ∀ entry ∈ arrow.properties,
    Text.isBlank entry.1 = false
  distinct : (diagram.boxes.map Box.label).Nodup
  ends : ∀ arrow ∈ diagram.arrows,
    arrow.fromId ∈ diagram.boxes.map Box.id ∧ arrow.toId ∈ diagram.boxes.map Box.id
  patterns : (diagram.arrows.map (patternOf? diagram.boxes)).Nodup

/-- The node that a box shows. -/
structure Box.ShownAs (box : Box) (node : Node) : Prop where
  label : node.label = box.label
  properties : Divided box.properties (some node.key) node.properties

/-- The relationship that an arrow between boxes shows. -/
structure Arrow.ShownAs (boxes : List Box) (arrow : Arrow) (relationship : Relationship) :
    Prop where
  type : relationship.type = arrow.type
  startLabel : labelOf? boxes arrow.fromId = some relationship.startLabel
  endLabel : labelOf? boxes arrow.toId = some relationship.endLabel
  properties : Divided arrow.properties relationship.key relationship.properties

section Texts

variable {texts : List (String × String)} {key : Option Property} {others : List Property}

lemma isTagged_iff {entry : String × String} : isTagged entry = true ↔ EndsInKey entry.2 :=
  isKey_parse_iff_endsInKey

lemma divided_splitTexts (texts : List (String × String)) :
    Divided texts (splitTexts texts).1 (splitTexts texts).2 := by
  cases found : texts.find? isTagged with
  | none =>
    have unmarked : ∀ entry ∈ texts, ¬ isTagged entry = true := List.find?_eq_none.1 found
    simp only [splitTexts, found, List.eraseP_of_forall_not unmarked]
    exact .keyless fun entry member marked => unmarked entry member (isTagged_iff.2 marked)
  | some entry =>
    obtain ⟨marked, before, after, rfl, first⟩ := List.find?_eq_some_iff_append.1 found
    have others : ∀ other ∈ before, ¬ isTagged other = true := by simpa using first
    simp only [splitTexts, found, List.eraseP_append_right _ others,
      List.eraseP_cons_of_pos marked]
    exact .keyed (fun other member mark => others other member (isTagged_iff.2 mark))
      (isTagged_iff.1 marked)

lemma isSome_key_iff : (splitTexts texts).1.isSome = true ↔
    ∃ entry ∈ texts, EndsInKey entry.2 := by
  simp [splitTexts, isTagged_iff]

lemma nodup_splitTexts (once : (texts.map Prod.fst).Nodup) :
    ((withKey (splitTexts texts).1 (splitTexts texts).2).map Property.name).Nodup :=
  (names_splitTexts texts).nodup_iff.2 once

end Texts

section Entities

structure Box.Gives (box : Box) (node : Node) : Prop where
  named : ∀ entry ∈ box.properties, Text.isBlank entry.1 = false
  labelled : Text.isBlank box.label = false
  label : node.label = box.label
  properties : splitTexts box.properties = (some node.key, node.properties)
  metadata : node.metadata = ⟨some ⟨box.position, box.caption, box.style⟩, none⟩

lemma Box.toNode_eq_ok_iff {box : Box} {node : Node}
    (once : (box.properties.map Prod.fst).Nodup) : box.toNode = .ok node ↔ box.Gives node := by
  have distinct := nodup_splitTexts once
  simp only [toNode, Except.bind_eq_ok_iff, readProperties_eq_ok_iff]
  constructor
  · rintro ⟨⟨key, others⟩, ⟨named, parts⟩, made⟩
    rw [← parts] at distinct
    cases key with
    | none => cases made
    | some key =>
      obtain ⟨⟨text, -⟩, rfl⟩ := Node.build_eq_ok_iff.1 made
      rw [withoutKey_of_nodup distinct]
      exact ⟨named, text, rfl, parts.symm, rfl⟩
  · intro gives
    refine ⟨_, ⟨gives.named, rfl⟩, ?_⟩
    rw [gives.properties] at distinct ⊢
    rw [← gives.metadata]
    refine (Node.build_of_nodup gives.labelled distinct _).trans ?_
    rw [← gives.label]

structure Arrow.Gives (boxes : List Box) (arrow : Arrow) (relationship : Relationship) : Prop where
  named : ∀ entry ∈ arrow.properties, Text.isBlank entry.1 = false
  typed : Text.isBlank arrow.type = false
  starts : Text.isBlank relationship.startLabel = false
  ends : Text.isBlank relationship.endLabel = false
  type : relationship.type = arrow.type
  startLabel : labelOf? boxes arrow.fromId = some relationship.startLabel
  endLabel : labelOf? boxes arrow.toId = some relationship.endLabel
  properties : splitTexts arrow.properties = (relationship.key, relationship.properties)
  metadata : relationship.metadata = ⟨arrow.style.map fun style => ⟨some style⟩⟩

lemma endLabel_eq_ok_iff {boxes : List Box} {index : Nat} {member id label : String} :
    endLabel boxes index member id = .ok label ↔ labelOf? boxes id = some label := by
  unfold endLabel
  cases labelOf? boxes id <;> simp

lemma Arrow.toRelationship_eq_ok_iff {boxes : List Box} {index : Nat} {arrow : Arrow}
    {relationship : Relationship} (once : (arrow.properties.map Prod.fst).Nodup) :
    arrow.toRelationship boxes index = .ok relationship ↔ arrow.Gives boxes relationship := by
  have distinct := nodup_splitTexts once
  simp only [toRelationship, Except.bind_eq_ok_iff, endLabel_eq_ok_iff, readProperties_eq_ok_iff]
  constructor
  · rintro ⟨start, known, finish, found, ⟨key, others⟩, ⟨named, parts⟩, made⟩
    rw [← parts] at distinct
    obtain ⟨⟨⟨type, starts, ends⟩, -⟩, rfl⟩ := Relationship.build_eq_ok_iff.1 made
    rw [withoutKey_of_nodup distinct]
    exact ⟨named, type, starts, ends, rfl, known, found, parts.symm, rfl⟩
  · intro gives
    refine ⟨_, gives.startLabel, _, gives.endLabel, _, ⟨gives.named, rfl⟩, ?_⟩
    rw [gives.properties] at distinct ⊢
    rw [← gives.metadata]
    refine (Relationship.build_of_nodup gives.typed gives.starts gives.ends distinct _).trans ?_
    rw [← gives.type]

lemma Box.Gives.shownAs {box : Box} {node : Node} (gives : box.Gives node) : box.ShownAs node := by
  have divided := divided_splitTexts box.properties
  rw [gives.properties] at divided
  exact ⟨gives.label, divided⟩

lemma Arrow.Gives.shownAs {boxes : List Box} {arrow : Arrow} {relationship : Relationship}
    (gives : arrow.Gives boxes relationship) : arrow.ShownAs boxes relationship := by
  have divided := divided_splitTexts arrow.properties
  rw [gives.properties] at divided
  exact ⟨gives.type, gives.startLabel, gives.endLabel, divided⟩

lemma Arrow.Gives.pattern {boxes : List Box} {arrow : Arrow} {relationship : Relationship}
    (gives : arrow.Gives boxes relationship) :
    some relationship.pattern = patternOf? boxes arrow := by
  simp [patternOf?, gives.startLabel, gives.endLabel, ← gives.type, Relationship.pattern]

lemma Box.exists_gives {box : Box}
    (named : ∀ entry ∈ box.properties, Text.isBlank entry.1 = false)
    (labelled : Text.isBlank box.label = false)
    (keyed : ∃ entry ∈ box.properties, EndsInKey entry.2) : ∃ node, box.Gives node := by
  obtain ⟨key, known⟩ := Option.isSome_iff_exists.1 (isSome_key_iff.2 keyed)
  exact ⟨⟨box.label, key, (splitTexts box.properties).2,
    ⟨some ⟨box.position, box.caption, box.style⟩, none⟩⟩, named, labelled, rfl,
    Prod.ext known rfl, rfl⟩

variable {boxes : List Box} {id label : String}

lemma exists_of_labelOf? (known : labelOf? boxes id = some label) :
    ∃ box ∈ boxes, box.id = id ∧ box.label = label := by
  obtain ⟨box, found, same⟩ := Option.map_eq_some_iff.1 known
  exact ⟨box, List.mem_reverse.1 (List.mem_of_find?_eq_some found),
    by simpa using List.find?_some found, same⟩

lemma exists_labelOf?_iff : (∃ label, labelOf? boxes id = some label) ↔ id ∈ boxes.map Box.id := by
  rw [← Option.isSome_iff_exists]
  simp [labelOf?]

lemma Arrow.exists_gives {arrow : Arrow}
    (labelled : ∀ box ∈ boxes, Text.isBlank box.label = false)
    (named : ∀ entry ∈ arrow.properties, Text.isBlank entry.1 = false)
    (typed : Text.isBlank arrow.type = false)
    (ends : arrow.fromId ∈ boxes.map Box.id ∧ arrow.toId ∈ boxes.map Box.id) :
    ∃ relationship, arrow.Gives boxes relationship := by
  obtain ⟨start, known⟩ := exists_labelOf?_iff.2 ends.1
  obtain ⟨finish, found⟩ := exists_labelOf?_iff.2 ends.2
  obtain ⟨first, hf, -, rfl⟩ := exists_of_labelOf? known
  obtain ⟨last, hl, -, rfl⟩ := exists_of_labelOf? found
  exact ⟨⟨arrow.type, first.label, last.label, (splitTexts arrow.properties).1,
    (splitTexts arrow.properties).2, ⟨arrow.style.map fun style => ⟨some style⟩⟩⟩, named, typed,
    labelled first hf, labelled last hl, rfl, known, found, rfl, rfl⟩

end Entities

section Diagrams

structure NamesOnce (diagram : Diagram) : Prop where
  boxes : ∀ box ∈ diagram.boxes, (box.properties.map Prod.fst).Nodup
  arrows : ∀ arrow ∈ diagram.arrows, (arrow.properties.map Prod.fst).Nodup

variable {diagram : Diagram} {model : Model} {boxes : List Box} {arrows : List Arrow}
  {nodes : List Node} {relationships : List Relationship}

lemma labels_of_gives (given : List.Forall₂ Box.Gives boxes nodes) :
    nodes.map Node.label = boxes.map Box.label :=
  map_eq_map_of_forall₂ (fun _ _ gives => Box.Gives.label gives) given

lemma nodup_patterns_iff (given : List.Forall₂ (Arrow.Gives boxes) arrows relationships) :
    (relationships.map Relationship.pattern).Nodup ↔ (arrows.map (patternOf? boxes)).Nodup := by
  have shown : relationships.map (fun r => some r.pattern) = arrows.map (patternOf? boxes) :=
    map_eq_map_of_forall₂ (fun _ _ gives => Arrow.Gives.pattern gives) given
  rw [← shown, ← List.nodup_map_iff (Option.some_injective String), List.map_map]
  rfl

lemma ends_of_gives (given : List.Forall₂ (Arrow.Gives boxes) arrows relationships)
    {relationship : Relationship} (member : relationship ∈ relationships) :
    relationship.startLabel ∈ boxes.map Box.label ∧
      relationship.endLabel ∈ boxes.map Box.label := by
  obtain ⟨arrow, -, gives⟩ := exists_mem_of_forall₂ given member
  obtain ⟨first, hf, -, start⟩ := exists_of_labelOf? gives.startLabel
  obtain ⟨last, hl, -, finish⟩ := exists_of_labelOf? gives.endLabel
  exact ⟨start ▸ List.mem_map_of_mem hf, finish ▸ List.mem_map_of_mem hl⟩

theorem toModel_eq_ok_iff (once : diagram.NamesOnce) : diagram.toModel = .ok model ↔
    List.Forall₂ Box.Gives diagram.boxes model.nodes ∧
      List.Forall₂ (Arrow.Gives diagram.boxes) diagram.arrows model.relationships ∧
      (diagram.boxes.map Box.label).Nodup ∧
      (diagram.arrows.map (patternOf? diagram.boxes)).Nodup ∧
      model.metadata = ⟨diagram.style.map fun style => ⟨some style⟩, none⟩ := by
  have boxes (nodes : List Node) : diagram.boxes.mapM Box.toNode = .ok nodes ↔
      List.Forall₂ Box.Gives diagram.boxes nodes := by
    rw [Except.mapM_eq_ok_iff]
    exact forall₂_iff_of_mem fun box member _ => Box.toNode_eq_ok_iff (once.boxes box member)
  have arrows (relationships : List Relationship) :
      (diagram.arrows.zipIdx.mapM fun entry =>
        entry.1.toRelationship diagram.boxes entry.2) = .ok relationships ↔
      List.Forall₂ (Arrow.Gives diagram.boxes) diagram.arrows relationships := by
    conv_rhs => rw [← List.zipIdx_map_fst 0 diagram.arrows, List.forall₂_map_left_iff]
    rw [Except.mapM_eq_ok_iff]
    refine forall₂_iff_of_mem fun entry member _ => Arrow.toRelationship_eq_ok_iff ?_
    exact once.arrows _ (List.mem_of_getElem? (List.mem_zipIdx_iff_getElem?.1 member))
  simp only [toModel, Except.bind_eq_ok_iff, boxes, Model.build_eq_ok_iff, Model.consistent_iff]
  constructor
  · rintro ⟨nodes, hn, relationships, made, ⟨labels, patterns, -⟩, rfl⟩
    have hr := (arrows relationships).1 made
    exact ⟨hn, hr, labels_of_gives hn ▸ labels, (nodup_patterns_iff hr).1 patterns, rfl⟩
  · rintro ⟨hn, hr, labels, patterns, metadata⟩
    rw [← labels_of_gives hn] at labels
    refine ⟨_, hn, _, (arrows _).2 hr,
      ⟨labels, (nodup_patterns_iff hr).2 patterns, fun r member => ?_⟩, ?_⟩
    · rw [labels_of_gives hn]
      exact ends_of_gives hr member
    · rw [← metadata]

/-- A diagram shows a model exactly if it is well formed. -/
theorem exists_toModel_iff (once : diagram.NamesOnce) :
    (∃ model, diagram.toModel = .ok model) ↔ diagram.WellFormed := by
  constructor
  · rintro ⟨model, made⟩
    obtain ⟨hn, hr, labels, patterns, -⟩ := (toModel_eq_ok_iff once).1 made
    have box := exists_forall₂_iff.1 ⟨_, hn⟩
    have arrow := exists_forall₂_iff.1 ⟨_, hr⟩
    refine ⟨fun b member => ?_, fun b member => ?_, fun a member => ?_, fun b member => ?_,
      fun a member => ?_, labels, fun a member => ?_, patterns⟩
    · obtain ⟨node, gives⟩ := box b member
      exact isSome_key_iff.1 (by rw [gives.properties]; rfl)
    · obtain ⟨node, gives⟩ := box b member
      exact gives.labelled
    · obtain ⟨relationship, gives⟩ := arrow a member
      exact gives.typed
    · obtain ⟨node, gives⟩ := box b member
      exact gives.named
    · obtain ⟨relationship, gives⟩ := arrow a member
      exact gives.named
    · obtain ⟨relationship, gives⟩ := arrow a member
      exact ⟨exists_labelOf?_iff.1 ⟨_, gives.startLabel⟩, exists_labelOf?_iff.1 ⟨_, gives.endLabel⟩⟩
  · intro formed
    obtain ⟨nodes, hn⟩ := exists_forall₂_iff.2 fun box member =>
      Box.exists_gives (formed.boxNames box member) (formed.labels box member)
        (formed.keyed box member)
    obtain ⟨relationships, hr⟩ := exists_forall₂_iff.2 fun arrow member =>
      Arrow.exists_gives formed.labels (formed.arrowNames arrow member)
        (formed.types arrow member) (formed.ends arrow member)
    exact ⟨⟨nodes, relationships, _⟩,
      (toModel_eq_ok_iff once).2 ⟨hn, hr, formed.distinct, formed.patterns, rfl⟩⟩

end Diagrams

section Documents

variable {shapes : List (String × Shape)} {keepsUnknown : Bool} {v w : Json}

lemma nodup_names_of_dictionary {item : Shape} (h : (Shape.dictionary item).Yields v w)
    (once : v.NamesOnce) : ∃ members, w = .object members ∧ (members.map Prod.fst).Nodup := by
  obtain ⟨entries, same⟩ := h.admits.exists_entries
  cases same
  cases once with
  | object distinct _ =>
    rw [← h.rebuild_eq, h.admits.rebuild_dictionary]
    exact ⟨_, rfl, Members.nodup_assign (by simpa [Function.comp_def] using distinct)⟩

lemma nodup_texts (h : (Shape.object shapes keepsUnknown).Yields v w) (once : v.NamesOnce)
    (named : Shape.WellNamed shapes)
    (known : ("properties", .withDefault (.dictionary .anyText) (.object [])) ∈ shapes) :
    ((textsOfJson w).map Prod.fst).Nodup := by
  obtain ⟨b, given, made⟩ := h.given_or_default named known
  have empty : (Json.object []).NamesOnce := .object .nil (List.forall_mem_nil _)
  obtain ⟨members, rfl, names⟩ := nodup_names_of_dictionary made (once.getD _ empty)
  simp only [textsOfJson, Json.members?, given, Option.bind_some, Json.object?, Option.getD_some]
  refine nodup_names_filterMap (fun a b made => ?_) names
  obtain ⟨_, _, rfl⟩ := Option.map_eq_some_iff.1 made
  rfl

lemma nodup_texts_of_list {nonEmpty : Bool}
    (h : (Shape.list nonEmpty (.object shapes keepsUnknown)).Yields v w) (once : v.NamesOnce)
    (named : Shape.WellNamed shapes)
    (known : ("properties", .withDefault (.dictionary .anyText) (.object [])) ∈ shapes) :
    ∀ item ∈ w.array?.getD [], ((textsOfJson item).map Prod.fst).Nodup := by
  obtain ⟨items, rfl, rfl, each⟩ := Shape.list_rebuilt h
  intro item member
  obtain ⟨given, inside, rfl⟩ := List.mem_map.1 member
  exact nodup_texts (each given inside) (once.item inside) named known

lemma namesOnce_of_yields (h : shape.Yields v w) (once : v.NamesOnce) : (ofJson w).NamesOnce := by
  obtain ⟨nodes, boxes, given, hn, boxesMade⟩ :=
    h.given_member (by decide) (mem_of_lookup "nodes" rfl) (by decide)
  obtain ⟨arrows, hr, arrowsMade⟩ :=
    h.given_or_default (by decide) (mem_of_lookup "relationships" rfl)
  refine ⟨fun box member => ?_, fun arrow member => ?_⟩
  · simp only [ofJson, Json.list, Json.list?, hn, Option.bind_some] at member
    obtain ⟨item, inside, rfl⟩ := List.mem_map.1 member
    exact nodup_texts_of_list boxesMade (once.member _ given) (by decide)
      (mem_of_lookup "properties" rfl) item inside
  · simp only [ofJson, Json.list, Json.list?, hr, Option.bind_some] at member
    obtain ⟨item, inside, rfl⟩ := List.mem_map.1 member
    have none : (Json.array []).NamesOnce := .array (List.forall_mem_nil _)
    exact nodup_texts_of_list arrowsMade (once.getD _ none) (by decide)
      (mem_of_lookup "properties" rfl) item inside

lemma Box.Rebuilt.label {box : Box} (rebuilt : box.Rebuilt) :
    box.labels.head? = some box.label := by
  obtain ⟨_, made, h, rfl⟩ := rebuilt
  obtain ⟨given, list, hl, listMade⟩ :=
    h.member (by decide) (mem_of_lookup "labels" rfl) (by decide)
  obtain ⟨items, rfl, rfl, each⟩ := Shape.list_rebuilt listMade
  have filled := (Shape.admits_list_iff.1 listMade.admits).1
  cases items with
  | nil => cases filled
  | cons first rest =>
    obtain ⟨text, known, -⟩ := (each first List.mem_cons_self).someText
    simp [Box.label, Box.ofJson, Json.list, Json.list?, hl, Json.array?, Json.string?, known]

/-- A document with the shape of a diagram is read exactly if it is well formed. Then boxes
become nodes and arrows relationships, one for one and in order, each with one property for
every text. -/
theorem read_iff_wellFormed {given json : Json} (once : given.NamesOnce)
    (checked : Document.check shape (some given) "diagram document" = .ok json) :
    (∀ box ∈ (ofJson json).boxes, box.labels.head? = some box.label) ∧
      ((∃ model, (read (some given)).answer = .ok model) ↔ (ofJson json).WellFormed) ∧
      ∀ model, (read (some given)).answer = .ok model →
        List.Forall₂ Box.ShownAs (ofJson json).boxes model.nodes ∧
          List.Forall₂ (Arrow.ShownAs (ofJson json).boxes) (ofJson json).arrows
            model.relationships := by
  obtain ⟨_, same, h⟩ := Document.exists_given checked
  obtain rfl := Option.some.inj same
  have names := namesOnce_of_yields h once
  have answer : (read (some given)).answer = (ofJson json).toModel := by
    rw [answer_read, checked]
    rfl
  rw [answer]
  refine ⟨fun box member => ((rebuilt_of_yields h).boxes box member).label,
    exists_toModel_iff names, fun model made => ?_⟩
  obtain ⟨hn, hr, -⟩ := (toModel_eq_ok_iff names).1 made
  exact ⟨hn.imp fun _ _ => Box.Gives.shownAs, hr.imp fun _ _ => Arrow.Gives.shownAs⟩

/-- Two boxes with ids that are not their labels, and an arrow between them. The one text of the
second box ends in this mark. -/
def penDocument (mark : String) : Json :=
  toJson ⟨[⟨"n0", ["Author"], [("name", "STRING"), ("id", "INTEGER |kEy ")], none, none, none⟩,
      ⟨"n1", ["Pen", "Tool"], [("serial", "STRING | " ++ mark)], none, none, none⟩],
    [⟨"n0", "n1", "HOLDS", [("1", "BOOLEAN"), ("since", "DATE | KEY")], none⟩], none⟩

theorem read_iff_wellFormed_pen : ∃ json other model,
    Document.check shape (some (penDocument "Key")) "diagram document" = .ok json ∧
      (ofJson json).WellFormed ∧ (read (some (penDocument "Key"))).answer = .ok model ∧
      List.Forall₂ Box.ShownAs (ofJson json).boxes model.nodes ∧
      List.Forall₂ (Arrow.ShownAs (ofJson json).boxes) (ofJson json).arrows
        model.relationships ∧
      Document.check shape (some (penDocument "KEY |")) "diagram document" = .ok other ∧
      ¬ (ofJson other).WellFormed := by
  have tidy : (penDocument "Key").Tidy ∧ (penDocument "KEY |").Tidy := by decide +kernel
  have passes : (Document.check shape (some (penDocument "Key")) "diagram document").isOk = true ∧
      (Document.check shape (some (penDocument "KEY |")) "diagram document").isOk = true := by
    decide +kernel
  obtain ⟨json, checked⟩ := Except.exists_of_isOk passes.1
  obtain ⟨other, checked'⟩ := Except.exists_of_isOk passes.2
  have answers : (read (some (penDocument "Key"))).answer.isOk = true ∧
      (read (some (penDocument "KEY |"))).answer.isOk = false := by decide +kernel
  obtain ⟨model, shown⟩ := Except.exists_of_isOk answers.1
  obtain ⟨-, accepted, parts⟩ := read_iff_wellFormed tidy.1.namesOnce checked
  obtain ⟨-, refused, -⟩ := read_iff_wellFormed tidy.2.namesOnce checked'
  refine ⟨json, other, model, checked, accepted.1 ⟨model, shown⟩, shown, (parts model shown).1,
    (parts model shown).2, checked', fun formed => ?_⟩
  obtain ⟨_, read⟩ := refused.2 formed
  simp [read, Except.isOk, Except.toBool] at answers

end Documents
end Diagram
end PropertyGraph

import PropertyGraph.Proofs.Diagram.RoundTrip
import PropertyGraph.Proofs.Recheck

/-! Diagrams that have been read, drawn again. What a diagram's document shows has texts that
are read as they are written and members that stand in order, so a second reading finds the
same; only the key may still be lost, to a property whose description reads as its mark. -/
namespace PropertyGraph

namespace Diagram
open PropertyText (joined? segments Canonical)
open Members (mem_of_lookup)

section Documents

variable {shapes : List (String × Shape)} {keepsUnknown : Bool} {v w : Json}

lemma texts_rebuilt (h : (Shape.object shapes keepsUnknown).Yields v w)
    (named : Shape.WellNamed shapes)
    (known : ("properties", .withDefault (.dictionary .anyText) (.object [])) ∈ shapes) :
    Members.assign (textsOfJson w) = textsOfJson w := by
  obtain ⟨_, b, given, made⟩ := h.default_member named known
  obtain ⟨members, rfl, assigned⟩ := made.members
  obtain ⟨ordered, ordinary⟩ := Members.assign_eq_self_iff.1 assigned
  rw [Members.assign_eq_self_iff]
  simp only [textsOfJson, Json.members?, given, Option.bind_some, Json.object?_object,
    Option.getD_some]
  constructor
  · rw [Members.InOrder, List.pairwise_map] at ordered ⊢
    refine ordered.filterMap _ fun a a' behind text made text' made' => ?_
    obtain ⟨-, -, rfl⟩ := Option.map_eq_some_iff.1 made
    obtain ⟨-, -, rfl⟩ := Option.map_eq_some_iff.1 made'
    exact behind
  · intro text listed
    obtain ⟨member, inside, made⟩ := List.mem_filterMap.1 listed
    obtain ⟨-, -, rfl⟩ := Option.map_eq_some_iff.1 made
    exact ordinary member inside

def Box.Rebuilt (box : Box) : Prop := ∃ given made, shape.Yields given made ∧ box = ofJson made

def Arrow.Rebuilt (arrow : Arrow) : Prop :=
  ∃ given made, shape.Yields given made ∧ arrow = ofJson made

lemma Box.Rebuilt.normal {box : Box} (rebuilt : box.Rebuilt) : box.normal = box := by
  obtain ⟨_, made, h, rfl⟩ := rebuilt
  have texts := texts_rebuilt h (by decide) (mem_of_lookup "properties" rfl)
  have style := h.members?_eq (by decide) (mem_of_lookup "style" rfl)
  simp only [Box.normal, ofJson, texts, style]

lemma Box.Rebuilt.number {box : Box} (rebuilt : box.Rebuilt) :
    ∀ position ∈ box.position, position.x.isNaN = false ∧ position.y.isNaN = false := by
  obtain ⟨_, made, h, rfl⟩ := rebuilt
  intro position present
  obtain ⟨part, here, rfl⟩ := Option.map_eq_some_iff.1 present
  obtain ⟨_, positionMade⟩ :=
    h.optional_member (by decide) (mem_of_lookup "position" rfl) part here
  exact Position.number_of_rebuilt positionMade

lemma Arrow.Rebuilt.normal {arrow : Arrow} (rebuilt : arrow.Rebuilt) : arrow.normal = arrow := by
  obtain ⟨_, made, h, rfl⟩ := rebuilt
  have texts := texts_rebuilt h (by decide) (mem_of_lookup "properties" rfl)
  have style := h.members?_eq (by decide) (mem_of_lookup "style" rfl)
  simp only [Arrow.normal, ofJson, texts, style]

structure Rebuilt (diagram : Diagram) : Prop where
  boxes : ∀ box ∈ diagram.boxes, box.Rebuilt
  arrows : ∀ arrow ∈ diagram.arrows, arrow.Rebuilt
  style : diagram.style.map Members.assign = diagram.style

lemma rebuilt_of_yields (h : shape.Yields v w) : (ofJson w).Rebuilt := by
  obtain ⟨_, nodes, hn, nodesMade⟩ :=
    h.member (by decide) (mem_of_lookup "nodes" rfl) (by decide)
  obtain ⟨boxes, rfl, eachBox⟩ := nodesMade.items
  obtain ⟨_, relationships, hr, relationshipsMade⟩ :=
    h.default_member (by decide) (mem_of_lookup "relationships" rfl)
  obtain ⟨arrows, rfl, eachArrow⟩ := relationshipsMade.items
  refine ⟨fun box member => ?_, fun arrow member => ?_,
    h.members?_eq (by decide) (mem_of_lookup "style" rfl)⟩
  · simp only [ofJson, Json.list, Json.list?, hn, Option.bind_some, Json.array?_array,
      Option.getD_some] at member
    obtain ⟨item, inside, rfl⟩ := List.mem_map.1 member
    obtain ⟨given, made⟩ := eachBox item inside
    exact ⟨given, item, made, rfl⟩
  · simp only [ofJson, Json.list, Json.list?, hr, Option.bind_some, Json.array?_array,
      Option.getD_some] at member
    obtain ⟨item, inside, rfl⟩ := List.mem_map.1 member
    obtain ⟨given, made⟩ := eachArrow item inside
    exact ⟨given, item, made, rfl⟩

end Documents

section Texts

variable {entry : String × String} {texts : List (String × String)}

/-- A description that is put together from segments comes apart into those that say
something. -/
lemma canonical_of_joined? {parts : List String} {d : String}
    (plain : ∀ part ∈ parts, '|' ∉ part.toList ∧ Text.Trimmed part.toList)
    (joined : joined? parts = some d) : Canonical d := by
  simp only [joined?] at joined
  split_ifs at joined with none
  rw [Option.some.injEq] at joined
  cases kept : parts.filter (!·.isEmpty) with
  | nil => simp [kept] at none
  | cons first others =>
    have each : ∀ part ∈ first :: others, part ∈ parts ∧ part ≠ "" := by simp [← kept]
    have own : ∀ part ∈ first :: others, segments part = [part] := by
      intro part member
      obtain ⟨bars, ends⟩ := plain part (each part member).1
      exact PropertyText.segments_of_plain bars ends
    have split : segments d = first :: others := by
      rw [← joined, kept, PropertyText.segments_join (by simp), List.flatMap_congr own,
        List.flatMap_singleton']
    have whole := PropertyText.join_ne_empty (each first (by simp)).2 others
    rw [← kept, joined] at whole
    refine ⟨whole, fun part member => ?_, ?_⟩
    · exact (each part (split ▸ member)).2
    · rw [split, ← kept, joined]

lemma type_legible (entry : String × String) :
    '|' ∉ (TypeTag.normalize (PropertyText.parse entry.2).type).toList := by
  obtain ⟨type, rest, split⟩ :=
    List.exists_cons_of_ne_nil (PropertyText.segments_nonempty entry.2)
  rw [PropertyText.type_parse split]
  exact TypeTag.bar_not_mem_normalize
    (PropertyText.plain_of_mem_segments entry.2 (by simp [split])).1

lemma description_plainOf {type : String} {rest : List String}
    (split : segments entry.2 = type :: rest) : (plainOf entry).description = joined? rest :=
  PropertyText.description_plain split

lemma description_keyOf {type : String} {rest : List String} (tagged : isTagged entry = true)
    (split : segments entry.2 = type :: rest) :
    (keyOf entry).description = joined? rest.dropLast :=
  PropertyText.description_key split tagged

lemma legible_plainOf (entry : String × String) : (plainOf entry).Legible := by
  refine ⟨by simpa only [plainOf] using type_legible entry, fun d given => ?_⟩
  obtain ⟨type, rest, split⟩ :=
    List.exists_cons_of_ne_nil (PropertyText.segments_nonempty entry.2)
  rw [Option.mem_def, description_plainOf split] at given
  refine canonical_of_joined? (fun part member => ?_) given
  exact PropertyText.plain_of_mem_segments entry.2 (by simp [split, member])

lemma legible_keyOf (tagged : isTagged entry = true) : (keyOf entry).Legible := by
  refine ⟨by simpa only [keyOf] using type_legible entry, fun d given => ?_⟩
  obtain ⟨type, rest, split⟩ :=
    List.exists_cons_of_ne_nil (PropertyText.segments_nonempty entry.2)
  rw [Option.mem_def, description_keyOf tagged split] at given
  refine canonical_of_joined? (fun part member => ?_) given
  exact PropertyText.plain_of_mem_segments entry.2
    (by simp [split, List.mem_of_mem_dropLast member])

end Texts

section Entities

variable {texts : List (String × String)} {key : Option Property} {others : List Property}

/-- A key and other properties that have been read from the texts of an object. -/
structure Shows (texts : List (String × String)) (key : Option Property)
    (others : List Property) : Prop where
  assigned : Members.assign texts = texts
  first : key = (splitTexts texts).1
  rest : others = withoutKey key (splitTexts texts).2

lemma Shows.legible (shows : Shows texts key others) :
    ∀ p ∈ withKey key others, p.Legible ∧ p.shown = p := by
  intro p member
  rcases List.mem_append.1 member with isKey | other
  · rw [Option.mem_toList, shows.first] at isKey
    obtain ⟨entry, found, rfl⟩ := Option.map_eq_some_iff.1 isKey
    exact ⟨legible_keyOf (List.find?_some found), by simp only [keyOf, Property.shown]⟩
  · rw [shows.rest] at other
    obtain ⟨entry, -, rfl⟩ := List.mem_map.1 (mem_withoutKey other)
    exact ⟨legible_plainOf entry, by simp only [plainOf, Property.shown]⟩

lemma Shows.inOrder (shows : Shows texts key others) :
    Members.InOrder (others.map Property.name) := by
  have fewer : (others.map Property.name).Sublist (texts.map Prod.fst) := by
    rw [shows.rest]
    refine (List.filter_sublist.map _).trans ?_
    rw [splitTexts, List.map_map]
    exact List.eraseP_sublist.map _
  exact List.Pairwise.sublist fewer (Members.assign_eq_self_iff.1 shows.assigned).1

lemma Shows.writable (shows : Shows texts key others) (valid : ValidProperties key others) :
    Writable key others := by
  refine ⟨valid, fun p member => ?_⟩
  have listed : p ∈ withKey key (splitTexts texts).2 := by
    rw [withKey, List.mem_append] at member ⊢
    exact member.imp_right fun other => mem_withoutKey (shows.rest ▸ other)
  have named : p.name ∈ texts.map Prod.fst := by
    rw [← (names_splitTexts texts).mem_iff, ← shows.first]
    exact List.mem_map_of_mem listed
  obtain ⟨text, inside, same⟩ := List.mem_map.1 named
  exact same ▸ (Members.assign_eq_self_iff.1 shows.assigned).2 text inside

/-- What has been read from texts in order is read again from its own texts exactly if the key
is kept. -/
theorem Shows.splitTexts_write_eq_iff (shows : Shows texts key others)
    (valid : ValidProperties key others) :
    splitTexts (writeProperties key others) = (key, others) ↔ KeepsKey key others := by
  have each := shows.legible
  have ownKey : key.map Property.shown = key := by
    cases key with
    | none => rfl
    | some k => rw [Option.map_some, (each k (by simp [withKey])).2]
  have ownOthers : others.map Property.shown = others := by
    conv_rhs => rw [← List.map_id others]
    exact List.map_congr_left fun p member => (each p (List.mem_append_right _ member)).2
  have kept := Diagram.splitTexts_write_eq_iff (shows.writable valid) (fun p member => (each p member).1)
    shows.inOrder
  rwa [ownKey, ownOthers] at kept

end Entities

section Reading

/-- A node is what its box shows. -/
lemma Box.shows_of_toNode {box : Box} {node : Node} (normal : box.normal = box)
    (made : box.toNode = .ok node) : Shows box.properties (some node.key) node.properties ∧
      node.metadata = ⟨some ⟨box.position, box.caption, box.style⟩, none⟩ := by
  obtain ⟨⟨key, properties⟩, read, made⟩ := Except.bind_eq_ok_iff.1 made
  obtain ⟨-, parts⟩ := readProperties_eq_ok_iff.1 read
  cases key with
  | none => cases made
  | some key =>
    obtain ⟨-, rfl⟩ := Node.build_eq_ok_iff.1 made
    exact ⟨⟨congrArg Box.properties normal, congrArg Prod.fst parts, by rw [← parts]⟩, rfl⟩

lemma Arrow.shows_of_toRelationship {boxes : List Box} {index : Nat} {arrow : Arrow}
    {relationship : Relationship} (normal : arrow.normal = arrow)
    (made : arrow.toRelationship boxes index = .ok relationship) :
    Shows arrow.properties relationship.key relationship.properties ∧
      relationship.metadata = ⟨arrow.style.map fun style => ⟨some style⟩⟩ := by
  simp only [toRelationship, Except.bind_eq_ok_iff] at made
  obtain ⟨_, -, _, -, ⟨key, properties⟩, read, built⟩ := made
  obtain ⟨-, parts⟩ := readProperties_eq_ok_iff.1 read
  obtain ⟨-, rfl⟩ := Relationship.build_eq_ok_iff.1 built
  exact ⟨⟨congrArg Arrow.properties normal, congrArg Prod.fst parts, by rw [← parts]⟩, rfl⟩

end Reading
end Diagram

/-- The style a node is drawn in; one that is absent is empty. -/
def Node.style (node : Node) : Style := (node.metadata.diagram.bind NodeDrawing.style).getD []

def Relationship.style (relationship : Relationship) : Style :=
  (relationship.metadata.diagram.bind Drawing.style).getD []

def Model.style (model : Model) : Style := (model.metadata.diagram.bind Drawing.style).getD []

/-- A node once it has been drawn and read again: the key and the other properties are the same
exactly if the key is kept. -/
structure Node.RedrawnAs (node back : Node) : Prop where
  label : back.label = node.label
  properties : (back.key = node.key ∧ back.properties = node.properties) ↔
    KeepsKey (some node.key) node.properties
  position : ∀ position ∈ node.metadata.diagramPosition?,
    back.metadata.diagramPosition? = some position
  style : back.style = node.style

/-- A relationship once it has been drawn and read again. -/
structure Relationship.RedrawnAs (relationship back : Relationship) : Prop where
  type : back.type = relationship.type
  startLabel : back.startLabel = relationship.startLabel
  endLabel : back.endLabel = relationship.endLabel
  properties : (back.key = relationship.key ∧ back.properties = relationship.properties) ↔
    KeepsKey relationship.key relationship.properties
  style : back.style = relationship.style

namespace Diagram

section Models

variable {model : Model} {settings : Settings}

lemma assign_getD {style : Option Style} (normal : style.map Members.assign = style) :
    Members.assign (style.getD []) = style.getD [] := by
  cases style with
  | none => rfl
  | some style => exact Option.some.inj normal

lemma redrawnAs_of_toNode {box : Box} {node : Node} (normal : box.normal = box)
    (made : box.toNode = .ok node) (grid : Grid) (index : Nat) :
    node.RedrawnAs (node.redrawn grid index) := by
  obtain ⟨shows, metadata⟩ := Box.shows_of_toNode normal made
  have valid := (Box.valid_of_toNode made).properties
  have style := assign_getD (congrArg Box.style normal)
  refine ⟨rfl, ?_, fun position stored => ?_, ?_⟩
  · obtain ⟨key, first⟩ := exists_key_split (shows.writable valid)
    rw [← shows.splitTexts_write_eq_iff valid]
    simp [Node.redrawn, Prod.ext_iff, first]
  · have drawn : Box.place grid index node = position := by
      rw [Box.place, Option.mem_def.1 stored]
      rfl
    simp [Node.redrawn, NodeMetadata.diagramPosition?, Box.normal, Box.ofNode, drawn]
  · simp [Node.style, Node.redrawn, Box.normal, Box.ofNode, metadata, style]

lemma redrawnAs_of_toRelationship {boxes : List Box} {index : Nat} {arrow : Arrow}
    {relationship : Relationship} (normal : arrow.normal = arrow)
    (made : arrow.toRelationship boxes index = .ok relationship) :
    relationship.RedrawnAs relationship.redrawn := by
  obtain ⟨shows, metadata⟩ := Arrow.shows_of_toRelationship normal made
  have valid := (Arrow.valid_of_toRelationship made).properties
  have style := assign_getD (congrArg Arrow.style normal)
  refine ⟨rfl, rfl, rfl, ?_, ?_⟩
  · rw [← shows.splitTexts_write_eq_iff valid]
    simp [Relationship.redrawn, Prod.ext_iff]
  · cases given : arrow.style <;> rw [given] at style <;>
      simp_all [Relationship.style, Relationship.redrawn, Arrow.normal, Arrow.ofRelationship]

lemma exists_of_read {document : Option Json} (shown : (read document).answer = .ok model) :
    (∀ node ∈ model.nodes, ∃ box : Box, box.Rebuilt ∧ box.toNode = .ok node) ∧
      (∀ relationship ∈ model.relationships, ∃ (boxes : List Box) (index : Nat) (arrow : Arrow),
        arrow.Rebuilt ∧ arrow.toRelationship boxes index = .ok relationship) ∧
      ∃ style : Option Style, style.map Members.assign = style ∧
        model.metadata = ⟨style.map fun style => ⟨some style⟩, none⟩ := by
  rw [answer_read] at shown
  obtain ⟨json, checked, made⟩ := Except.bind_eq_ok_iff.1 shown
  obtain ⟨_, -, h⟩ := Document.exists_given checked
  have rebuilt := rebuilt_of_yields h
  simp only [toModel, Except.bind_eq_ok_iff] at made
  obtain ⟨nodes, hn, relationships, hr, built⟩ := made
  obtain ⟨-, rfl⟩ := Model.build_eq_ok_iff.1 built
  refine ⟨fun node member => ?_, fun relationship member => ?_, _, rebuilt.style, rfl⟩
  · obtain ⟨box, inside, made⟩ := Except.exists_of_mem_mapM hn member
    exact ⟨box, rebuilt.boxes box inside, made⟩
  · obtain ⟨⟨arrow, index⟩, listed, made⟩ := Except.exists_of_mem_mapM hr member
    have inside := List.mem_of_getElem? (List.mem_zipIdx_iff_getElem?.1 listed)
    exact ⟨_, index, arrow, rebuilt.arrows arrow inside, made⟩

lemma ordinaryNames_of_read {document : Option Json} (shown : (read document).answer = .ok model) :
    model.OrdinaryNames := by
  obtain ⟨nodes, relationships, -⟩ := exists_of_read shown
  constructor
  · intro node member
    obtain ⟨box, rebuilt, made⟩ := nodes node member
    have shows := (Box.shows_of_toNode rebuilt.normal made).1
    exact (shows.writable (Box.valid_of_toNode made).properties).ordinary
  · intro relationship member
    obtain ⟨boxes, index, arrow, rebuilt, made⟩ := relationships relationship member
    have shows := (Arrow.shows_of_toRelationship rebuilt.normal made).1
    exact (shows.writable (Arrow.valid_of_toRelationship made).properties).ordinary

/-- What a diagram's document shows is drawn and read again with the same labels, types, ends
and styles, in order, and with all positions that it says. The properties of an entity are the
same, and the key among them, exactly if no property that reads as a key precedes the key, or
stands in for one that is missing. -/
theorem redrawnAs_of_read {document : Option Json} (shown : (read document).answer = .ok model)
    (positions : model.PositionsFinite) {asked : Option Json}
    (resolved : Settings.resolve asked = .ok settings)
    (finite : settings.grid.spacing.isFinite = true) :
    ∃ diagram back, (write model asked).answer = .ok diagram ∧
      (read (some diagram.toJson)).answer = .ok back ∧
      List.Forall₂ Node.RedrawnAs model.nodes back.nodes ∧
      List.Forall₂ Relationship.RedrawnAs model.relationships back.relationships ∧
      back.style = model.style := by
  obtain ⟨nodes, relationships, style, ordered, metadata⟩ := exists_of_read shown
  have reachable : model.Reachable := .initial (.diagram shown)
  have ordinary := ordinaryNames_of_read shown
  obtain ⟨diagram, written, read⟩ := exists_read_eq reachable ordinary positions resolved finite
  refine ⟨diagram, _, written, read, ?_, ?_, ?_⟩
  · refine forall₂_mapIdx fun node member index => ?_
    obtain ⟨box, rebuilt, made⟩ := nodes node member
    exact redrawnAs_of_toNode rebuilt.normal made settings.grid index
  · refine List.forall₂_map_right_iff.2 (List.forall₂_same.2 fun relationship member => ?_)
    obtain ⟨boxes, index, arrow, rebuilt, made⟩ := relationships relationship member
    exact redrawnAs_of_toRelationship rebuilt.normal made
  · have same := assign_getD ordered
    cases style <;> simpa [Model.style, Model.redrawn, normal, ofModel, metadata] using same

/-- The document of a door that opens into itself, with the texts of their properties. -/
def doorDocument (door opens : List (String × String)) : Json :=
  toJson ⟨[⟨"d", ["Door"], door, some [("fill", .string "red")], some ⟨1, 2⟩, none⟩],
    [⟨"d", "d", "OPENS", opens, none⟩], none⟩

def shownAs (name type : String) (description : Option String) : Property :=
  ⟨name, type, none, description, none⟩

def doorModel (key : Property) (others opens : List Property) : Model :=
  ⟨[⟨"Door", key, others, ⟨some ⟨some ⟨1, 2⟩, none, some [("fill", .string "red")]⟩, none⟩⟩],
    [⟨"OPENS", "Door", "Door", none, opens, .empty⟩], .empty⟩

lemma doorModel_positionsFinite (key : Property) (others opens : List Property) :
    (doorModel key others opens).PositionsFinite := by
  intro node member position known
  obtain rfl := List.mem_singleton.1 member
  have same : (⟨1, 2⟩ : Position) = position := by
    simpa [NodeMetadata.diagramPosition?] using known
  subst same
  exact ⟨by decide +kernel, by decide +kernel⟩

/-- A door with segments that say nothing, and with marks of a key that are descriptions. -/
def oakDocument : Json :=
  doorDocument
    [("kind", "text || KEY | lock"), ("serial", " int |KEY| key"), ("code", "| a| |b | Key")]
    [("since", "date |")]

def oak : Model :=
  doorModel (shownAs "serial" "INT" (some "KEY"))
    [shownAs "kind" "TEXT" (some "KEY | lock"), shownAs "code" "STRING" (some "a | b | Key")]
    [shownAs "since" "DATE" none]

theorem redrawnAs_of_read_oak : ∃ diagram back, (read (some oakDocument)).answer = .ok oak ∧
    (write oak none).answer = .ok diagram ∧ (read (some diagram.toJson)).answer = .ok back ∧
    back.nodes.map (fun node => (node.key, node.properties)) =
      [(shownAs "serial" "INT" (some "KEY"),
        [shownAs "kind" "TEXT" (some "KEY | lock"),
          shownAs "code" "STRING" (some "a | b | Key")])] ∧
    back.relationships.map (fun relationship => (relationship.key, relationship.properties)) =
      [(none, [shownAs "since" "DATE" none])] := by
  have shown : (read (some oakDocument)).answer = .ok oak := by decide +kernel
  have positions : oak.PositionsFinite := doorModel_positionsFinite _ _ _
  have resolved : Settings.resolve none = .ok Settings.standard := by decide +kernel
  obtain ⟨diagram, back, written, read, nodes, relationships, -⟩ :=
    redrawnAs_of_read shown positions resolved (by decide +kernel)
  refine ⟨diagram, back, shown, written, read, ?_, ?_⟩
  · obtain ⟨node, rest, redrawn, none, same⟩ := List.forall₂_cons_left_iff.1 nodes
    obtain rfl := List.forall₂_nil_left_iff.1 none
    obtain ⟨key, others⟩ := redrawn.properties.2 (by decide +kernel)
    rw [same, List.map_singleton, key, others]
  · obtain ⟨relationship, rest, redrawn, none, same⟩ :=
      List.forall₂_cons_left_iff.1 relationships
    obtain rfl := List.forall₂_nil_left_iff.1 none
    obtain ⟨key, others⟩ := redrawn.properties.2 (by decide +kernel)
    rw [same, List.map_singleton, key, others]

/-- A door with texts whose last segments say nothing, so that the marks before them do not
count. -/
def ironDocument : Json :=
  doorDocument [("serial", "STRING | KEY"), ("1", "STRING | KEY |")]
    [("kind", "STRING | key |")]

def iron : Model :=
  doorModel (shownAs "serial" "STRING" none) [shownAs "1" "STRING" (some "KEY")]
    [shownAs "kind" "STRING" (some "key")]

/-- Texts are written without the segments that say nothing, and then the marks count: an index
becomes the key of a node, and the one property of a relationship without a key its key. -/
theorem rekeyed_of_read_iron : ∃ diagram back, (read (some ironDocument)).answer = .ok iron ∧
    (write iron none).answer = .ok diagram ∧ (read (some diagram.toJson)).answer = .ok back ∧
    iron.PositionsFinite ∧
    back.nodes.map (fun node => (node.key, node.properties)) =
      [(shownAs "1" "STRING" none, [shownAs "serial" "STRING" (some "KEY")])] ∧
    back.relationships.map (fun relationship => (relationship.key, relationship.properties)) =
      [(some (shownAs "kind" "STRING" none), [])] := by
  have computed : ((write iron none).answer >>= fun diagram =>
      (read (some diagram.toJson)).answer.map fun back =>
        (back.nodes.map fun node => (node.key, node.properties),
          back.relationships.map fun relationship =>
            (relationship.key, relationship.properties))) =
        .ok ([(shownAs "1" "STRING" none, [shownAs "serial" "STRING" (some "KEY")])],
          [(some (shownAs "kind" "STRING" none), [])]) := by
    decide +kernel
  obtain ⟨diagram, written, rest⟩ := Except.bind_eq_ok_iff.1 computed
  obtain ⟨back, read, entities⟩ := Except.map_eq_ok_iff.1 rest
  obtain ⟨nodes, relationships⟩ := Prod.mk.inj entities
  exact ⟨diagram, back, by decide +kernel, written, read, doorModel_positionsFinite _ _ _, nodes,
    relationships⟩

end Models
end Diagram
end PropertyGraph

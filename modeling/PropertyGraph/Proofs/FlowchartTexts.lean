import PropertyGraph.Flowchart
import PropertyGraph.Proofs.IngestTexts
import PropertyGraph.Proofs.Lists

/-! Flowcharts tell models apart. A flowchart is three lists of lines, and a box or an arrow is a
list of properties between marks; where all names and types are words, each list is read off item
by item, up to a mark that no item begins with. So models have the same flowchart only if they
are the same in all that it shows. -/
namespace PropertyGraph
open Text (Word Breaks Closes)

namespace Flowchart

section Contents

/-- What a flowchart shows of a property. -/
def shown (property : Property) : String × String := (property.name, property.type)

/-- Nodes with boxes that say the same. -/
structure SameBox (node other : Node) : Prop where
  label : node.label = other.label
  key : shown node.key = shown other.key
  properties : node.properties.map shown = other.properties.map shown

/-- Relationships with arrows that say the same. -/
structure SameArrow (relationship other : Relationship) : Prop where
  type : relationship.type = other.type
  startLabel : relationship.startLabel = other.startLabel
  endLabel : relationship.endLabel = other.endLabel
  key : relationship.key.map shown = other.key.map shown
  properties : relationship.properties.map shown = other.properties.map shown

def WordedProperty (property : Property) : Prop := Word property.name ∧ Word property.type

instance (property : Property) : Decidable (WordedProperty property) :=
  inferInstanceAs (Decidable (_ ∧ _))

structure WordedNode (node : Node) : Prop where
  label : Word node.label
  properties : ∀ p ∈ node.allProperties, WordedProperty p

structure WordedRelationship (relationship : Relationship) : Prop where
  type : Word relationship.type
  startLabel : Word relationship.startLabel
  endLabel : Word relationship.endLabel
  properties : ∀ p ∈ relationship.allProperties, WordedProperty p

/-- A model whose labels, types of relationships, and names and types of properties are words. -/
structure Worded (model : Model) : Prop where
  nodes : ∀ n ∈ model.nodes, WordedNode n
  relationships : ∀ r ∈ model.relationships, WordedRelationship r

end Contents

section Lines

/-- A line for a property: its name and its type, marked if it is the key. -/
structure Line where
  name : String
  type : String
  isKey : Bool
  deriving DecidableEq, Repr

def Line.text (line : Line) : String :=
  line.name ++ (": " ++ (line.type ++ if line.isKey then " | KEY" else ""))

def linesOf (key : Option (String × String)) (others : List (String × String)) : List Line :=
  (key.toList.map fun (name, type) => ⟨name, type, true⟩) ++
    others.map fun (name, type) => ⟨name, type, false⟩

lemma linesOf_inj {key key' : Option (String × String)} {others others' : List (String × String)}
    (same : linesOf key others = linesOf key' others') : key = key' ∧ others = others' := by
  have keys (key : Option (String × String)) (others : List (String × String)) :
      ((linesOf key others).find? Line.isKey).map (fun l => (l.name, l.type)) = key := by
    cases key <;> simp [linesOf]
  have rest (key : Option (String × String)) (others : List (String × String)) :
      ((linesOf key others).filter (!·.isKey)).map (fun l => (l.name, l.type)) = others := by
    cases key <;> simp [linesOf, List.filter_map, Function.comp_def]
  exact ⟨by rw [← keys key others, same, keys], by rw [← rest key others, same, rest]⟩

def Line.Worded (line : Line) : Prop := Word line.name ∧ Word line.type

lemma worded_of_mem_linesOf {key : Option Property} {properties : List Property}
    (worded : ∀ p ∈ withKey key properties, WordedProperty p) :
    ∀ line ∈ linesOf (key.map shown) (properties.map shown), line.Worded := by
  intro line member
  rcases List.mem_append.1 member with isKey | other
  · obtain ⟨_, found, rfl⟩ := List.mem_map.1 isKey
    obtain ⟨k, known, rfl⟩ := Option.map_eq_some_iff.1 (Option.mem_toList.1 found)
    exact worded k (List.mem_append_left _ (Option.mem_toList.2 known))
  · obtain ⟨_, found, rfl⟩ := List.mem_map.1 other
    obtain ⟨p, known, rfl⟩ := List.mem_map.1 found
    exact worded p (List.mem_append_right _ known)

lemma Line.text_append_inj {line other : Line} {x y : String} (hl : line.Worded)
    (ho : other.Worded) (hx : Closes x) (hy : Closes y)
    (same : line.text ++ x = other.text ++ y) : line = other ∧ x = y := by
  obtain ⟨name, type, isKey⟩ := line
  obtain ⟨name', type', isKey'⟩ := other
  have breaks (marked : Bool) {z : String} (closes : Closes z) :
      Breaks ((if marked then " | KEY" else "") ++ z) := by
    cases marked with
    | true => exact Breaks.append ⟨' ', rfl, rfl⟩ z
    | false => simpa using closes.breaks
  have apart {z z' : String} (closes : Closes z) : z ≠ " | KEY" ++ z' := by
    rintro rfl
    obtain ⟨c, first, -, other⟩ := closes
    have begins : ' ' = c := by simpa using first
    exact other begins.symm
  simp only [text, String.append_assoc] at same
  obtain ⟨rfl, rest⟩ := Word.mark_inj ⟨':', rfl, rfl⟩ hl.1 ho.1 same
  obtain ⟨rfl, rest⟩ := hl.2.append_inj ho.2 (breaks isKey hx) (breaks isKey' hy) rest
  cases isKey with
  | true =>
    cases isKey' with
    | true => exact ⟨rfl, by simpa using rest⟩
    | false => exact absurd (by simpa using rest.symm) (apart hy)
  | false =>
    cases isKey' with
    | true => exact absurd (by simpa using rest) (apart hx)
    | false => exact ⟨rfl, by simpa using rest⟩

end Lines

section Bodies

variable {title title' mark x y : String} {key key' : Option Property}
  {properties properties' : List Property}

lemma body_eq (title : String) (key : Option Property) (properties : List Property) :
    body title key properties = title ++
      String.join ((linesOf (key.map shown) (properties.map shown)).map
        ("<br/>" ++ Line.text ·)) := by
  have lines : propertyLines key properties =
      (linesOf (key.map shown) (properties.map shown)).map Line.text := by
    cases key <;> simp [propertyLines, linesOf, shown, Line.text, String.append_assoc]
  rw [body, Text.join_eq, lines, List.map_map]
  rfl

/-- The lines end at a mark that does not begin as a line break does. -/
lemma body_append_inj (ht : Word title) (ht' : Word title')
    (hp : ∀ p ∈ withKey key properties, WordedProperty p)
    (hp' : ∀ p ∈ withKey key' properties', WordedProperty p) (ends : Closes mark)
    (apart : mark.toList.head? ≠ "<br/>".toList.head?)
    (same : body title key properties ++ (mark ++ x) =
      body title' key' properties' ++ (mark ++ y)) :
    title = title' ∧ key.map shown = key'.map shown ∧
      properties.map shown = properties'.map shown ∧ x = y := by
  have separates : Closes "<br/>" := ⟨'<', rfl, rfl, by decide⟩
  have goesOn (line : Line) (x y : String) (_ : line.Worded) :
      "<br/>" ++ (line.text ++ x) ≠ mark ++ y :=
    separates.breaks.append_ne ends.breaks apart.symm _ y
  simp only [body_eq, String.append_assoc] at same
  obtain ⟨titles, rest⟩ := ht.append_inj ht' (Text.closes_join separates ends _ _).breaks
    (Text.closes_join separates ends _ _).breaks same
  obtain ⟨lines, rest⟩ := Text.join_append_inj (R := Eq) separates ends
    (fun _ _ _ _ => Line.text_append_inj) goesOn (worded_of_mem_linesOf hp)
    (worded_of_mem_linesOf hp') rest
  rw [List.forall₂_eq_eq_eq] at lines
  obtain ⟨keys, others⟩ := linesOf_inj lines
  exact ⟨titles, keys, others, rest⟩

end Bodies

section Boxes

variable {node other : Node} {x y : String}

lemma box_append_inj (hn : WordedNode node) (ho : WordedNode other)
    (same : box node ++ x = box other ++ y) : SameBox node other ∧ x = y := by
  simp only [box, String.append_assoc] at same
  obtain ⟨labels, rest⟩ := Word.mark_inj ⟨'[', rfl, rfl⟩ hn.label ho.label same
  obtain ⟨-, keys, others, rest⟩ := body_append_inj hn.label ho.label hn.properties ho.properties
    ⟨'"', rfl, rfl, by decide⟩ (by decide) rest
  exact ⟨⟨labels, Option.some.inj keys, others⟩, rest⟩

lemma SameBox.box_eq (same : SameBox node other) : box other = box node := by
  simp only [box, body_eq, Option.map_some, same.label, same.key, same.properties]

lemma SameBox.styleLines_eq (same : SameBox node other) (index : Nat) :
    styleLines index other = styleLines index node := by
  simp only [styleLines, same.label]

end Boxes

section Arrows

variable {relationship other : Relationship} {x y : String}

lemma arrow_append_inj (hr : WordedRelationship relationship) (ho : WordedRelationship other)
    (hx : Closes x) (hy : Closes y) (same : arrow relationship ++ x = arrow other ++ y) :
    SameArrow relationship other ∧ x = y := by
  simp only [arrow, String.append_assoc] at same
  obtain ⟨starts, rest⟩ := Word.mark_inj ⟨' ', rfl, rfl⟩ hr.startLabel ho.startLabel same
  obtain ⟨types, keys, others, rest⟩ := body_append_inj hr.type ho.type hr.properties
    ho.properties ⟨'|', rfl, rfl, by decide⟩ (by decide) rest
  obtain ⟨ends, rest⟩ := hr.endLabel.append_inj ho.endLabel hx.breaks hy.breaks rest
  exact ⟨⟨types, starts, ends, keys, others⟩, rest⟩

lemma SameArrow.arrow_eq (same : SameArrow relationship other) :
    arrow other = arrow relationship := by
  simp only [arrow, body_eq, same.type, same.startLabel, same.endLabel, same.key, same.properties]

end Arrows

section Models

lemma ofModel_eq (model : Model) : ofModel model =
    "graph TD\n%% Nodes" ++ (String.join (model.nodes.map ("\n" ++ box ·)) ++
      ("\n\n%% Relationships" ++ (String.join (model.relationships.map ("\n" ++ arrow ·)) ++
        ("\n\n%% Styling" ++
          String.join ((model.nodes.mapIdx styleLines).flatten.map ("\n" ++ ·)))))) := by
  have nodes : "graph TD\n%% Nodes" = "graph TD" ++ ("\n" ++ "%% Nodes") := rfl
  have relationships : "\n\n%% Relationships" = "\n" ++ ("\n" ++ "%% Relationships") := rfl
  have styles : "\n\n%% Styling" = "\n" ++ ("\n" ++ "%% Styling") := rfl
  simp only [ofModel, nodes, relationships, styles, List.cons_append, List.nil_append,
    Text.join_eq, List.map_cons, List.map_nil, List.map_append, List.map_map, String.join_cons,
    String.join_nil, String.join_append, String.append_assoc, String.empty_append]
  rfl

lemma line_ne {label mark : String} (word : Word label) (breaks : Breaks mark)
    (apart : mark.toList.head? ≠ "\n".toList.head?) (x y : String) :
    "\n" ++ (label ++ (mark ++ x)) ≠ "\n" ++ ("\n" ++ y) := by
  rw [Ne, String.append_right_inj]
  exact word.append_ne breaks ⟨'\n', rfl, rfl⟩ apart x y

lemma box_ne (node : Node) (x y : String) (worded : WordedNode node) :
    "\n" ++ (box node ++ x) ≠ "\n\n%% Relationships" ++ y := by
  have title : "\n\n%% Relationships" = "\n" ++ ("\n" ++ "%% Relationships") := rfl
  simp only [box, title, String.append_assoc]
  exact line_ne worded.label ⟨'[', rfl, rfl⟩ (by decide) _ _

lemma arrow_ne (relationship : Relationship) (x y : String)
    (worded : WordedRelationship relationship) :
    "\n" ++ (arrow relationship ++ x) ≠ "\n\n%% Styling" ++ y := by
  have title : "\n\n%% Styling" = "\n" ++ ("\n" ++ "%% Styling") := rfl
  simp only [arrow, title, String.append_assoc]
  exact line_ne worded.startLabel ⟨' ', rfl, rfl⟩ (by decide) _ _

lemma forall₂_of_ofModel_eq {first second : Model} (hf : Worded first) (hs : Worded second)
    (same : ofModel first = ofModel second) :
    List.Forall₂ SameBox first.nodes second.nodes ∧
      List.Forall₂ SameArrow first.relationships second.relationships := by
  have separates : Closes "\n" := ⟨'\n', rfl, rfl, by decide⟩
  simp only [ofModel_eq, String.append_right_inj] at same
  obtain ⟨nodes, rest⟩ := Text.join_append_inj separates ⟨'\n', rfl, rfl, by decide⟩
    (fun _ _ _ _ hn ho _ _ => box_append_inj hn ho) box_ne hf.nodes hs.nodes same
  obtain ⟨relationships, -⟩ := Text.join_append_inj separates ⟨'\n', rfl, rfl, by decide⟩
    (fun _ _ _ _ => arrow_append_inj) arrow_ne hf.relationships hs.relationships rest
  exact ⟨nodes, relationships⟩

lemma ofModel_eq_of_forall₂ {first second : Model}
    (nodes : List.Forall₂ SameBox first.nodes second.nodes)
    (relationships : List.Forall₂ SameArrow first.relationships second.relationships) :
    ofModel first = ofModel second := by
  have boxes : second.nodes.map ("\n" ++ box ·) = first.nodes.map ("\n" ++ box ·) :=
    map_eq_map_of_forall₂ (fun _ _ same => by rw [SameBox.box_eq same]) nodes
  have arrows : second.relationships.map ("\n" ++ arrow ·) =
      first.relationships.map ("\n" ++ arrow ·) :=
    map_eq_map_of_forall₂ (fun _ _ same => by rw [SameArrow.arrow_eq same]) relationships
  have styles : second.nodes.mapIdx styleLines = first.nodes.mapIdx styleLines :=
    mapIdx_eq_mapIdx_of_forall₂ (fun index _ _ same => SameBox.styleLines_eq same index) nodes
  rw [ofModel_eq, ofModel_eq, boxes, arrows, styles]

/-- Models in words have the same flowchart exactly if they have, in the same order, the same
labels, relationships and ends, and with each of them the same key and other properties with the
same types. -/
theorem ofModel_eq_iff {first second : Model} (hf : Worded first) (hs : Worded second) :
    ofModel first = ofModel second ↔ List.Forall₂ SameBox first.nodes second.nodes ∧
      List.Forall₂ SameArrow first.relationships second.relationships :=
  ⟨forall₂_of_ofModel_eq hf hs, fun ⟨nodes, relationships⟩ =>
    ofModel_eq_of_forall₂ nodes relationships⟩

/-- A model in which a relationship has a year. -/
def dated : Model := ⟨[.author, .book], [Query.dated], .empty⟩

/-- A model in which the year is the key of the relationship. -/
def yearly : Model := ⟨[.author, .book], [Query.yearly], .empty⟩

/-- A model in which it is also said which year that is. -/
def explained : Model :=
  ⟨[.author, .book],
    [{ Query.dated with properties := [{ Property.ofName "year" with description := "of print" }] }],
    .empty⟩

/-- Whether a property is a key makes a difference, and its description makes none. -/
theorem ofModel_eq_iff_yearly : Worded dated ∧ Worded yearly ∧ Worded explained ∧
    ofModel dated ≠ ofModel yearly ∧ ofModel dated = ofModel explained := by
  have author : WordedNode .author := ⟨by decide, by decide⟩
  have book : WordedNode .book := ⟨by decide, by decide⟩
  have worded {relationship : Relationship} (written : WordedRelationship relationship) :
      Worded ⟨[.author, .book], [relationship], .empty⟩ :=
    ⟨by simp [author, book], by simpa using written⟩
  have hd : Worded dated := worded (by constructor <;> decide)
  have hy : Worded yearly := worded (by constructor <;> decide)
  have he : Worded explained := worded (by constructor <;> decide)
  refine ⟨hd, hy, he, fun same => ?_, (ofModel_eq_iff hd he).2 ⟨?_, ?_⟩⟩
  · have arrows := ((ofModel_eq_iff hd hy).1 same).2
    exact absurd (List.forall₂_cons.1 arrows).1.key (by decide)
  · exact List.forall₂_same.2 fun _ _ => ⟨rfl, rfl, rfl⟩
  · exact .cons ⟨rfl, rfl, rfl, rfl, rfl⟩ .nil

end Models
end Flowchart
end PropertyGraph

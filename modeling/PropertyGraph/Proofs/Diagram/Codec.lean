import PropertyGraph.Diagram.Basic
import PropertyGraph.Proofs.ReferenceGraph.Codec

/-! Diagrams as JSON. A diagram that is written passes the check of documents if its texts say
something and its positions are numbers, and is read back with the members of its open objects
in order. -/
namespace PropertyGraph

namespace Shape

lemma Yields.withDefault {shape : Shape} {value result : Json} (h : shape.Yields value result)
    (default : Json) : (withDefault shape default).Yields value result := fun path => by
  simpa only [check, Option.getD_some] using h path

lemma yields_someTexts {texts : List String} (some : texts ≠ [])
    (each : ∀ text ∈ texts, text ≠ "") :
    (Shape.list true .someText).Yields (.array (texts.map .string))
      (.array (texts.map .string)) := fun path => by
  have listed := yields_list (fun text member => yields_someText (each text member)) path
  simpa [check, listOf, some] using listed

end Shape

namespace Diagram
open Shape (Writes yields_object yields_anyText yields_someText yields_list yields_dictionary)

lemma textsToJson_yields (texts : List (String × String)) :
    (Shape.dictionary .anyText).Yields (textsToJson texts)
      (textsToJson (Members.assign texts)) := by
  rw [textsToJson, textsToJson, ← Members.assign_map]
  exact Shape.yields_entries fun text _ => yields_anyText text.2

lemma textsOfJson_object {members : List (String × Json)} {texts : List (String × String)}
    (given : Members.get? "properties" members = some (textsToJson texts)) :
    textsOfJson (.object members) = texts := by
  simp [textsOfJson, given, textsToJson, List.filterMap_map, Function.comp_def]

lemma writes_style (style : Option Style) :
    Writes [("style", .optional styleShape)] (Json.optional "style" (style.map .object))
      (Json.optional "style" ((style.map Members.assign).map .object)) := by
  rw [Option.map_map]
  exact .optional_last fun members _ => yields_dictionary members

section Boxes

def Box.normal (box : Box) : Box :=
  { box with
    properties := Members.assign box.properties
    style := box.style.map Members.assign }

structure Box.Passes (box : Box) : Prop where
  id : box.id ≠ ""
  labels : box.labels ≠ []
  each : ∀ label ∈ box.labels, label ≠ ""
  position : ∀ position ∈ box.position, position.x.isNaN = false ∧ position.y.isNaN = false

def Box.members (box : Box) : List (String × Json) :=
  ("id", .string box.id) :: ("labels", .array (box.labels.map .string)) ::
    ("properties", textsToJson box.properties) ::
      (Json.optional "position" (box.position.map Position.toJson) ++
        (Json.optional "caption" (box.caption.map .string) ++
          Json.optional "style" (box.style.map .object)))

lemma Box.ofJson_members (box : Box) : ofJson (.object box.members) = box := by
  have texts : textsOfJson (.object box.members) = box.properties :=
    textsOfJson_object (by simp [members])
  have labels : (box.labels.map Json.string).filterMap Json.string? = box.labels := by
    rw [List.filterMap_map]
    exact List.filterMap_some
  simp only [ofJson, texts]
  simp [members, labels, Position.ofJson_toJson, Function.comp_def]

lemma Box.Passes.yields {box : Box} (passes : box.Passes) :
    Box.shape.Yields box.toJson (.object box.normal.members) := by
  have position : ∀ p ∈ box.position, Position.shape.Yields p.toJson p.toJson :=
    fun p member => Position.yields (passes.position p member)
  have written : Writes _ box.members box.normal.members :=
    .member (yields_someText passes.id) <|
      .member (Shape.yields_someTexts passes.labels passes.each) <|
      .member ((textsToJson_yields box.properties).withDefault (.object [])) <|
      .optional position <| .optional (fun caption _ => yields_anyText caption) <|
      writes_style box.style
  refine Shape.yields_object_of_agree written (by decide) (by decide) (fun name member => ?_) nofun
  simp only [List.map_cons, List.map_nil, List.mem_cons, List.not_mem_nil, or_false] at member
  rcases member with rfl | rfl | rfl | rfl | rfl | rfl <;> simp [members]

end Boxes

section Arrows

def Arrow.normal (arrow : Arrow) : Arrow :=
  { arrow with
    properties := Members.assign arrow.properties
    style := arrow.style.map Members.assign }

structure Arrow.Passes (arrow : Arrow) : Prop where
  fromId : arrow.fromId ≠ ""
  toId : arrow.toId ≠ ""
  type : arrow.type ≠ ""

lemma Arrow.ofJson_toJson (arrow : Arrow) : ofJson arrow.toJson = arrow := by
  have texts : textsOfJson arrow.toJson = arrow.properties := textsOfJson_object (by simp)
  simp only [ofJson, texts]
  simp [toJson]

lemma Arrow.Passes.yields {arrow : Arrow} (passes : arrow.Passes) :
    Arrow.shape.Yields arrow.toJson arrow.normal.toJson :=
  yields_object
    (.absent <| .member (yields_someText passes.fromId) <|
      .member (yields_someText passes.toId) <| .member (yields_someText passes.type) <|
      .member ((textsToJson_yields arrow.properties).withDefault (.object [])) <|
      writes_style arrow.style)
    (by decide) (by decide)

end Arrows

/-- The diagram with the members of its open objects in order. -/
def normal (diagram : Diagram) : Diagram where
  boxes := diagram.boxes.map Box.normal
  arrows := diagram.arrows.map Arrow.normal
  style := diagram.style.map Members.assign

structure Passes (diagram : Diagram) : Prop where
  boxes : ∀ box ∈ diagram.boxes, box.Passes
  arrows : ∀ arrow ∈ diagram.arrows, arrow.Passes

/-- A diagram that passes is read back in its normal form. -/
theorem Passes.exists_check_eq {diagram : Diagram} (passes : diagram.Passes) (subject : String) :
    ∃ json, Document.check shape (some diagram.toJson) subject = .ok json ∧
      ofJson json = diagram.normal := by
  have boxes := yields_list fun box member => (passes.boxes box member).yields
  have arrows := yields_list fun arrow member => (passes.arrows arrow member).yields
  have yields : shape.Yields diagram.toJson (.object
      (("nodes", .array (diagram.boxes.map fun box => .object box.normal.members)) ::
        ("relationships", .array (diagram.arrows.map fun arrow => arrow.normal.toJson)) ::
          Json.optional "style" ((diagram.style.map Members.assign).map .object))) :=
    yields_object
      (.member boxes <| .member (arrows.withDefault (.array [])) <| writes_style diagram.style)
      (by decide) (by decide)
  have checked (json : Json) (made : shape.parse (some diagram.toJson) = .ok json) :
      Document.check shape (some diagram.toJson) subject = .ok json := by
    rw [Document.check, made]
  refine ⟨_, checked _ yields.parse, ?_⟩
  cases known : diagram.style <;>
    simp [ofJson, normal, known, Function.comp_def, Box.ofJson_members, Arrow.ofJson_toJson]

end Diagram
end PropertyGraph

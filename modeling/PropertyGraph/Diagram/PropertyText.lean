import PropertyGraph.Model.Property
import PropertyGraph.Text.Basic

/-! Properties as diagrams write them: the type, then maybe a description, then maybe the
key tag, with bars between. -/
namespace PropertyGraph.Diagram

/-- A property's text taken apart. The key tag is kept as it is written. -/
structure PropertyText where
  type : String
  description : Option String
  keyTag : Option String
  deriving DecidableEq, Repr

namespace PropertyText

def separator : String := " | "

/-- What marks the text of a key, in any case. -/
def keyMark : String := "KEY"

/-- Texts that say something, with separators between; nothing if none does. -/
def joined? (texts : List String) : Option String :=
  let kept := texts.filter (!·.isEmpty)
  if kept.isEmpty then none else some (Text.join separator kept)

def segments (text : String) : List String :=
  (Text.segments '|' text.toList).map fun segment => String.ofList (Text.trimChars segment)

/-- The first segment is the type, a last one that reads KEY in any case is the key tag, and
those between are the description. -/
def parse (text : String) : PropertyText :=
  match segments text with
  | [] => ⟨"", none, none⟩
  | type :: rest =>
    match rest.getLast? with
    | some last =>
      if Text.upper last = keyMark then ⟨type, joined? rest.dropLast, some last⟩
      else ⟨type, joined? rest, none⟩
    | none => ⟨type, none, none⟩

def isKey (text : PropertyText) : Bool := text.keyTag.isSome

def toJson (text : PropertyText) : Json :=
  .object
    ([("type", .string text.type)] ++
      Json.optional "description" (text.description.map .string) ++
      [("isKey", .bool text.isKey)] ++
      Json.optional "keyTag" (text.keyTag.map .string))

/-- The text of a property; an empty description is not written. -/
def format (property : Property) (isKey : Bool) : String :=
  Text.join separator
    (property.type :: (property.description.filter (!·.isEmpty)).toList ++
      if isKey then [keyMark] else [])

/-- The property that stands under a name; the key does not keep its tag. -/
def keyProperty (name : String) (text : PropertyText) : Except ModelError Property :=
  Property.build ⟨name, some text.type, none, text.description, none⟩

/-- The property that stands under a name; a key tag becomes part of the description. -/
def plainProperty (name : String) (text : PropertyText) : Except ModelError Property :=
  Property.build
    ⟨name, some text.type, none, joined? (text.description.toList ++ text.keyTag.toList), none⟩

end PropertyText
end PropertyGraph.Diagram

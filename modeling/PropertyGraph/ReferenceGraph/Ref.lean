import PropertyGraph.Shape.Basic

/-! References between the parts of a reference graph: an id behind a number sign. -/
namespace PropertyGraph.ReferenceGraph

structure Ref where
  text : String
  deriving DecidableEq, Repr

namespace Ref

def toId (id : String) : Ref := ⟨"#" ++ id⟩

/-- The id that is referred to; the number sign may be missing. -/
def id (ref : Ref) : String :=
  match ref.text.toList with
  | '#' :: rest => String.ofList rest
  | _ => ref.text

/-- A reference made for an id points at it, whatever the id begins with. -/
@[simp] theorem id_toId (id : String) : (toId id).id = id := by
  simp [toId, Ref.id]

def shape : Shape := .closedObject [("$ref", .someText)]

def toJson (ref : Ref) : Json := .object [("$ref", .string ref.text)]

def ofJson (json : Json) : Ref := ⟨json.text "$ref"⟩

def member (name : String) (json : Json) : Ref := ofJson ((json.get? name).getD .null)

/-- The reference that a member holds unless it is null. -/
def member? (name : String) (json : Json) : Option Ref :=
  match json.get? name with
  | some (.object members) => some (ofJson (.object members))
  | _ => none

end Ref
end PropertyGraph.ReferenceGraph

import PropertyGraph.Model.Basic

/-! Ids of the parts of an exported reference graph. Ids of labels, types and kinds follow
from positions; a property keeps the id it is stored with unless that has been handed out
already, and else gets a fresh one that nothing stored will ask for. -/
namespace PropertyGraph.ReferenceGraph

def nodeLabelId (index : Nat) : String := "nl:" ++ toString index

def nodeKindId (index : Nat) : String := "n:" ++ toString index

/-- Types of relationships are counted from one. -/
def relationshipTypeId (index : Nat) : String := "rt:" ++ toString (index + 1)

def relationshipKindId (index : Nat) : String := "r:" ++ toString (index + 1)

def freshId (number : Nat) : String := "p:" ++ toString number

/-- What has been handed out so far, what is reserved, and the next number to try. -/
structure Ids where
  reserved : List String
  used : List String
  next : Nat
  deriving DecidableEq, Repr

namespace Ids

def start (reserved : List String) : Ids := ⟨reserved, [], 0⟩

def isTaken (ids : Ids) (id : String) : Bool := ids.reserved.contains id || ids.used.contains id

/-- The first number from `number` on whose id is free, of so many that are tried and the
one behind them. -/
def firstFree (ids : Ids) : Nat → Nat → Nat
  | 0, number => number
  | tries + 1, number =>
    if ids.isTaken (freshId number) then firstFree ids tries (number + 1) else number

/-- A fresh id. At most as many numbers are passed over as there are ids taken. -/
def fresh (ids : Ids) : String × Ids :=
  let number := ids.firstFree (ids.reserved.length + ids.used.length) ids.next
  (freshId number, ⟨ids.reserved, freshId number :: ids.used, number + 1⟩)

/-- The id stored with a property if it has not been handed out, else a fresh one. -/
def take (ids : Ids) (property : Property) : String × Ids :=
  match property.storedId? with
  | some id =>
    if ids.used.contains id then ids.fresh else (id, { ids with used := id :: ids.used })
  | none => ids.fresh

/-- What an id is asked for: a property, or something that has no stored one. -/
inductive Request
  | of (property : Property)
  | fresh
  deriving DecidableEq, Repr

def Request.storedId? : Request → Option String
  | .of property => property.storedId?
  | .fresh => none

def answer (ids : Ids) : Request → String × Ids
  | .of property => ids.take property
  | .fresh => ids.fresh

def answerAll (ids : Ids) : List Request → List String × Ids
  | [] => ([], ids)
  | request :: requests =>
    let (id, ids) := ids.answer request
    let (rest, ids) := answerAll ids requests
    (id :: rest, ids)

end Ids

/-- Every property of a model: those of nodes, then those of relationships, keys first. -/
def propertiesOf (model : Model) : List Property :=
  model.nodes.flatMap Node.allProperties ++ model.relationships.flatMap Relationship.allProperties

/-- The ids stored with a model's properties, each once, in order. -/
def storedIds (model : Model) : List String :=
  ((propertiesOf model).filterMap Property.storedId?).eraseDups

/-- Before anything is handed out, all ids stored with a model are reserved. -/
def Ids.ofModel (model : Model) : Ids := .start (storedIds model)

end PropertyGraph.ReferenceGraph

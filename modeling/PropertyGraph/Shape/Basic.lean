import PropertyGraph.Shape.Issue

/-! Shapes of JSON values. Checking a value against a shape collects every issue, in the
order of the shape's members and the value's items, and rebuilds the value: members that
the shape does not know are left out unless it keeps them, and defaults stand in for
members that are absent. -/
namespace PropertyGraph

inductive NumberRule
  | any
  | positive
  | positiveInteger
  deriving DecidableEq, Repr

inductive Shape
  | anything
  | text (nonEmpty : Bool)
  | flag
  | number (rule : NumberRule)
  | choice (choices : List String)
  | list (nonEmpty : Bool) (item : Shape)
  | dictionary (item : Shape)
  | object (members : List (String × Shape)) (keepsUnknown : Bool)
  | optional (shape : Shape)
  | nullable (shape : Shape)
  | withDefault (shape : Shape) (default : Json)
  deriving Repr

/-- The rebuilt value, if there is one, and all complaints. -/
structure Outcome where
  value : Option Json
  issues : List Issue
  deriving Repr

namespace Outcome

def accept (value : Json) : Outcome := ⟨some value, []⟩

def refuse (path : List String) (fault : Fault) : Outcome := ⟨none, [⟨path, fault.message⟩]⟩

def report (path : List String) (value : Json) (faults : List Fault) : Outcome :=
  ⟨some value, faults.map fun fault => ⟨path, fault.message⟩⟩

/-- The complaint about a value of the wrong kind or an absent one. -/
def mismatch (path : List String) (expected : String) : Option Json → Outcome
  | none => refuse path .absent
  | some value => refuse path (.kind expected value.kindName)

end Outcome

def NumberRule.faults (x : Binary64) : NumberRule → List Fault
  | .any => []
  | .positive => if x.isPositive then [] else [.notPositive]
  | .positiveInteger =>
    (if x.isInteger then [] else [.fractional]) ++ if x.isPositive then [] else [.notPositive]

namespace Shape

def gatherItems (outcomes : List Outcome) (faults : List Issue) : Outcome :=
  ⟨some (.array (outcomes.filterMap Outcome.value)), faults ++ outcomes.flatMap Outcome.issues⟩

/-- The outcomes of an object's members, as one, with the members that are kept as they
are. The rebuilt object is assigned its members, so it has none under the name of a prototype,
but what such a member is reported for counts. -/
def gatherMembers (outcomes : List (String × Outcome)) (kept : List (String × Json)) : Outcome :=
  let rebuilt := outcomes.filterMap fun (name, outcome) => outcome.value.map fun v => (name, v)
  ⟨some (.object (Members.assign (rebuilt ++ kept))), outcomes.flatMap (·.2.issues)⟩

mutual

/-- Check the value at a path; `none` is an absent value. -/
def check (path : List String) (value : Option Json) : Shape → Outcome
  | .anything => ⟨value, []⟩
  | .text nonEmpty =>
    match value with
    | some (.string s) =>
      .report path (.string s) (if nonEmpty && s.isEmpty then [.emptyText] else [])
    | other => .mismatch path "string" other
  | .flag =>
    match value with
    | some (.bool b) => .accept (.bool b)
    | other => .mismatch path "boolean" other
  | .number rule =>
    match value with
    | some (.number x) =>
      if x.isNaN then .mismatch path "number" value else .report path (.number x) (rule.faults x)
    | other => .mismatch path "number" other
  | .choice choices =>
    match value with
    | some (.string s) =>
      if choices.contains s then .accept (.string s) else .refuse path (.choice choices s)
    | other => .mismatch path (choicesText choices) other
  | .list nonEmpty item =>
    match value with
    | some (.array items) =>
      gatherItems
        (items.mapIdx fun i v => check (path ++ [toString i]) (some v) item)
        (if nonEmpty && items.isEmpty then [⟨path, Fault.emptyList.message⟩] else [])
    | other => .mismatch path "array" other
  | .dictionary item =>
    match value with
    | some (.object members) =>
      gatherMembers
        (members.map fun (name, v) => (name, check (path ++ [name]) (some v) item)) []
    | other => .mismatch path "object" other
  | .object shapes keepsUnknown =>
    match value with
    | some (.object members) =>
      gatherMembers (checkMembers path members shapes)
        (if keepsUnknown then members.filter fun (name, _) => !(shapes.map Prod.fst).contains name
          else [])
    | other => .mismatch path "object" other
  | .optional shape =>
    match value with
    | none => ⟨none, []⟩
    | some v => check path (some v) shape
  | .nullable shape =>
    match value with
    | some .null => .accept .null
    | other => check path other shape
  | .withDefault shape default => check path (some (value.getD default)) shape

/-- Check the members that a shape knows, in its order. -/
def checkMembers (path : List String) (members : List (String × Json)) :
    List (String × Shape) → List (String × Outcome)
  | [] => []
  | (name, shape) :: shapes =>
    (name, check (path ++ [name]) (Members.get? name members) shape) ::
      checkMembers path members shapes

end

def parse (shape : Shape) (value : Option Json) : Except (List Issue) Json :=
  let outcome := shape.check [] value
  if outcome.issues.isEmpty then .ok (outcome.value.getD .null) else .error outcome.issues

/-- An object whose unknown members are left out. -/
def closedObject (members : List (String × Shape)) : Shape := .object members false

/-- An object whose unknown members are kept behind the known ones. -/
def openObject (members : List (String × Shape)) : Shape := .object members true

def anyText : Shape := .text false

def someText : Shape := .text true

def listOf (item : Shape) : Shape := .list false item

end Shape
end PropertyGraph

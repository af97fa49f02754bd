import PropertyGraph.ReferenceGraph.Ref

/-! Constraints and indexes over the properties of a node label or a relationship type.
They are kept as they were read, with members that nothing here knows, and looked at
through their owner and their properties. -/
namespace PropertyGraph.ReferenceGraph

inductive RuleKind
  | constraint
  | index
  deriving DecidableEq, Repr

namespace RuleKind

/-- The member that says of what type a rule is. -/
def typeMember : RuleKind → String
  | .constraint => "constraintType"
  | .index => "indexType"

/-- The type of the rules that exports make for keys. -/
def keyType : RuleKind → String
  | .constraint => "uniqueness"
  | .index => "default"

def suffix : RuleKind → String
  | .constraint => "_constraint"
  | .index => "_index"

def ruleId (number : Nat) : RuleKind → String
  | .constraint => "c:" ++ toString number
  | .index => "i:" ++ toString number

end RuleKind

/-- Whose properties a rule is about: a node label's or a relationship type's. -/
inductive RuleOwner
  | node (label : Ref)
  | relationship (type : Ref)
  deriving DecidableEq, Repr

structure Rule where
  members : List (String × Json)
  deriving DecidableEq, Repr

namespace Rule

def toJson (rule : Rule) : Json := .object rule.members

def ofJson (json : Json) : Rule := ⟨json.object?.getD []⟩

def shape (kind : RuleKind) : Shape :=
  .openObject
    [("$id", .anyText), ("name", .anyText), (kind.typeMember, .anyText),
      ("entityType", .choice ["node", "relationship"]), ("nodeLabel", .nullable Ref.shape),
      ("relationshipType", .nullable Ref.shape), ("properties", .listOf Ref.shape)]

def id (rule : Rule) : String := rule.toJson.text "$id"

def name (rule : Rule) : String := rule.toJson.text "name"

/-- The owner on the side that the entity type selects, if there is one. -/
def owner? (rule : Rule) : Option RuleOwner :=
  if rule.toJson.text "entityType" = "node" then
    (Ref.member? "nodeLabel" rule.toJson).map .node
  else (Ref.member? "relationshipType" rule.toJson).map .relationship

def properties (rule : Rule) : List Ref := (rule.toJson.list "properties").map Ref.ofJson

def forKey (kind : RuleKind) (number : Nat) (name : String) (owner : RuleOwner) (keyId : String) :
    Rule :=
  let (entity, label, type) := match owner with
    | .node label => ("node", label.toJson, Json.null)
    | .relationship type => ("relationship", Json.null, type.toJson)
  ⟨[("$id", .string (kind.ruleId number)), ("name", .string (name ++ kind.suffix)),
    (kind.typeMember, .string kind.keyType), ("entityType", .string entity),
    ("nodeLabel", label), ("relationshipType", type),
    ("properties", .array [(Ref.toId keyId).toJson])]⟩

end Rule
end PropertyGraph.ReferenceGraph

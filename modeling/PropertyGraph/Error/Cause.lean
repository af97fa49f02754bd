import PropertyGraph.Error.Report
import PropertyGraph.Shape.Issue

/-! Every way in which an operation on models and documents can fail, with the report of
each. -/
namespace PropertyGraph

inductive Owner
  | node (label : String)
  | relationship (pattern : String)
  deriving DecidableEq, Repr

namespace Owner

def name : Owner → String
  | .node label => label
  | .relationship pattern => pattern

def text : Owner → String
  | .node label => "node " ++ label
  | .relationship pattern => "relationship " ++ pattern

end Owner

inductive End
  | start
  | finish
  deriving DecidableEq, Repr

def End.name : End → String
  | .start => "start"
  | .finish => "end"

/-- The texts of a relationship that must not be blank. -/
inductive RelationshipText
  | type
  | startLabel
  | endLabel
  deriving DecidableEq, Repr

def RelationshipText.name : RelationshipText → String
  | .type => "type"
  | .startLabel => "startNodeLabel"
  | .endLabel => "endNodeLabel"

/-- Why no property of a node could be taken as its key. -/
inductive KeyFault
  | untagged (nodeId : String)
  | noProperties (labelId : String)
  | foreignKey (keyId labelId : String)
  | undeclared (labelId : String)
  deriving DecidableEq, Repr

def KeyFault.detail : KeyFault → String
  | .untagged nodeId => s!"no property of diagram node {nodeId} is tagged KEY"
  | .noProperties labelId => s!"reference-graph label {labelId} declares no properties"
  | .foreignKey keyId labelId => s!"declared key {keyId} is not a property of {labelId}"
  | .undeclared labelId => s!"no key declared for {labelId}"

/-- What a reference is expected to point at. -/
inductive Target
  | nodeLabel
  | relationshipType
  | nodeObject
  | relationshipObject
  deriving DecidableEq, Repr

def Target.name : Target → String
  | .nodeLabel => "node label"
  | .relationshipType => "relationship type"
  | .nodeObject => "node object type"
  | .relationshipObject => "relationship object type"

/-- What is wrong with a part of a document. -/
inductive DocumentFault
  | invalid (subject message : String)
  | malformedText (subject : String)
  | duplicateId (id : String)
  | noLabel (objectId : String)
  | dangling (reference : String) (target : Target)
  | unknownNode (id : String)
  deriving DecidableEq, Repr

def DocumentFault.detail : DocumentFault → String
  | .invalid subject message => s!"Invalid {subject}: {message}"
  | .malformedText subject => s!"Malformed {subject} JSON: <detail>"
  | .duplicateId id => s!"Duplicate id {id}"
  | .noLabel objectId => s!"Node object type {objectId} has no label"
  | .dangling reference target => s!"Reference {reference} does not point at a {target.name}"
  | .unknownNode id => s!"Unknown node id {id}"

/-- Why an operation failed. -/
inductive ModelError
  | blankPropertyName
  | blankLabel
  | blankRelationship (field : RelationshipText)
  | repeatedProperty (owner : Owner) (name : String) (count : Nat)
  | propertyExists (owner : Owner) (name : String)
  | repeatedLabel (label : String) (count : Nat)
  | repeatedPattern (pattern : String) (count : Nat)
  | danglingEnd (pattern : String) (missing : End) (label : String)
  | missingKey (label : String) (fault : KeyFault)
  | invalidRecord (subject : String) (issues : List Issue)
  | document (path : String) (fault : DocumentFault)
  | unmapped (propertyId : String) (owner : Owner)
  | unknownLabel (label : String)
  | unknownPattern (pattern : String)
  | settings (issues : List Issue)
  deriving DecidableEq, Repr

namespace ModelError

def report : ModelError → Report
  | .blankPropertyName =>
    .plain .validation "Property name must not be empty" [("field", .string "name")]
  | .blankLabel => .plain .validation "Node label must not be empty" [("field", .string "label")]
  | .blankRelationship field =>
    .plain .validation s!"Relationship {field.name} must not be empty"
      [("field", .string field.name)]
  | .repeatedProperty owner name count =>
    .plain .duplicateProperty s!"Property {name} appears {count} times in {owner.text}"
      [("propertyName", .string name), ("owner", .string owner.name), ("count", .nat count)]
  | .propertyExists owner name =>
    .plain .duplicateProperty s!"Property {name} already exists in {owner.text}"
      [("propertyName", .string name), ("owner", .string owner.name)]
  | .repeatedLabel label count => .repeatedLabel label (.ofNat count) none
  | .repeatedPattern pattern count => .repeatedPattern pattern (.ofNat count) none
  | .danglingEnd pattern missing label => .danglingEnd pattern missing.name label
  | .missingKey label fault => .missingKey label fault.detail
  | .invalidRecord subject issues => .invalidRecord subject (issues.map Issue.toJson)
  | .document path fault => .structural path fault.detail
  | .unmapped propertyId owner => .unmapped propertyId owner.text
  | .unknownLabel label =>
    .plain .lookup s!"Node with label {label} not found in data model"
      [("label", .string label)]
  | .unknownPattern pattern =>
    ⟨.lookup, s!"Relationship {pattern} not found in data model", relationshipLookupCode,
      some (.object [("pattern", .string pattern)])⟩
  | .settings issues =>
    let texts := "; ".intercalate (issues.map Issue.text)
    .plain .configuration s!"Invalid conversion config: {texts}"
      [("issues", .array (issues.map Issue.toJson))]

def kind (error : ModelError) : ErrorKind := error.report.kind

end ModelError
end PropertyGraph

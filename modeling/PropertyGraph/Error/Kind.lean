/-! The kinds of errors and their codes. Every kind but the general one refines another,
so an error of a kind is also one of each kind it refines. -/
namespace PropertyGraph

inductive ErrorKind
  | general
  | validation
  | duplicateProperty
  | duplicateNode
  | duplicateRelationship
  | danglingEndpoint
  | missingKeyProperty
  | invalidRecord
  | structural
  | unmappedProperty
  | lookup
  | configuration
  deriving DecidableEq, Repr

namespace ErrorKind

/-- Every kind, a refined kind before the kinds that refine it. -/
def all : List ErrorKind :=
  [.general, .validation, .duplicateProperty, .duplicateNode, .duplicateRelationship,
    .danglingEndpoint, .missingKeyProperty, .invalidRecord, .structural, .unmappedProperty,
    .lookup, .configuration]

def name : ErrorKind → String
  | .general => "GraphModelError"
  | .validation => "ValidationError"
  | .duplicateProperty => "DuplicatePropertyError"
  | .duplicateNode => "DuplicateNodeError"
  | .duplicateRelationship => "DuplicateRelationshipError"
  | .danglingEndpoint => "DanglingEndpointError"
  | .missingKeyProperty => "MissingKeyPropertyError"
  | .invalidRecord => "SchemaValidationError"
  | .structural => "StructuralAccessError"
  | .unmappedProperty => "UnmappedPropertyError"
  | .lookup => "ModelLookupError"
  | .configuration => "ConfigurationError"

def ofName? (name : String) : Option ErrorKind := all.find? (·.name = name)

theorem ofName?_name (kind : ErrorKind) : ofName? kind.name = some kind := by
  cases kind <;> decide +kernel

/-- Whether errors of the kind report a fault of a model's entities. -/
def isValidation : ErrorKind → Bool
  | .validation | .duplicateProperty | .duplicateNode | .duplicateRelationship
  | .danglingEndpoint | .missingKeyProperty | .invalidRecord => true
  | _ => false

/-- Whether an error of the first kind is also one of the second. -/
def refines (kind other : ErrorKind) : Bool :=
  kind = other || other = .general || (other = .validation && kind.isValidation)

/-- The names of all kinds that the errors of a kind belong to. -/
def ancestry (kind : ErrorKind) : List String := (all.filter kind.refines).map name

/-- The names of the context members that an error of the kind shows as its own. -/
def ownFields : ErrorKind → List String
  | .duplicateProperty => ["propertyName", "owner"]
  | .duplicateNode => ["label", "count"]
  | .duplicateRelationship => ["pattern", "count"]
  | .danglingEndpoint => ["pattern", "missingEnd", "label"]
  | .missingKeyProperty => ["label"]
  | .invalidRecord => ["issues"]
  | .structural => ["path"]
  | .unmappedProperty => ["propertyId", "owner"]
  | _ => []

def code : ErrorKind → String
  | .general => "E9000"
  | .validation => "E1000"
  | .duplicateProperty => "E1001"
  | .duplicateNode => "E1002"
  | .duplicateRelationship => "E1003"
  | .danglingEndpoint => "E1004"
  | .missingKeyProperty => "E1005"
  | .invalidRecord => "E1006"
  | .structural => "E2000"
  | .unmappedProperty => "E2001"
  | .lookup => "E3000"
  | .configuration => "E9003"

end ErrorKind

/-- The code of a lookup that finds no relationship. -/
def relationshipLookupCode : String := "E3001"

end PropertyGraph

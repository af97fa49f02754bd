import PropertyGraph.Model.Checks
import PropertyGraph.Model.Metadata

/-! Relationships: a type, the labels at both ends, maybe a key, and other properties. -/
namespace PropertyGraph

/-- The text that identifies a relationship in a model. -/
def pattern (startLabel type endLabel : String) : String :=
  "(:" ++ startLabel ++ ")-[:" ++ type ++ "]->(:" ++ endLabel ++ ")"

structure Relationship where
  type : String
  startLabel : String
  endLabel : String
  key : Option Property
  properties : List Property
  metadata : RelationshipMetadata
  deriving DecidableEq, Repr

namespace Relationship

/-- The first of the three texts that is blank. -/
def blankText? (type startLabel endLabel : String) : Option RelationshipText :=
  if Text.isBlank type then some .type
  else if Text.isBlank startLabel then some .startLabel
  else if Text.isBlank endLabel then some .endLabel
  else none

/-- The relationship of these parts, if its texts are not blank and its properties are
distinct. -/
def build (type startLabel endLabel : String) (key : Option Property)
    (properties : List Property) (metadata : RelationshipMetadata) :
    Except ModelError Relationship :=
  match blankText? type startLabel endLabel with
  | some field => .error (.blankRelationship field)
  | none =>
    (checkProperties (.relationship (pattern startLabel type endLabel)) key properties).map
      fun others => ⟨type, startLabel, endLabel, key, others, metadata⟩

def construct (type startLabel endLabel : String) (key : Option Property)
    (properties : List Property) (metadata : RelationshipMetadata) :
    Except ModelError Relationship := do
  let parts ← build type startLabel endLabel key properties metadata
  build parts.type parts.startLabel parts.endLabel parts.key parts.properties parts.metadata

def pattern (relationship : Relationship) : String :=
  PropertyGraph.pattern relationship.startLabel relationship.type relationship.endLabel

def link (relationship : Relationship) : Link :=
  ⟨relationship.pattern, relationship.startLabel, relationship.endLabel⟩

def touches (relationship : Relationship) (label : String) : Bool :=
  relationship.startLabel = label || relationship.endLabel = label

def allProperties (relationship : Relationship) : List Property :=
  withKey relationship.key relationship.properties

def hasProperty (relationship : Relationship) (name : String) : Bool :=
  PropertyGraph.hasProperty relationship.key relationship.properties name

def checkNewProperty (relationship : Relationship) (property : Property) : Except ModelError Unit :=
  PropertyGraph.checkNewProperty (.relationship relationship.pattern) relationship.key
    relationship.properties property.name

def appendProperty (relationship : Relationship) (property : Property) : Relationship :=
  { relationship with properties := relationship.properties ++ [property] }

def addProperty (relationship : Relationship) (property : Property) :
    Except ModelError Relationship :=
  (relationship.checkNewProperty property).map fun _ => relationship.appendProperty property

/-- The relationship without the property of that name; the key stays. -/
def removeProperty (relationship : Relationship) (name : String) : Relationship :=
  { relationship with properties := relationship.properties.eraseP (·.name = name) }

def typeTable (relationship : Relationship) : List (String × String) :=
  PropertyGraph.typeTable relationship.key relationship.properties

end Relationship
end PropertyGraph

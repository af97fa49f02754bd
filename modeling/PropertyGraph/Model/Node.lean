import PropertyGraph.Model.Checks
import PropertyGraph.Model.Metadata

/-! Nodes: a label, one key property and other properties. -/
namespace PropertyGraph

structure Node where
  label : String
  key : Property
  properties : List Property
  metadata : NodeMetadata
  deriving DecidableEq, Repr

namespace Node

/-- The node of these parts, if its label is not blank and its properties are distinct. -/
def build (label : String) (key : Property) (properties : List Property)
    (metadata : NodeMetadata) : Except ModelError Node :=
  if Text.isBlank label then .error .blankLabel
  else (checkProperties (.node label) (some key) properties).map fun others =>
    ⟨label, key, others, metadata⟩

/-- A node is made of the parts that have passed, and checks them once more. -/
def construct (label : String) (key : Property) (properties : List Property)
    (metadata : NodeMetadata) : Except ModelError Node := do
  let parts ← build label key properties metadata
  build parts.label parts.key parts.properties parts.metadata

def allProperties (node : Node) : List Property := withKey (some node.key) node.properties

def hasProperty (node : Node) (name : String) : Bool :=
  PropertyGraph.hasProperty (some node.key) node.properties name

def checkNewProperty (node : Node) (property : Property) : Except ModelError Unit :=
  PropertyGraph.checkNewProperty (.node node.label) (some node.key) node.properties property.name

def appendProperty (node : Node) (property : Property) : Node :=
  { node with properties := node.properties ++ [property] }

/-- The node with one more property, whose name must be new. -/
def addProperty (node : Node) (property : Property) : Except ModelError Node :=
  (node.checkNewProperty property).map fun _ => node.appendProperty property

/-- The node without the property of that name; the key stays. -/
def removeProperty (node : Node) (name : String) : Node :=
  { node with properties := node.properties.eraseP (·.name = name) }

def typeTable (node : Node) : List (String × String) :=
  PropertyGraph.typeTable (some node.key) node.properties

end Node
end PropertyGraph

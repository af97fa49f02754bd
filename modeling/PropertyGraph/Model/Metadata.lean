import PropertyGraph.Layout
import PropertyGraph.ReferenceGraph.Stored

/-! What the document formats leave on entities so that it can be written again. -/
namespace PropertyGraph

abbrev Style := List (String × Json)

/-- What a diagram says of a node besides its properties. -/
structure NodeDrawing where
  position : Option Position
  caption : Option String
  style : Option Style
  deriving DecidableEq, Repr

/-- What a diagram says of a relationship, or of itself, besides its content. -/
structure Drawing where
  style : Option Style
  deriving DecidableEq, Repr

/-- The drawing of a node in a diagram and its place in a reference graph. -/
structure NodeMetadata where
  diagram : Option NodeDrawing
  place : Option Position
  deriving DecidableEq, Repr

structure RelationshipMetadata where
  diagram : Option Drawing
  deriving DecidableEq, Repr

structure ModelMetadata where
  diagram : Option Drawing
  referenceGraph : Option ReferenceGraph.Stored
  deriving DecidableEq, Repr

namespace NodeMetadata

def empty : NodeMetadata := ⟨none, none⟩

def diagramPosition? (metadata : NodeMetadata) : Option Position :=
  metadata.diagram.bind NodeDrawing.position

end NodeMetadata

def RelationshipMetadata.empty : RelationshipMetadata := ⟨none⟩

def ModelMetadata.empty : ModelMetadata := ⟨none, none⟩

end PropertyGraph

import PropertyGraph.Error.Cause
import PropertyGraph.Model.Source
import PropertyGraph.Text.Basic
import PropertyGraph.Text.Case

/-! Properties of nodes and relationships, and the tags of their types. A tag is free text without
blanks around it, in upper case; reference graphs know four tags of their own, in lower case. A
property is never changed, only replaced. -/
namespace PropertyGraph

namespace TypeTag

def standard : String := "STRING"

/-- The tag that a text stands for; a blank one stands for the standard tag. -/
def normalize (text : String) : String :=
  let trimmed := Text.trim text
  if trimmed.isEmpty then standard else Text.upper trimmed

/-- The four tags of a reference graph, each behind the tag it stands for. -/
def exchange : List (String × String) :=
  [("STRING", "string"), ("INTEGER", "integer"), ("FLOAT", "float"), ("BOOLEAN", "boolean")]

/-- The tag of a reference graph; what it cannot express is text. -/
def toReferenceGraph (tag : String) : String := (exchange.lookup (Text.upper tag)).getD "string"

/-- The tag that a tag of a reference graph stands for. No document is expected to use what
every object has, such as `constructor` or `toString`, for a tag. -/
def fromReferenceGraph (tag : String) : String :=
  ((exchange.find? (·.2 = tag)).map Prod.fst).getD (normalize tag)

end TypeTag

/-- What is remembered of a property's definition in a reference graph. -/
structure Provenance where
  definitionId : Option String
  nullable : Option Bool
  deriving DecidableEq, Repr

structure Property where
  name : String
  type : String
  source : Option PropertySource
  description : Option String
  provenance : Option Provenance
  deriving DecidableEq, Repr

namespace Property

/-- What a property is made of; a type that is left out is the standard one. -/
structure Draft where
  name : String
  type : Option String
  source : Option PropertySource
  description : Option String
  provenance : Option Provenance
  deriving DecidableEq, Repr

/-- The property of a draft, its type tag in normal form; a blank name is refused. -/
def build (draft : Draft) : Except ModelError Property :=
  if Text.isBlank draft.name then .error .blankPropertyName
  else .ok ⟨draft.name, TypeTag.normalize (draft.type.getD ""), draft.source,
    draft.description, draft.provenance⟩

/-- The parts of a property to replace, each left alone when absent. -/
structure Changes where
  name : Option String
  type : Option String
  source : Option PropertySource
  description : Option String
  provenance : Option (Option Provenance)
  deriving DecidableEq, Repr

def revise (property : Property) (changes : Changes) : Except ModelError Property :=
  build ⟨changes.name.getD property.name, some (changes.type.getD property.type),
    changes.source <|> property.source, changes.description <|> property.description,
    changes.provenance.getD property.provenance⟩

/-- The id that the property had in a reference graph; an empty one does not count. -/
def storedId? (property : Property) : Option String :=
  (property.provenance.bind Provenance.definitionId).filter (!·.isEmpty)

/-- The column the property is mapped to; an empty one does not count. -/
def column? (property : Property) : Option String :=
  (property.source.bind PropertySource.columnName).filter (!·.isEmpty)

def table? (property : Property) : Option String :=
  (property.source.bind PropertySource.tableName).filter (!·.isEmpty)

end Property

/-- The key before the other properties, if there is a key. -/
def withKey (key : Option Property) (properties : List Property) : List Property :=
  key.toList ++ properties

def typeTable (key : Option Property) (properties : List Property) : List (String × String) :=
  Members.ofAssignments
    (properties.map (fun p => (p.name, p.type)) ++
      key.toList.map fun k => (k.name, k.type ++ " | KEY"))

end PropertyGraph

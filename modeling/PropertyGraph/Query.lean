import PropertyGraph.Model.Basic
import PropertyGraph.Text.Basic

/-! Query statements for the entities of a model: statements that take in a list of
records, and constraints on keys. -/
namespace PropertyGraph.Query

def header : String := "UNWIND $records as record"

def assignment (name : String) : String := name ++ ": record." ++ name

/-- The map of these properties to the record's members of their names. -/
def recordMap (properties : List Property) : String :=
  "\x7b" ++ Text.join ", " (properties.map fun p => assignment p.name) ++ "\x7d"

def setLines (name : String) (properties : List Property) : List String :=
  if properties.isEmpty then [] else ["SET " ++ name ++ " += " ++ recordMap properties]

/-- One node a record, found by its key. -/
def nodeIngest (node : Node) : String :=
  Text.join "\n"
    ([header, "MERGE (n: " ++ node.label ++ " " ++ recordMap [node.key] ++ ")"] ++
      setLines "n" node.properties)

/-- The line that finds the node at one end by its key. -/
def matchLine (name label key member : String) : String :=
  "MATCH (" ++ name ++ ": " ++ label ++ " \x7b" ++ key ++ ": record." ++ member ++ "\x7d)"

/-- One relationship a record, between the nodes with the keys given. It is found by its own
key if it has one, and bound to a name if there are properties to set. -/
def relationshipIngest (relationship : Relationship) (startKey endKey : String) : String :=
  let name := if relationship.properties.isEmpty then "" else "r"
  let keyMap := match relationship.key with
    | some key => " " ++ recordMap [key]
    | none => ""
  Text.join "\n"
    ([header, matchLine "start" relationship.startLabel startKey "sourceId",
        matchLine "end" relationship.endLabel endKey "targetId",
        "MERGE (start)-[" ++ name ++ ":" ++ relationship.type ++ keyMap ++ "]->(end)"] ++
      setLines "r" relationship.properties)

def nodeIngestFor (model : Model) (label : String) : Except ModelError String := do
  return nodeIngest (← model.node label)

def relationshipIngestFor (model : Model) (type startLabel endLabel : String) :
    Except ModelError String := do
  let relationship ← model.relationship type startLabel endLabel
  let start ← model.node startLabel
  let finish ← model.node endLabel
  return relationshipIngest relationship start.key.name finish.key.name

def constraintName (entity : String) : String := entity ++ "_constraint"

def nodeConstraint (node : Node) : String :=
  "CREATE CONSTRAINT " ++ constraintName node.label ++ " IF NOT EXISTS FOR (n:" ++ node.label ++
    ") REQUIRE (n." ++ node.key.name ++ ") IS NODE KEY"

/-- A relationship without a key has no constraint. -/
def relationshipConstraint (relationship : Relationship) : Option String :=
  relationship.key.map fun key =>
    "CREATE CONSTRAINT " ++ constraintName relationship.type ++ " IF NOT EXISTS FOR ()-[r:" ++
      relationship.type ++ "]->() REQUIRE (r." ++ key.name ++ ") IS RELATIONSHIP KEY"

/-- Every constraint of a model, those of nodes first, each with its closing mark. -/
def constraints (model : Model) : List String :=
  (model.nodes.map nodeConstraint ++ model.relationships.filterMap relationshipConstraint).map
    (· ++ ";")

end PropertyGraph.Query

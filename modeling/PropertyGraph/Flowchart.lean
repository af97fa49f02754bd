import PropertyGraph.Model.Basic
import PropertyGraph.Text.Basic

/-! Flowcharts of models in Mermaid: a box for each node, a labelled arrow for each
relationship, and a colour class for each box. -/
namespace PropertyGraph.Flowchart

structure Colour where
  fill : String
  stroke : String
  deriving DecidableEq, Repr

/-- The colours of boxes in order, taken again from the first after the last. -/
def palette : Vector Colour 16 := #v[
  ⟨"#e3f2fd", "#1976d2"⟩, ⟨"#f3e5f5", "#7b1fa2"⟩, ⟨"#e8f5e8", "#388e3c"⟩, ⟨"#fff3e0", "#f57c00"⟩,
  ⟨"#fce4ec", "#c2185b"⟩, ⟨"#e0f2f1", "#00695c"⟩, ⟨"#f1f8e9", "#689f38"⟩, ⟨"#fff8e1", "#ffa000"⟩,
  ⟨"#e8eaf6", "#3f51b5"⟩, ⟨"#efebe9", "#5d4037"⟩, ⟨"#fafafa", "#424242"⟩, ⟨"#e1f5fe", "#0277bd"⟩,
  ⟨"#f9fbe7", "#827717"⟩, ⟨"#fff1f0", "#d32f2f"⟩, ⟨"#f4e6ff", "#6a1b9a"⟩, ⟨"#e6f7ff", "#1890ff"⟩]

def colour (index : Nat) : Colour := palette[index % 16]

/-- A line for each property, the key first and marked. -/
def propertyLines (key : Option Property) (properties : List Property) : List String :=
  (key.toList.map fun k => k.name ++ ": " ++ k.type ++ " | KEY") ++
    properties.map fun p => p.name ++ ": " ++ p.type

/-- Lines inside a box or on an arrow. -/
def body (title : String) (key : Option Property) (properties : List Property) : String :=
  Text.join "<br/>" (title :: propertyLines key properties)

def box (node : Node) : String :=
  node.label ++ "[\"" ++ body node.label (some node.key) node.properties ++ "\"]"

def arrow (relationship : Relationship) : String :=
  relationship.startLabel ++ " -->|" ++
    body relationship.type relationship.key relationship.properties ++ "| " ++
    relationship.endLabel

/-- The colour class of a box, and its use. -/
def styleLines (index : Nat) (node : Node) : List String :=
  let name := "node_" ++ toString index ++ "_color"
  ["classDef " ++ name ++ " fill:" ++ (colour index).fill ++ ",stroke:" ++
      (colour index).stroke ++ ",stroke-width:3px,color:#000,font-size:12px",
    "class " ++ node.label ++ " " ++ name]

def ofModel (model : Model) : String :=
  Text.join "\n"
    (["graph TD", "%% Nodes"] ++ model.nodes.map box ++
      ["", "%% Relationships"] ++ model.relationships.map arrow ++
      ["", "%% Styling"] ++ (model.nodes.mapIdx styleLines).flatten)

end PropertyGraph.Flowchart

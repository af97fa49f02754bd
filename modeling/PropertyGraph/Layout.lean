import PropertyGraph.Shape.Basic

/-! Places of nodes in the plane, and the grid for nodes that have none of their own. -/
namespace PropertyGraph

structure Position where
  x : Binary64
  y : Binary64
  deriving DecidableEq, Repr

namespace Position

def shape : Shape :=
  .closedObject [("x", .number .any), ("y", .number .any)]

def toJson (position : Position) : Json :=
  .object [("x", .number position.x), ("y", .number position.y)]

def ofJson (json : Json) : Position :=
  ⟨((json.get? "x").bind Json.number?).getD 0, ((json.get? "y").bind Json.number?).getD 0⟩

end Position

/-- How many cells a row of the grid has, and how far apart the cells are. -/
structure Grid where
  columns : Binary64
  spacing : Binary64
  deriving DecidableEq, Repr

namespace Grid

def standard : Grid := ⟨5, 200⟩

def shape : Shape :=
  .closedObject
    [("columns", .withDefault (.number .positiveInteger) (.number standard.columns)),
      ("spacing", .withDefault (.number .positive) (.number standard.spacing))]

def ofJson (json : Json) : Grid :=
  ⟨((json.get? "columns").bind Json.number?).getD standard.columns,
    ((json.get? "spacing").bind Json.number?).getD standard.spacing⟩

def toJson (grid : Grid) : Json :=
  .object [("columns", .number grid.columns), ("spacing", .number grid.spacing)]

/-- The place of a cell when rows are filled from left to right. -/
def cell (grid : Grid) (index : Binary64) : Position :=
  ⟨grid.spacing * (index % grid.columns), grid.spacing * (index / grid.columns).floor⟩

/-- The place of the node with this index, its column counted exactly. -/
def place (grid : Grid) (index : Nat) : Position :=
  ⟨grid.spacing * Binary64.remNat index grid.columns, (grid.cell (.ofNat index)).y⟩

end Grid
end PropertyGraph

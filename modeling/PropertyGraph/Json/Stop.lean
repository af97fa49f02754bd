import PropertyGraph.Text.Basic

/-! Where reading a text as JSON stops, and what is told of it. Places are counted in 16-bit
units, and the text around a place is shown as far as ten units to either side. -/
namespace PropertyGraph.Json

/-- Why reading stops, with the text that is left at that place. -/
inductive Stop
  /-- What comes next cannot stand there. -/
  | misplaced (rest : List Char)
  /-- A minus sign has no digit behind it. -/
  | bareMinus (rest : List Char)
  deriving DecidableEq, Repr

namespace Stop

def reach : Nat := 10

def lead (before : List Char) : String :=
  if Text.unitCount before < reach then "\"" ++ String.ofList before
  else "...\"" ++ String.ofList (Text.takeUnitsRight reach before)

def trail (rest : List Char) : String :=
  if Text.unitCount rest ≤ reach then String.ofList rest ++ "\""
  else String.ofList (Text.takeUnits reach rest) ++ "\"..."

/-- What is shown of a text around a place; a short text is shown whole. -/
def excerpt (before rest : List Char) : String :=
  if Text.unitCount (before ++ rest) ≤ 2 * reach then
    "\"" ++ String.ofList (before ++ rest) ++ "\""
  else lead before ++ trail rest

def placeAfter (before : List Char) : String :=
  let line := before.count '\n' + 1
  let column := Text.unitCount (before.reverse.takeWhile (· != '\n')) + 1
  s!"position {Text.unitCount before} (line {line} column {column})"

def rest : Stop → List Char
  | .misplaced rest => rest
  | .bareMinus rest => rest

/-- What is told of a text in which reading stops. -/
def message (text : String) (stop : Stop) : String :=
  let before := text.toList.take (text.toList.length - stop.rest.length)
  match stop with
  | .misplaced [] => "Unexpected end of JSON input"
  | .misplaced (c :: rest) =>
    s!"Unexpected token '{c}', {excerpt before (c :: rest)} is not valid JSON"
  | .bareMinus _ => s!"No number after minus sign in JSON at {placeAfter before}"

end Stop
end PropertyGraph.Json

import PropertyGraph.Error.Cause
import PropertyGraph.Text.Case

/-! What conversions tell of their progress, and which of it a log shows. -/
namespace PropertyGraph

inductive LogLevel
  | trace
  | debug
  | info
  | warn
  | error
  | fatal
  | silent
  deriving DecidableEq, Repr

namespace LogLevel

def name : LogLevel → String
  | .trace => "trace"
  | .debug => "debug"
  | .info => "info"
  | .warn => "warn"
  | .error => "error"
  | .fatal => "fatal"
  | .silent => "silent"

def all : List LogLevel := [.trace, .debug, .info, .warn, .error, .fatal, .silent]

def ofName? (name : String) : Option LogLevel := all.find? (·.name = name)

theorem ofName?_name (level : LogLevel) : ofName? level.name = some level := by
  cases level <;> decide +kernel

end LogLevel

/-- The settings of the surroundings that a log looks at. -/
structure Surroundings where
  mode : Option String
  logLevel : Option String
  testRunner : Option String
  deriving DecidableEq, Repr

namespace Surroundings

/-- Whether the program is under test; a test runner counts whatever its text. -/
def isTest (around : Surroundings) : Bool :=
  around.mode = some "test" || around.testRunner.isSome

/-- The level asked for in any case of letters; else tests are silent, production tells
what is of interest, and all others everything but traces. -/
def level (around : Surroundings) : LogLevel :=
  match around.logLevel.bind fun name => LogLevel.ofName? (Text.lower name) with
  | some level => level
  | none =>
    if around.isTest then .silent
    else if around.mode = some "production" then .info
    else .debug

end Surroundings

/-- What a conversion tells. -/
inductive Event
  | diagramRead (nodes relationships : Nat)
  | diagramWritten (nodes relationships : Nat)
  | referenceGraphRead (nodes relationships : Nat)
  | referenceGraphWritten (nodes relationships constraints : Nat)
  | keyReplaced (label : String) (declared : Option String) (fallback : String)
  | rulesReplaced (stored generated : Nat)
  deriving DecidableEq, Repr

namespace Event

def component : Event → String
  | .diagramRead .. | .diagramWritten .. => "diagram"
  | _ => "reference-graph"

/-- A replaced key is a warning. -/
def level : Event → LogLevel
  | .keyReplaced .. => .warn
  | _ => .debug

def message : Event → String
  | .diagramRead .. => "Imported diagram document"
  | .diagramWritten .. => "Exported diagram document"
  | .referenceGraphRead .. => "Imported reference-graph document"
  | .referenceGraphWritten .. => "Exported reference-graph document"
  | .keyReplaced .. => "Key property not found; using first declared property"
  | .rulesReplaced .. => "Stored entries no longer resolve, regenerating"

def fields : Event → List (String × Json)
  | .diagramRead nodes relationships
  | .diagramWritten nodes relationships
  | .referenceGraphRead nodes relationships =>
    [("nodes", .nat nodes), ("relationships", .nat relationships)]
  | .referenceGraphWritten nodes relationships constraints =>
    [("nodes", .nat nodes), ("relationships", .nat relationships),
      ("constraints", .nat constraints)]
  | .keyReplaced label declared fallback =>
    [("label", .string label), ("declaredKey", (declared.map .string).getD .null),
      ("fallback", .string fallback)]
  | .rulesReplaced stored generated =>
    [("stored", .nat stored), ("generated", .nat generated)]

end Event

/-- A conversion: it may fail, and what it told until then stays. -/
abbrev Conversion := ExceptT ModelError (StateM (List Event))

namespace Conversion

def tell (event : Event) : Conversion Unit := modify (· ++ [event])

def outcome {α : Type} (conversion : Conversion α) : Except ModelError α × List Event :=
  StateT.run conversion.run []

end Conversion
end PropertyGraph

import PropertyGraph.Model.Property

/-! The rules that entities and models obey, each as a check that names the first fault. -/
namespace PropertyGraph

/-- How often each value occurs, in order of first occurrence. -/
def occurrences (values : List String) : List (String × Nat) :=
  values.foldl (fun counts value =>
    Members.put value ((Members.get? value counts).getD 0 + 1) counts) []

/-- The first value that occurs again, with how often it occurs. -/
def firstRepeated? (values : List String) : Option (String × Nat) :=
  (occurrences values).find? fun entry => 1 < entry.2

/-- The properties other than the key, which must have distinct names. A property with the
key's name is taken for a repetition of the key and left out. -/
def checkProperties (owner : Owner) (key : Option Property) (properties : List Property) :
    Except ModelError (List Property) :=
  let others := match key with
    | some k => properties.filter (·.name ≠ k.name)
    | none => properties
  match firstRepeated? (others.map Property.name) with
  | some (name, count) => .error (.repeatedProperty owner name count)
  | none => .ok others

/-- Whether the key or one of the other properties has the name. -/
def hasProperty (key : Option Property) (properties : List Property) (name : String) : Bool :=
  (withKey key properties).any (·.name = name)

/-- A property that comes to an entity must have a new name. -/
def checkNewProperty (owner : Owner) (key : Option Property) (properties : List Property)
    (name : String) : Except ModelError Unit :=
  if hasProperty key properties name then .error (.propertyExists owner name) else .ok ()

/-- A relationship as far as a model's rules look at it. -/
structure Link where
  pattern : String
  startLabel : String
  endLabel : String
  deriving DecidableEq, Repr

def checkLabels (labels : List String) : Except ModelError Unit :=
  match firstRepeated? labels with
  | some (label, count) => .error (.repeatedLabel label count)
  | none => .ok ()

def checkPatterns (patterns : List String) : Except ModelError Unit :=
  match firstRepeated? patterns with
  | some (pattern, count) => .error (.repeatedPattern pattern count)
  | none => .ok ()

/-- Both ends of every link must be at one of the labels. -/
def checkEnds (labels : List String) : List Link → Except ModelError Unit
  | [] => .ok ()
  | link :: links =>
    if link.startLabel ∉ labels then
      .error (.danglingEnd link.pattern .start link.startLabel)
    else if link.endLabel ∉ labels then
      .error (.danglingEnd link.pattern .finish link.endLabel)
    else checkEnds labels links

/-- Labels, then patterns, then ends. -/
def checkModel (labels : List String) (links : List Link) : Except ModelError Unit := do
  checkLabels labels
  checkPatterns (links.map Link.pattern)
  checkEnds labels links

end PropertyGraph

import PropertyGraph.Text.CaseData

/-! Full upper-casing and lower-casing of text, independent of language. Some letters
change into several, and a capital sigma at the end of a word has a lower-case form of its
own. -/
namespace PropertyGraph.Text

/-- The shift of the run that holds the code point. -/
def shiftIn? (code : Nat) : List CaseRun → Option Int
  | [] => none
  | run :: runs =>
    if code < run.first then none
    else if code ≤ run.last ∧ (code - run.first) % run.step = 0 then some run.shift
    else shiftIn? code runs

/-- The forms given for the code point in a table of expansions and runs; a character in
neither is its own form. -/
def caseForm (expansions : List (Nat × List Nat)) (runs : List CaseRun) (c : Char) : List Char :=
  match expansions.lookup c.toNat with
  | some codes => codes.map Char.ofNat
  | none =>
    match shiftIn? c.toNat runs with
    | some shift => [Char.ofNat (c.toNat + shift).toNat]
    | none => [c]

def upperForm (c : Char) : List Char := caseForm upperExpansions upperRuns c

def lowerForm (c : Char) : List Char := caseForm lowerExpansions lowerRuns c

def inRanges (ranges : List (Nat × Nat)) (c : Char) : Bool :=
  ranges.any fun (first, last) => first ≤ c.toNat && c.toNat ≤ last

/-- Whether a cased character comes first once ignorable ones are skipped. -/
def casedFirst (cs : List Char) : Bool :=
  match cs.dropWhile (inRanges caseIgnorableRanges) with
  | c :: _ => inRanges casedRanges c
  | [] => false

/-- Lower-casing with the characters already passed, nearest first. A sigma with a cased
character before it and none after it ends a word. -/
def lowerAfter (passed : List Char) : List Char → List Char
  | [] => []
  | c :: rest =>
    (if c = 'Σ' && casedFirst passed && !casedFirst rest then ['ς'] else lowerForm c) ++
      lowerAfter (c :: passed) rest

def upper (s : String) : String := String.ofList (s.toList.flatMap upperForm)

def lower (s : String) : String := String.ofList (lowerAfter [] s.toList)

end PropertyGraph.Text

import PropertyGraph.Binary64.Decimal
import PropertyGraph.Json.Stop
import PropertyGraph.Json.Value

/-! Strict reading of JSON text. A reader takes a text from its front and answers what it
read with the text that is left, or the place where it stops. Every value takes a character
at least, so a text nests no deeper than it is long, and that bounds the recursion. -/
namespace PropertyGraph.Json.Reader

/-- The text without the blanks, line ends and tabs in front. -/
def skipBlanks (cs : List Char) : List Char :=
  cs.dropWhile fun c => c = ' ' || c = '\n' || c = '\r' || c = '\t'

def skip? : List Char → List Char → Option (List Char)
  | [], cs => some cs
  | w :: ws, c :: cs => if w = c then skip? ws cs else none
  | _ :: _, [] => none

def hexValue? (c : Char) : Option Nat :=
  if '0' ≤ c ∧ c ≤ '9' then some (c.toNat - '0'.toNat)
  else if 'a' ≤ c ∧ c ≤ 'f' then some (c.toNat - 'a'.toNat + 10)
  else if 'A' ≤ c ∧ c ≤ 'F' then some (c.toNat - 'A'.toNat + 10)
  else none

def hexUnit? : List Char → Option (Nat × List Char)
  | a :: b :: c :: d :: rest => do
    let a ← hexValue? a
    let b ← hexValue? b
    let c ← hexValue? c
    let d ← hexValue? d
    some (((a * 16 + b) * 16 + c) * 16 + d, rest)
  | _ => none

/-- The character of a `\u` escape. A high surrogate needs a low one behind it, for a
text holds whole characters only. -/
def unicodeEscape? (cs : List Char) : Option (Char × List Char) := do
  let (high, rest) ← hexUnit? cs
  if 0xD800 ≤ high ∧ high < 0xDC00 then
    let (low, rest) ← hexUnit? (← skip? ['\\', 'u'] rest)
    if 0xDC00 ≤ low ∧ low < 0xE000 then
      some (Char.ofNat (0x10000 + (high - 0xD800) * 0x400 + (low - 0xDC00)), rest)
    else none
  else if 0xDC00 ≤ high ∧ high < 0xE000 then none
  else some (Char.ofNat high, rest)

def escape? : List Char → Option (Char × List Char)
  | '"' :: cs => some ('"', cs)
  | '\\' :: cs => some ('\\', cs)
  | '/' :: cs => some ('/', cs)
  | 'b' :: cs => some ('\x08', cs)
  | 'f' :: cs => some ('\x0c', cs)
  | 'n' :: cs => some ('\n', cs)
  | 'r' :: cs => some ('\r', cs)
  | 't' :: cs => some ('\t', cs)
  | 'u' :: cs => unicodeEscape? cs
  | _ => none

/-- The characters of a string up to its closing quote. -/
def stringBody? : Nat → List Char → Option (List Char × List Char)
  | 0, _ => none
  | _ + 1, [] => none
  | fuel + 1, c :: cs =>
    if c = '"' then some ([], cs)
    else if c.toNat < 32 then none
    else do
      let (d, rest) ← if c = '\\' then escape? cs else some (c, cs)
      let (body, rest) ← stringBody? fuel rest
      some (d :: body, rest)

def string? (cs : List Char) : Option (String × List Char) := do
  let (body, rest) ← stringBody? (cs.length + 1) cs
  some (String.ofList body, rest)

def digits (cs : List Char) : List Char × List Char :=
  (cs.takeWhile Char.isDigit, cs.dropWhile Char.isDigit)

def digitsValue (ds : List Char) : Nat :=
  ds.foldl (fun n d => 10 * n + (d.toNat - '0'.toNat)) 0

/-- The whole part of a number, in which only zero begins with a zero. -/
def wholePart? (cs : List Char) : Option (List Char × List Char) :=
  match digits cs with
  | ([], _) => none
  | ('0' :: _ :: _, _) => none
  | (ds, rest) => some (ds, rest)

/-- The digits behind a point, if there is a point. -/
def fraction? : List Char → Option (List Char × List Char)
  | '.' :: cs =>
    match digits cs with
    | ([], _) => none
    | (ds, rest) => some (ds, rest)
  | cs => some ([], cs)

def exponent? (cs : List Char) : Option (Int × List Char) :=
  match cs with
  | c :: rest =>
    if c = 'e' ∨ c = 'E' then
      let (negative, rest) :=
        match rest with
        | '-' :: rest => (true, rest)
        | '+' :: rest => (false, rest)
        | rest => (false, rest)
      match digits rest with
      | ([], _) => none
      | (ds, rest) =>
        some (if negative then -(digitsValue ds : Int) else digitsValue ds, rest)
    else some (0, cs)
  | [] => some (0, [])

/-- A number without its sign, as the decimal it denotes. -/
def decimal? (cs : List Char) : Option (Decimal × List Char) := do
  let (whole, rest) ← wholePart? cs
  let (fraction, rest) ← fraction? rest
  let (exponent, rest) ← exponent? rest
  some (⟨digitsValue (whole ++ fraction), exponent - fraction.length⟩, rest)

def number? (cs : List Char) : Option (Binary64 × List Char) :=
  match cs with
  | '-' :: rest => (decimal? rest).map fun (d, rest) => (d.round true, rest)
  | _ => (decimal? cs).map fun (d, rest) => (d.round false, rest)

def next? (cs : List Char) : Option (Char × List Char) :=
  match skipBlanks cs with
  | [] => none
  | c :: rest => some (c, rest)

/-- A value that is neither a list nor an object. -/
def scalar? : List Char → Option (Json × List Char)
  | '"' :: cs => (string? cs).map fun (s, rest) => (.string s, rest)
  | 'n' :: cs => (skip? ['u', 'l', 'l'] cs).map fun rest => (.null, rest)
  | 't' :: cs => (skip? ['r', 'u', 'e'] cs).map fun rest => (.bool true, rest)
  | 'f' :: cs => (skip? ['a', 'l', 's', 'e'] cs).map fun rest => (.bool false, rest)
  | cs => (number? cs).map fun (x, rest) => (.number x, rest)

/-- Why no value can be read here. -/
def obstacle (cs : List Char) : Stop :=
  match cs with
  | '-' :: rest => if (digits rest).1.isEmpty then .bareMinus rest else .misplaced cs
  | _ => .misplaced cs

/-- What was read here, or the reason why nothing was. -/
def orStop {α : Type} (stop : Stop) : Option α → Except Stop α
  | some a => .ok a
  | none => .error stop

mutual

def value : Nat → List Char → Except Stop (Json × List Char)
  | 0, cs => .error (.misplaced cs)
  | fuel + 1, cs =>
    match skipBlanks cs with
    | '[' :: rest =>
      match next? rest with
      | some (']', rest) => .ok (.array [], rest)
      | _ => (items fuel rest).map fun (vs, rest) => (.array vs, rest)
    | '{' :: rest =>
      match next? rest with
      | some ('}', rest) => .ok (.object [], rest)
      | _ => (members fuel rest).map fun (ms, rest) => (Json.ofEntries ms, rest)
    | rest => orStop (obstacle rest) (scalar? rest)

def items : Nat → List Char → Except Stop (List Json × List Char)
  | 0, cs => .error (.misplaced cs)
  | fuel + 1, cs => do
    let (v, rest) ← value fuel cs
    match next? rest with
    | some (',', rest) =>
      let (vs, rest) ← items fuel rest
      return (v :: vs, rest)
    | some (']', rest) => return ([v], rest)
    | _ => .error (.misplaced (skipBlanks rest))

def members : Nat → List Char → Except Stop (List (String × Json) × List Char)
  | 0, cs => .error (.misplaced cs)
  | fuel + 1, cs =>
    match next? cs with
    | some ('"', rest) => do
      let (n, rest) ← orStop (.misplaced (skipBlanks cs)) (string? rest)
      match next? rest with
      | some (':', rest) =>
        let (v, rest) ← value fuel rest
        match next? rest with
        | some (',', rest) =>
          let (ms, rest) ← members fuel rest
          return ((n, v) :: ms, rest)
        | some ('}', rest) => return ([(n, v)], rest)
        | _ => .error (.misplaced (skipBlanks rest))
      | _ => .error (.misplaced (skipBlanks rest))
    | _ => .error (.misplaced (skipBlanks cs))

end

def document (cs : List Char) : Except Stop Json := do
  let (v, rest) ← value (2 * cs.length + 1) cs
  if (skipBlanks rest).isEmpty then return v
  else .error (.misplaced (skipBlanks rest))

end PropertyGraph.Json.Reader

namespace PropertyGraph.Json

/-- The value that a text denotes, or the place where it stops being JSON. -/
def parse (text : String) : Except Stop Json := Reader.document text.toList

end PropertyGraph.Json

import PropertyGraph.Sorting

/-! Texts as characters. Blanks are cut from the ends of a text, a text is cut at a separator or put
together with one, and texts are ordered by their 16-bit units: a character past the first 65536 is
written with two units, every other one with one. That order differs from the order by code point,
for the two units of a character past the first 65536 come before U+E000. -/
namespace PropertyGraph.Text

section Blanks

/-- White space, line ends and the byte-order mark. -/
def isBlankChar (c : Char) : Bool :=
  let code := c.toNat
  (9 ≤ code && code ≤ 13) || code = 0x20 || code = 0xA0 || code = 0x1680 ||
    (0x2000 ≤ code && code ≤ 0x200A) || code = 0x2028 || code = 0x2029 || code = 0x202F ||
    code = 0x205F || code = 0x3000 || code = 0xFEFF

def trimChars (cs : List Char) : List Char :=
  ((cs.dropWhile isBlankChar).reverse.dropWhile isBlankChar).reverse

def trim (s : String) : String := String.ofList (trimChars s.toList)

def isBlank (s : String) : Bool := s.toList.all isBlankChar

end Blanks

section Segments

/-- The pieces between the separators; there is always at least one. -/
def segments (separator : Char) : List Char → List (List Char)
  | [] => [[]]
  | c :: cs =>
    if c = separator then [] :: segments separator cs
    else
      match segments separator cs with
      | [] => [[c]]
      | s :: ss => (c :: s) :: ss

def join (separator : String) (texts : List String) : String := separator.intercalate texts

end Segments

section Units

def charUnits (c : Char) : List Nat :=
  if c.toNat < 0x10000 then [c.toNat]
  else [0xD800 + (c.toNat - 0x10000) / 0x400, 0xDC00 + (c.toNat - 0x10000) % 0x400]

def units (s : String) : List Nat := s.toList.flatMap charUnits

/-- How many units the characters take. -/
def unitCount (cs : List Char) : Nat := (cs.flatMap charUnits).length

def takeUnits : Nat → List Char → List Char
  | _, [] => []
  | room, c :: cs =>
    if unitCount [c] ≤ room then c :: takeUnits (room - unitCount [c]) cs else []

/-- The last characters, as many as so many units hold. -/
def takeUnitsRight (room : Nat) (cs : List Char) : List Char :=
  (takeUnits room cs.reverse).reverse

/-- Whether the units of one text are not after those of the other. -/
def unitsLe (s t : String) : Bool := !(units t).lex (units s) fun a b => decide (a < b)

def sortByUnits (texts : List String) : List String := sortBy unitsLe texts

end Units

end PropertyGraph.Text

import PropertyGraph.Binary64.Decimal
import PropertyGraph.Json.Value

/-! Text of JSON values. Only quotes, backslashes and controls are escaped; a number that
is not finite is written `null`. -/
namespace PropertyGraph.Json

/-- What stands between the parts of a value: the line break and indentation at a depth,
and the text after a member's name. -/
structure Style where
  gap : Nat → List Char
  colon : List Char

def Style.compact : Style := ⟨fun _ => [], [':']⟩

/-- One item a line, indented by two blanks a level. -/
def Style.indented : Style := ⟨fun depth => '\n' :: List.replicate (2 * depth) ' ', [':', ' ']⟩

def hexDigit (n : Nat) : Char := Char.ofNat (if n < 10 then 48 + n else 87 + n)

/-- Controls have a short escape or four hexadecimal digits. -/
def escapeChar (c : Char) : List Char :=
  if c = '"' then ['\\', '"']
  else if c = '\\' then ['\\', '\\']
  else if c = '\n' then ['\\', 'n']
  else if c = '\r' then ['\\', 'r']
  else if c = '\t' then ['\\', 't']
  else if c = '\x08' then ['\\', 'b']
  else if c = '\x0c' then ['\\', 'f']
  else if c.toNat < 32 then
    ['\\', 'u', '0', '0', hexDigit (c.toNat / 16), hexDigit (c.toNat % 16)]
  else [c]

def stringChars (s : String) : List Char := '"' :: s.toList.flatMap escapeChar ++ ['"']

def numberChars (x : Binary64) : List Char :=
  if x.isFinite then x.toChars else ['n', 'u', 'l', 'l']

mutual

/-- The text of a value that stands at a depth. -/
def chars (style : Style) (depth : Nat) : Json → List Char
  | .null => ['n', 'u', 'l', 'l']
  | .bool true => ['t', 'r', 'u', 'e']
  | .bool false => ['f', 'a', 'l', 's', 'e']
  | .number x => numberChars x
  | .string s => stringChars s
  | .array [] => ['[', ']']
  | .array (v :: vs) =>
    '[' :: style.gap (depth + 1) ++ chars style (depth + 1) v ++
      itemChars style (depth + 1) vs ++ style.gap depth ++ [']']
  | .object [] => ['{', '}']
  | .object ((n, v) :: ms) =>
    '{' :: style.gap (depth + 1) ++ stringChars n ++ style.colon ++ chars style (depth + 1) v ++
      memberChars style (depth + 1) ms ++ style.gap depth ++ ['}']

def itemChars (style : Style) (depth : Nat) : List Json → List Char
  | [] => []
  | v :: vs => ',' :: style.gap depth ++ chars style depth v ++ itemChars style depth vs

def memberChars (style : Style) (depth : Nat) : List (String × Json) → List Char
  | [] => []
  | (n, v) :: ms =>
    ',' :: style.gap depth ++ stringChars n ++ style.colon ++ chars style depth v ++
      memberChars style depth ms

end

def compactText (json : Json) : String := String.ofList (json.chars .compact 0)

def indentedText (json : Json) : String := String.ofList (json.chars .indented 0)

end PropertyGraph.Json

import PropertyGraph.Binary64.Basic
import PropertyGraph.Json.Members

/-! JSON values. Numbers are 64-bit binary, and an object is the list of its members in
order. -/
namespace PropertyGraph

inductive Json
  | null
  | bool (value : Bool)
  | number (value : Binary64)
  | string (value : String)
  | array (items : List Json)
  | object (members : List (String × Json))
  deriving Repr

namespace Json

mutual

def decEq : (a b : Json) → Decidable (a = b)
  | .null, .null => isTrue rfl
  | .bool a, .bool b => decidable_of_iff (a = b) (by simp)
  | .number a, .number b => decidable_of_iff (a = b) (by simp)
  | .string a, .string b => decidable_of_iff (a = b) (by simp)
  | .array as, .array bs =>
    match decEqItems as bs with
    | isTrue h => isTrue (by rw [h])
    | isFalse h => isFalse (by simpa using h)
  | .object as, .object bs =>
    match decEqMembers as bs with
    | isTrue h => isTrue (by rw [h])
    | isFalse h => isFalse (by simpa using h)
  | .null, .bool _ | .null, .number _ | .null, .string _ | .null, .array _ | .null, .object _
  | .bool _, .null | .bool _, .number _ | .bool _, .string _ | .bool _, .array _
  | .bool _, .object _
  | .number _, .null | .number _, .bool _ | .number _, .string _ | .number _, .array _
  | .number _, .object _
  | .string _, .null | .string _, .bool _ | .string _, .number _ | .string _, .array _
  | .string _, .object _
  | .array _, .null | .array _, .bool _ | .array _, .number _ | .array _, .string _
  | .array _, .object _
  | .object _, .null | .object _, .bool _ | .object _, .number _ | .object _, .string _
  | .object _, .array _ => isFalse nofun

def decEqItems : (as bs : List Json) → Decidable (as = bs)
  | [], [] => isTrue rfl
  | [], _ :: _ | _ :: _, [] => isFalse nofun
  | a :: as, b :: bs =>
    match decEq a b, decEqItems as bs with
    | isTrue h, isTrue hs => isTrue (by rw [h, hs])
    | isFalse h, _ => isFalse (by simp [h])
    | _, isFalse hs => isFalse (by simp [hs])

def decEqMembers : (as bs : List (String × Json)) → Decidable (as = bs)
  | [], [] => isTrue rfl
  | [], _ :: _ | _ :: _, [] => isFalse nofun
  | (m, a) :: as, (n, b) :: bs =>
    match decEq a b, decEqMembers as bs with
    | isTrue h, isTrue hs =>
      decidable_of_iff (m = n) (by simp [h, hs])
    | isFalse h, _ => isFalse (by simp [h])
    | _, isFalse hs => isFalse (by simp [hs])

end

instance : DecidableEq Json := decEq

/-- The object that is given these members one after the other. -/
def ofEntries (entries : List (String × Json)) : Json := .object (Members.ofEntries entries)

/-- A member of an object; a value of another kind has none. -/
def get? (name : String) : Json → Option Json
  | .object members => Members.get? name members
  | _ => none

def bool? : Json → Option Bool
  | .bool b => some b
  | _ => none

def number? : Json → Option Binary64
  | .number x => some x
  | _ => none

def string? : Json → Option String
  | .string s => some s
  | _ => none

def array? : Json → Option (List Json)
  | .array items => some items
  | _ => none

def object? : Json → Option (List (String × Json))
  | .object members => some members
  | _ => none

def nat (n : Nat) : Json := .number (Binary64.ofNat n)

/-- A member that is left out when there is no value for it. -/
def optional (name : String) (value : Option Json) : List (String × Json) :=
  (value.map fun v => (name, v)).toList

/-- The text member of that name, if there is one. -/
def text? (name : String) (json : Json) : Option String := (json.get? name).bind string?

def text (name : String) (json : Json) : String := (json.text? name).getD ""

def list? (name : String) (json : Json) : Option (List Json) := (json.get? name).bind array?

def list (name : String) (json : Json) : List Json := (json.list? name).getD []

def members? (name : String) (json : Json) : Option (List (String × Json)) :=
  (json.get? name).bind object?

section Lookups

variable {name other : String} {a : Option Json} {members rest : List (String × Json)}

@[simp] theorem get?_optional_append :
    Members.get? name (optional other a ++ members) =
      if name = other then a.or (Members.get? name members) else Members.get? name members := by
  cases a <;> simp [optional]

@[simp] theorem get?_optional :
    Members.get? name (optional other a) = if name = other then a else none := by
  cases a <;> simp [optional]

@[simp] theorem get?_object : (object members).get? name = Members.get? name members := rfl

@[simp] theorem text?_object :
    (object members).text? name = (Members.get? name members).bind string? := rfl

@[simp] theorem text_object :
    (object members).text name = ((Members.get? name members).bind string?).getD "" := rfl

@[simp] theorem list?_object :
    (object members).list? name = (Members.get? name members).bind array? := rfl

@[simp] theorem list_object :
    (object members).list name = ((Members.get? name members).bind array?).getD [] := rfl

@[simp] theorem members?_object :
    (object members).members? name = (Members.get? name members).bind object? := rfl

@[simp] theorem string?_string (s : String) : (string s).string? = some s := rfl

@[simp] theorem bool?_bool (b : Bool) : (bool b).bool? = some b := rfl

@[simp] theorem number?_number (x : Binary64) : (number x).number? = some x := rfl

@[simp] theorem array?_array (items : List Json) : (array items).array? = some items := rfl

@[simp] theorem object?_object : (object members).object? = some members := rfl

@[simp] theorem bind_string? (a : Option String) : (a.map string).bind string? = a := by
  cases a <;> rfl

@[simp] theorem bind_bool? (a : Option Bool) : (a.map bool).bind bool? = a := by
  cases a <;> rfl

@[simp] theorem bind_object? (a : Option (List (String × Json))) :
    (a.map object).bind object? = a := by
  cases a <;> rfl

end Lookups
end Json
end PropertyGraph

import PropertyGraph.Sorting

/-! The member order of objects. Members named by an array index come first, in ascending
order of the index; the others keep the order in which their names first appear. A name
that is given again keeps its place and takes the new value. -/
namespace PropertyGraph.Members

variable {α : Type}

/-- The number a name stands for when it is an array index: plain decimal digits without
a leading zero, up to `2 ^ 32 - 2`. -/
def arrayIndex? (name : String) : Option Nat :=
  match name.toList with
  | [] => none
  | c :: cs =>
    if (c :: cs).all Char.isDigit && (c != '0' || cs.isEmpty) then
      let n := (c :: cs).foldl (fun n d => 10 * n + (d.toNat - '0'.toNat)) 0
      if n ≤ 4294967294 then some n else none
    else none

def isIndex (name : String) : Bool := (arrayIndex? name).isSome

/-- Give a name a value: in its place if it is there, else at the end. -/
def put (name : String) (value : α) : List (String × α) → List (String × α)
  | [] => [(name, value)]
  | (n, v) :: rest => if n = name then (n, value) :: rest else (n, v) :: put name value rest

theorem lookup_cons_ne {name other : String} (value : α) (members : List (String × α))
    (different : other ≠ name) :
    List.lookup other ((name, value) :: members) = members.lookup other := by
  rw [List.lookup_cons, beq_false_of_ne different]

theorem lookup_map {β : Type} (f : β → String) (g : β → α) (xs : List β) (name : String) :
    (xs.map fun x => (f x, g x)).lookup name = (xs.find? (f · = name)).map g := by
  induction xs with
  | nil => rfl
  | cons x xs ih =>
    by_cases same : f x = name
    · simp [← same]
    · rw [List.map_cons, lookup_cons_ne _ _ (Ne.symm same), ih]
      simp [same]

theorem lookup_put (name other : String) (value : α) (members : List (String × α)) :
    (put name value members).lookup other =
      if other = name then some value else members.lookup other := by
  induction members with
  | nil =>
    split
    · rename_i same
      simp [put, same]
    · rename_i different
      rw [put, lookup_cons_ne _ _ different]
  | cons member rest ih =>
    obtain ⟨n, v⟩ := member
    rw [put]
    by_cases same : n = name
    · subst same
      rw [if_pos rfl]
      split
      · rename_i found
        simp [found]
      · rename_i different
        rw [lookup_cons_ne _ _ different, lookup_cons_ne _ _ different]
    · rw [if_neg same]
      by_cases found : other = n
      · subst found
        simp [same]
      · rw [lookup_cons_ne _ _ found, lookup_cons_ne _ _ found, ih]

/-- The last value of every name, names in order of first appearance. -/
def merge (entries : List (String × α)) : List (String × α) :=
  entries.foldl (fun members e => put e.1 e.2 members) []

/-- Index names before all others, in ascending order. -/
def arrange (members : List (String × α)) : List (String × α) :=
  sortBy (fun a b => (arrayIndex? a.1).getD 0 ≤ (arrayIndex? b.1).getD 0)
      (members.filter (isIndex ·.1)) ++
    members.filter (!isIndex ·.1)

/-- The members of the object that is given these entries one after the other. -/
def ofEntries (entries : List (String × α)) : List (String × α) := arrange (merge entries)

/-- The name behind which an object has its prototype. A value that is assigned to it does not
become a member. -/
def prototype : String := "__proto__"

/-- The members of an object to which these are assigned, each name once. -/
def assign (members : List (String × α)) : List (String × α) :=
  arrange (members.filter (·.1 != prototype))

/-- The members of an object to which these entries are assigned one after the other. -/
def ofAssignments (entries : List (String × α)) : List (String × α) := assign (merge entries)

def get? (name : String) (members : List (String × α)) : Option α := members.lookup name

variable {name other : String} {value : α} {members : List (String × α)}

@[simp] theorem get?_nil : get? name ([] : List (String × α)) = none := rfl

@[simp] theorem get?_cons :
    get? name ((other, value) :: members) =
      if name = other then some value else get? name members := by
  by_cases h : name = other
  · subst h
    simp [get?]
  · rw [get?, lookup_cons_ne value members h, if_neg h]
    rfl

end PropertyGraph.Members

import PropertyGraph.Input
import PropertyGraph.Proofs.Shape

/-! Checking a value again. Whatever a check has rebuilt, with defaults put in and unknown
members left out, passes the same check. -/
namespace PropertyGraph

namespace Shape

mutual

/-- Whether every object of a shape is well named. -/
def isWellNamed : Shape → Bool
  | .anything | .text _ | .flag | .number _ | .choice _ => true
  | .list _ item => item.isWellNamed
  | .dictionary item => item.isWellNamed
  | .object members _ => decide (WellNamed members) && areWellNamed members
  | .optional shape => shape.isWellNamed
  | .nullable shape => shape.isWellNamed
  | .withDefault shape _ => shape.isWellNamed

def areWellNamed : List (String × Shape) → Bool
  | [] => true
  | (_, shape) :: shapes => shape.isWellNamed && areWellNamed shapes

end

/-- A value, or its absence, that a check has nothing to say against wherever it stands. -/
def Admits (shape : Shape) (value : Option Json) : Prop :=
  ∀ path, (check path value shape).issues = []

section Admitting

variable {shape item : Shape} {shapes : List (String × Shape)} {value : Option Json}
  {path : List String} {nonEmpty keepsUnknown : Bool}

lemma check_eq_under (path : List String) (value : Option Json) (shape : Shape) :
    check path value shape = (check [] value shape).under path := by
  simpa using check_under path [] value shape

lemma value_check (path : List String) (value : Option Json) (shape : Shape) :
    (check path value shape).value = (check [] value shape).value := by
  rw [check_eq_under path, Outcome.under_value]

lemma check_nullable (null : value ≠ some .null) :
    check path value (.nullable shape) = check path value shape := by
  simp only [check]

lemma issues_mismatch (path : List String) (expected : String) (value : Option Json) :
    (Outcome.mismatch path expected value).issues ≠ [] := by
  cases value <;> simp [Outcome.mismatch, Outcome.refuse]

lemma admits_of_issues (clean : (check path value shape).issues = []) : shape.Admits value := by
  intro other
  have first : (check [] value shape).issues = [] := by
    simpa [check_eq_under path value shape, Outcome.under] using clean
  rw [check_eq_under other, Outcome.under, first, List.map_nil]

lemma Yields.admits {v w : Json} (h : shape.Yields v w) : shape.Admits (some v) := fun path => by
  rw [h path]
  rfl

lemma Admits.yields {v : Json} (h : shape.Admits (some v)) : shape.Yields v (shape.rebuild v) :=
  yields_rebuild (h [])

lemma Admits.value_eq {v : Json} (h : shape.Admits (some v)) :
    (check [] (some v) shape).value = some (shape.rebuild v) := by
  rw [h.yields []]
  rfl

def isScalar : Shape → Bool
  | .text _ | .flag | .number _ | .choice _ => true
  | _ => false

lemma value_or_issues (scalar : shape.isScalar = true) (path : List String)
    (value : Option Json) :
    (check path value shape).value = value ∨ (check path value shape).issues ≠ [] := by
  cases shape with
  | text nonEmpty =>
    simp only [check]
    split
    · exact .inl rfl
    · exact .inr (issues_mismatch _ _ _)
  | flag =>
    simp only [check]
    split
    · exact .inl rfl
    · exact .inr (issues_mismatch _ _ _)
  | number rule =>
    simp only [check]
    split
    · split
      · exact .inr (issues_mismatch _ _ _)
      · exact .inl rfl
    · exact .inr (issues_mismatch _ _ _)
  | choice choices =>
    simp only [check]
    split
    · split
      · exact .inl rfl
      · exact .inr (by simp [Outcome.refuse])
    · exact .inr (issues_mismatch _ _ _)
  | _ => cases scalar

lemma Admits.value_of_scalar (h : shape.Admits value) (scalar : shape.isScalar = true) :
    (check [] value shape).value = value :=
  (value_or_issues scalar [] value).resolve_right (not_not_intro (h []))

lemma Admits.exists_items (h : (Shape.list nonEmpty item).Admits value) :
    ∃ items, value = some (.array items) := by
  have clean := h []
  simp only [check] at clean
  split at clean
  · exact ⟨_, rfl⟩
  · exact absurd clean (issues_mismatch _ _ _)

lemma Admits.exists_entries (h : (Shape.dictionary item).Admits value) :
    ∃ members, value = some (.object members) := by
  have clean := h []
  simp only [check] at clean
  split at clean
  · exact ⟨_, rfl⟩
  · exact absurd clean (issues_mismatch _ _ _)

lemma Admits.exists_members (h : (Shape.object shapes keepsUnknown).Admits value) :
    ∃ members, value = some (.object members) := by
  have clean := h []
  simp only [check] at clean
  split at clean
  · exact ⟨_, rfl⟩
  · exact absurd clean (issues_mismatch _ _ _)

lemma admits_optional_iff {v : Json} :
    (Shape.optional shape).Admits (some v) ↔ shape.Admits (some v) := by
  simp only [Admits, check]

lemma Admits.of_nullable (h : (Shape.nullable shape).Admits value) (other : value ≠ some .null) :
    shape.Admits value := fun path => by
  rw [← check_nullable other]
  exact h path

lemma admits_withDefault_iff {default : Json} :
    (Shape.withDefault shape default).Admits value ↔
      shape.Admits (some (value.getD default)) := by
  simp only [Admits, check]

lemma admits_list_iff {items : List Json} :
    (Shape.list nonEmpty item).Admits (some (.array items)) ↔
      ((nonEmpty && items.isEmpty) = false) ∧ ∀ v ∈ items, item.Admits (some v) := by
  constructor
  · intro h
    refine ⟨?_, fun v member => (item_yields (h []) v member).admits⟩
    have clean := h []
    simp only [check, gatherItems, List.append_eq_nil_iff] at clean
    by_contra faulty
    simp only [Bool.not_eq_false] at faulty
    simp [faulty] at clean
  · rintro ⟨filled, each⟩ path
    have items : (items.mapIdx fun i v => check (path ++ [toString i]) (some v) item).flatMap
        Outcome.issues = [] := by
      refine List.flatMap_eq_nil_iff.2 fun outcome listed => ?_
      obtain ⟨i, inside, rfl⟩ := List.mem_mapIdx.1 listed
      exact each _ (List.getElem_mem inside) _
    simp only [check, gatherItems, filled, items]
    rfl

lemma admits_object_iff {members : List (String × Json)} :
    (Shape.object shapes keepsUnknown).Admits (some (.object members)) ↔
      ∀ entry ∈ shapes, entry.2.Admits (Members.get? entry.1 members) := by
  constructor
  · intro h entry known
    exact admits_of_issues (member_issues_eq_nil (h []) known)
  · intro each path
    have clean : (checkMembers path members shapes).flatMap (·.2.issues) = [] := by
      induction shapes with
      | nil => rfl
      | cons entry rest ih =>
        have head := each entry List.mem_cons_self (path ++ [entry.1])
        have tail := ih fun other known => each other (List.mem_cons_of_mem _ known)
        simp only [checkMembers, List.flatMap_cons, head, tail, List.append_nil]
    simp only [check, gatherMembers, clean]

lemma admits_dictionary_iff {members : List (String × Json)} :
    (Shape.dictionary item).Admits (some (.object members)) ↔
      ∀ entry ∈ members, item.Admits (some entry.2) := by
  constructor
  · intro h entry member
    have clean := h []
    simp only [check, gatherMembers, List.flatMap_map, List.flatMap_eq_nil_iff] at clean
    exact admits_of_issues (clean entry member)
  · intro each path
    simp only [check, gatherMembers, List.flatMap_map, List.flatMap_eq_nil_iff]
    exact fun entry member => each entry member _

lemma Admits.rebuild_list {items : List Json}
    (h : (Shape.list nonEmpty item).Admits (some (.array items))) :
    (Shape.list nonEmpty item).rebuild (.array items) = .array (items.map item.rebuild) := by
  obtain ⟨_, same, made, -⟩ := list_rebuilt h.yields
  cases same
  exact made

lemma Admits.rebuild_dictionary {members : List (String × Json)}
    (h : (Shape.dictionary item).Admits (some (.object members))) :
    (Shape.dictionary item).rebuild (.object members) =
      .object (Members.assign (members.map fun entry => (entry.1, item.rebuild entry.2))) := by
  have each : ∀ entry ∈ members, item.Yields (id entry.2) (item.rebuild entry.2) :=
    fun entry member => (admits_dictionary_iff.1 h entry member).yields
  simpa using (yields_entries each).rebuild_eq

end Admitting

mutual

/-- What a check makes of a value that it admits is admitted again. -/
theorem admits_again : (shape : Shape) → shape.isWellNamed = true → ∀ {value : Option Json},
    shape.Admits value → shape.Admits (check [] value shape).value
  | .anything => fun _ _ _ path => by simp [check]
  | .text _ | .flag | .number _ | .choice _ => fun _ _ h => by rwa [h.value_of_scalar rfl]
  | .list nonEmpty item => fun named value h => by
    obtain ⟨items, rfl⟩ := h.exists_items
    obtain ⟨filled, each⟩ := admits_list_iff.1 h
    rw [h.value_eq, h.rebuild_list, admits_list_iff]
    refine ⟨by simpa using filled, fun w member => ?_⟩
    obtain ⟨v, inside, rfl⟩ := List.mem_map.1 member
    exact (each v inside).value_eq ▸ admits_again item named (each v inside)
  | .dictionary item => fun named value h => by
    obtain ⟨members, rfl⟩ := h.exists_entries
    have each := admits_dictionary_iff.1 h
    rw [h.value_eq, h.rebuild_dictionary, admits_dictionary_iff]
    intro entry member
    obtain ⟨m, inside, rfl⟩ := List.mem_map.1 (Members.mem_assign.1 member).1
    exact (each m inside).value_eq ▸ admits_again item named (each m inside)
  | .object shapes keepsUnknown => fun named value h => by
    simp only [isWellNamed, Bool.and_eq_true, decide_eq_true_eq] at named
    obtain ⟨members, rfl⟩ := h.exists_members
    obtain ⟨rebuilt, made⟩ := exists_rebuilt h.yields
    rw [h.value_eq, made, admits_object_iff]
    intro entry known
    have member := get?_rebuilt h.yields named.1 known
    rw [made, value_check, Json.get?_object] at member
    rw [member]
    exact admits_member_again shapes named.2 entry known (admits_object_iff.1 h entry known)
  | .optional shape => fun named value h => by
    cases value with
    | none => simpa [check] using h
    | some v =>
      have inner := admits_optional_iff.1 h
      simp only [check, inner.value_eq]
      exact admits_optional_iff.2 (inner.value_eq ▸ admits_again shape named inner)
  | .nullable shape => fun named value h => by
    by_cases null : value = some .null
    · subst null
      simpa [check, Outcome.accept] using h
    · have again := admits_again shape named (h.of_nullable null)
      rw [← check_nullable null] at again
      intro path
      by_cases gone : (check [] value (.nullable shape)).value = some .null
      · rw [gone]
        rfl
      · rw [check_nullable gone]
        exact again path
  | .withDefault shape default => fun named value h => by
    have inner := admits_withDefault_iff.1 h
    simp only [check, inner.value_eq]
    exact admits_withDefault_iff.2 (inner.value_eq ▸ admits_again shape named inner)

theorem admits_member_again : (shapes : List (String × Shape)) → areWellNamed shapes = true →
    ∀ entry ∈ shapes, ∀ {value : Option Json},
      entry.2.Admits value → entry.2.Admits (check [] value entry.2).value
  | [] => fun _ _ known => by cases known
  | (name, shape) :: shapes => fun named entry known value h => by
    simp only [areWellNamed, Bool.and_eq_true] at named
    rcases List.mem_cons.1 known with rfl | later
    · exact admits_again shape named.1 h
    · exact admits_member_again shapes named.2 entry later h

end

section Parts

variable {shape : Shape} {v w : Json}

theorem Yields.again (named : shape.isWellNamed = true) (h : shape.Yields v w) :
    shape.Yields w (shape.rebuild w) := by
  have again := admits_again shape named h.admits
  rw [h.admits.value_eq, h.rebuild_eq] at again
  exact again.yields

variable {shapes : List (String × Shape)} {keepsUnknown : Bool} {name : String}

theorem Yields.given_member (h : (Shape.object shapes keepsUnknown).Yields v w)
    (named : WellNamed shapes) (known : (name, shape) ∈ shapes)
    (needed : (check [name] none shape).issues ≠ []) :
    ∃ a b, v.get? name = some a ∧ w.get? name = some b ∧ shape.Yields a b := by
  cases given : v.get? name with
  | none =>
    have clean := (member_rebuilt h named known).1
    rw [given] at clean
    exact absurd clean needed
  | some a =>
    obtain ⟨passes, made⟩ := given_rebuilt h named known given
    exact ⟨a, _, rfl, made, passes⟩

theorem Yields.member (h : (Shape.object shapes keepsUnknown).Yields v w)
    (named : WellNamed shapes) (known : (name, shape) ∈ shapes)
    (needed : (check [name] none shape).issues ≠ []) :
    ∃ a b, w.get? name = some b ∧ shape.Yields a b := by
  obtain ⟨a, b, -, made⟩ := h.given_member named known needed
  exact ⟨a, b, made⟩

theorem Yields.optional_member (h : (Shape.object shapes keepsUnknown).Yields v w)
    (named : WellNamed shapes) (known : (name, .optional shape) ∈ shapes) :
    ∀ b ∈ w.get? name, ∃ a, shape.Yields a b := by
  intro b present
  cases given : v.get? name with
  | none =>
    rw [Option.mem_def, (member_rebuilt h named known).2, given] at present
    cases present
  | some a =>
    obtain ⟨passes, made⟩ := given_rebuilt h named known given
    rw [Option.mem_def, made] at present
    exact ⟨a, Option.some.inj present ▸ passes.of_optional⟩

lemma Yields.optional_part {α : Type} {P : α → Prop} {read : Json → α} {default : α}
    (h : (Shape.object shapes keepsUnknown).Yields v w) (named : WellNamed shapes)
    (known : (name, .optional shape) ∈ shapes) (absent : P default)
    (rebuilt : ∀ {a b}, shape.Yields a b → P (read b)) :
    P (((w.get? name).map read).getD default) := by
  cases given : w.get? name with
  | none => exact absent
  | some b =>
    obtain ⟨a, made⟩ := h.optional_member named known b given
    exact rebuilt made

/-- A member with a default is rebuilt from the given one, or else from the default. -/
theorem Yields.given_or_default {default : Json}
    (h : (Shape.object shapes keepsUnknown).Yields v w)
    (named : WellNamed shapes)
    (known : (name, .withDefault shape default) ∈ shapes) :
    ∃ b, w.get? name = some b ∧ shape.Yields ((v.get? name).getD default) b := by
  obtain ⟨clean, made⟩ := member_rebuilt h named known
  simp only [check] at clean made
  have passes := yields_rebuild clean
  rw [passes [name]] at made
  exact ⟨_, made, passes⟩

theorem Yields.default_member {default : Json} (h : (Shape.object shapes keepsUnknown).Yields v w)
    (named : WellNamed shapes)
    (known : (name, .withDefault shape default) ∈ shapes) :
    ∃ a b, w.get? name = some b ∧ shape.Yields a b :=
  ⟨_, h.given_or_default named known⟩

theorem Yields.number {rule : NumberRule} (h : (Shape.number rule).Yields v w) :
    ∃ x, w = .number x ∧ x.isNaN = false := by
  have checked := congrArg Outcome.value (h [])
  cases v with
  | number x =>
    by_cases hx : x.isNaN = true <;>
      simp [check, hx, Outcome.mismatch, Outcome.refuse, Outcome.accept,
        Outcome.report] at checked
    exact ⟨x, checked.symm, by simpa using hx⟩
  | _ => simp [check, Outcome.mismatch, Outcome.refuse, Outcome.accept] at checked

theorem Yields.text {nonEmpty : Bool} (h : (Shape.text nonEmpty).Yields v w) :
    ∃ s, v = .string s ∧ w = .string s := by
  have checked := congrArg Outcome.value (h [])
  cases v with
  | string s =>
    simp only [check, Outcome.report, Outcome.accept, Option.some.injEq] at checked
    exact ⟨s, rfl, checked.symm⟩
  | _ => simp [check, Outcome.mismatch, Outcome.refuse, Outcome.accept] at checked

lemma Yields.text_eq {nonEmpty : Bool} (h : (Shape.object shapes keepsUnknown).Yields v w)
    (named : WellNamed shapes) (known : (name, .text nonEmpty) ∈ shapes) :
    w.text name = v.text name := by
  have needed : (check [name] none (.text nonEmpty)).issues ≠ [] := by
    simpa only [check] using issues_mismatch _ _ _
  obtain ⟨a, b, given, rebuilt, made⟩ := h.given_member named known needed
  obtain ⟨s, rfl, rfl⟩ := made.text
  rw [Json.text, Json.text, Json.text?, Json.text?, given, rebuilt]

theorem Yields.someText (h : Shape.someText.Yields v w) : ∃ s, w = .string s ∧ s ≠ "" := by
  obtain ⟨s, rfl, rfl⟩ := Yields.text h
  refine ⟨s, rfl, fun empty => ?_⟩
  have clean := congrArg Outcome.issues (h [])
  simp [Shape.someText, check, Outcome.report, Outcome.accept, empty] at clean

theorem Yields.members (h : (Shape.dictionary shape).Yields v w) :
    ∃ members, w = .object members ∧ Members.assign members = members := by
  obtain ⟨entries, same⟩ := h.admits.exists_entries
  cases same
  rw [← h.rebuild_eq, h.admits.rebuild_dictionary]
  exact ⟨_, rfl, Members.assign_assign _⟩

lemma Yields.members?_eq (h : (Shape.object shapes keepsUnknown).Yields v w)
    (named : WellNamed shapes) (known : (name, .optional (.dictionary shape)) ∈ shapes) :
    (w.members? name).map Members.assign = w.members? name := by
  have rebuilt := h.optional_member named known
  cases given : w.get? name with
  | none => simp [Json.members?, given]
  | some b =>
    obtain ⟨_, made⟩ := rebuilt b given
    obtain ⟨members, rfl, assigned⟩ := made.members
    simp [Json.members?, given, assigned]

theorem Yields.items {nonEmpty : Bool} (h : (Shape.list nonEmpty shape).Yields v w) :
    ∃ items, w = .array items ∧ ∀ b ∈ items, ∃ a, shape.Yields a b := by
  obtain ⟨items, -, made, each⟩ := list_rebuilt h
  refine ⟨_, made, fun b member => ?_⟩
  obtain ⟨a, inside, rfl⟩ := List.mem_map.1 member
  exact ⟨a, each a inside⟩

lemma Yields.list_eq {nonEmpty : Bool} (h : (Shape.object shapes keepsUnknown).Yields v w)
    (named : WellNamed shapes) (known : (name, .optional (.list nonEmpty shape)) ∈ shapes) :
    w.list name = (v.list name).map shape.rebuild ∧
      ∀ item ∈ v.list name, shape.Yields item (shape.rebuild item) := by
  rw [Json.list, Json.list, Json.list?, Json.list?]
  cases given : v.get? name with
  | none =>
    have made := (member_rebuilt h named known).2
    rw [given] at made
    simp [made, check]
  | some list =>
    obtain ⟨passes, made⟩ := given_rebuilt h named known given
    obtain ⟨items, rfl, rebuilt, each⟩ := list_rebuilt passes.of_optional
    rw [made, rebuilt]
    exact ⟨rfl, each⟩

/-- A value with the shape of an object is there, and what the check makes of it is rebuilt. -/
theorem exists_given {value : Option Json} {result : Json}
    (parsed : (Shape.object shapes keepsUnknown).parse value = .ok result) :
    ∃ given, value = some given ∧ (Shape.object shapes keepsUnknown).Yields given result := by
  cases value with
  | none => simp [Shape.parse, check, Outcome.mismatch, Outcome.refuse] at parsed
  | some given => exact ⟨given, rfl, yields_of_parse parsed⟩

end Parts
end Shape

theorem Document.exists_given {shapes : List (String × Shape)} {keepsUnknown : Bool}
    {document : Option Json} {subject : String} {json : Json}
    (checked : check (.object shapes keepsUnknown) document subject = .ok json) :
    ∃ given, document = some given ∧ (Shape.object shapes keepsUnknown).Yields given json := by
  unfold check at checked
  split at checked
  · rename_i result parsed
    cases checked
    exact Shape.exists_given parsed
  all_goals cases checked

end PropertyGraph

import PropertyGraph.Proofs.JsonEquality
import PropertyGraph.Proofs.Recheck

/-! Values that come out of a check as they are. Of an object a check leaves out the members that
its shape neither knows nor keeps and the one under the name of a prototype, and it puts defaults
in. A value to which none of this applies is given back equal, and what a check has made is such
a value. -/
namespace PropertyGraph.Shape

mutual

/-- A value of which a check leaves nothing out and to which it adds nothing. -/
def Keeps : Shape → Option Json → Prop
  | .anything, _ | .text _, _ | .flag, _ | .number _, _ | .choice _, _ => True
  | .list _ item, value => ∀ items, value = some (.array items) →
      ∀ v ∈ items, item.Keeps (some v)
  | .dictionary item, value => ∀ members, value = some (.object members) →
      ∀ member ∈ members, member.1 ≠ Members.prototype ∧ item.Keeps (some member.2)
  | .object shapes keepsUnknown, value => ∀ members, value = some (.object members) →
      (∀ member ∈ members, member.1 ≠ Members.prototype ∧
        (keepsUnknown = true ∨ member.1 ∈ shapes.map Prod.fst)) ∧ KeepsMembers members shapes
  | .optional shape, value => value = none ∨ shape.Keeps value
  | .nullable shape, value => value = some .null ∨ shape.Keeps value
  | .withDefault shape _, value => value ≠ none ∧ shape.Keeps value

def KeepsMembers (members : List (String × Json)) : List (String × Shape) → Prop
  | [] => True
  | (name, shape) :: shapes =>
    shape.Keeps (Members.get? name members) ∧ KeepsMembers members shapes

end

section Parts

variable {shape item : Shape} {shapes : List (String × Shape)} {keepsUnknown : Bool}
  {members : List (String × Json)} {value : Option Json}

lemma keepsMembers_iff : KeepsMembers members shapes ↔
    ∀ entry ∈ shapes, entry.2.Keeps (Members.get? entry.1 members) := by
  induction shapes with
  | nil => simp [KeepsMembers]
  | cons entry rest ih => rw [KeepsMembers, ih, List.forall_mem_cons]

lemma names_of_rebuilt {result : Json} {rebuilt : List (String × Json)}
    (h : (Shape.object shapes keepsUnknown).Yields (.object members) result)
    (made : result = .object rebuilt) : ∀ member ∈ rebuilt, member.1 ≠ Members.prototype ∧
      (keepsUnknown = true ∨ member.1 ∈ shapes.map Prod.fst) := by
  subst made
  intro member inside
  have present : Members.get? member.1 rebuilt ≠ none := by
    rw [Members.get?, Ne, List.lookup_eq_none_iff]
    exact fun absent => by simpa using absent member inside
  have built := h []
  simp only [check, gatherMembers, Outcome.accept, Outcome.mk.injEq, Option.some.injEq,
    Json.object.injEq] at built
  rw [← built.1] at inside
  refine ⟨(Members.mem_assign.1 inside).2, ?_⟩
  by_contra! other
  exact present ((get?_unknown h other.2).trans (if_neg fun kept => other.1 kept.1))

end Parts

lemma same_of_rel {shape : Shape} {v : Json} (admits : shape.Admits (some v))
    (related : Option.Rel Json.Same (some v) (check [] (some v) shape).value) :
    Json.Same v (shape.rebuild v) := by
  rw [admits.value_eq] at related
  exact Option.rel_some_some.1 related

mutual

/-- What a check keeps comes out of it equal. -/
theorem rel_of_keeps : (shape : Shape) → shape.isWellNamed = true → ∀ {value : Option Json},
    shape.Admits value → shape.Keeps value →
      Option.Rel Json.Same value (check [] value shape).value
  | .anything => fun _ value _ _ => Json.Same.rel_refl value
  | .text _ | .flag | .number _ | .choice _ => fun _ value h _ => by
    rw [h.value_of_scalar rfl]
    exact Json.Same.rel_refl value
  | .list nonEmpty item => fun named value h kept => by
    obtain ⟨items, rfl⟩ := h.exists_items
    have each := (admits_list_iff.1 h).2
    have same := Json.Same.list (f := id) (g := item.rebuild) (k := id) fun v member =>
      same_of_rel (each v member) (rel_of_keeps item named (each v member) (kept items rfl v member))
    rw [h.value_eq, h.rebuild_list]
    simpa using same
  | .dictionary item => fun named value h kept => by
    obtain ⟨members, rfl⟩ := h.exists_entries
    rw [h.value_eq, h.rebuild_dictionary]
    refine .some (.of_get? fun name => ?_)
    rw [Members.get?_assign, Members.get?_map]
    cases given : Members.get? name members with
    | none => simp
    | some v =>
      have member := Members.mem_of_lookup name given
      obtain ⟨ordinary, keeps⟩ := kept members rfl _ member
      have admits := admits_dictionary_iff.1 h _ member
      rw [if_neg ordinary]
      exact .some (same_of_rel admits (rel_of_keeps item named admits keeps))
  | .object shapes keepsUnknown => fun named value h kept => by
    simp only [isWellNamed, Bool.and_eq_true, decide_eq_true_eq] at named
    obtain ⟨members, rfl⟩ := h.exists_members
    obtain ⟨rebuilt, made⟩ := exists_rebuilt h.yields
    obtain ⟨names, parts⟩ := kept members rfl
    rw [h.value_eq, made]
    refine .some (.of_get? fun name => ?_)
    by_cases known : name ∈ shapes.map Prod.fst
    · obtain ⟨entry, listed, rfl⟩ := List.mem_map.1 known
      have member := get?_rebuilt h.yields named.1 listed
      rw [made, value_check, Json.get?_object] at member
      rw [member]
      exact rel_of_keeps_member shapes named.2 entry listed (admits_object_iff.1 h entry listed)
        (keepsMembers_iff.1 parts entry listed)
    · have other := get?_unknown h.yields known
      rw [made, Json.get?_object, Json.get?_object] at other
      rw [other]
      cases given : Members.get? name members with
      | none => simp
      | some v =>
        obtain ⟨ordinary, keeps⟩ := names _ (Members.mem_of_lookup name given)
        rw [if_pos ⟨keeps.resolve_right known, ordinary⟩]
        exact Json.Same.rel_refl _
  | .optional shape => fun named value h kept => by
    cases value with
    | none => simp [check]
    | some v =>
      simp only [check]
      exact rel_of_keeps shape named (admits_optional_iff.1 h) (kept.resolve_left nofun)
  | .nullable shape => fun named value h kept => by
    by_cases null : value = some .null
    · subst null
      exact Json.Same.rel_refl _
    · rw [check_nullable null]
      exact rel_of_keeps shape named (h.of_nullable null) (kept.resolve_left null)
  | .withDefault shape default => fun named value h kept => by
    obtain ⟨v, rfl⟩ := Option.ne_none_iff_exists'.1 kept.1
    simp only [check, Option.getD_some]
    exact rel_of_keeps shape named (admits_withDefault_iff.1 h) kept.2

theorem rel_of_keeps_member : (shapes : List (String × Shape)) → areWellNamed shapes = true →
    ∀ entry ∈ shapes, ∀ {value : Option Json}, entry.2.Admits value → entry.2.Keeps value →
      Option.Rel Json.Same value (check [] value entry.2).value
  | [] => fun _ _ known => by cases known
  | (name, shape) :: shapes => fun named entry known value h kept => by
    simp only [areWellNamed, Bool.and_eq_true] at named
    rcases List.mem_cons.1 known with rfl | later
    · exact rel_of_keeps shape named.1 h kept
    · exact rel_of_keeps_member shapes named.2 entry later h kept

end

mutual

/-- What a check has made is kept. -/
theorem keeps_again : (shape : Shape) → shape.isWellNamed = true → ∀ {value : Option Json},
    shape.Admits value → shape.Keeps (check [] value shape).value
  | .anything | .text _ | .flag | .number _ | .choice _ => fun _ _ _ => trivial
  | .list nonEmpty item => fun named value h => by
    obtain ⟨items, rfl⟩ := h.exists_items
    have each := (admits_list_iff.1 h).2
    rw [h.value_eq, h.rebuild_list]
    rintro _ ⟨rfl⟩ w member
    obtain ⟨v, inside, rfl⟩ := List.mem_map.1 member
    exact (each v inside).value_eq ▸ keeps_again item named (each v inside)
  | .dictionary item => fun named value h => by
    obtain ⟨members, rfl⟩ := h.exists_entries
    rw [h.value_eq, h.rebuild_dictionary]
    rintro _ ⟨rfl⟩ entry member
    obtain ⟨listed, ordinary⟩ := Members.mem_assign.1 member
    obtain ⟨m, inside, rfl⟩ := List.mem_map.1 listed
    have admits := admits_dictionary_iff.1 h m inside
    exact ⟨ordinary, admits.value_eq ▸ keeps_again item named admits⟩
  | .object shapes keepsUnknown => fun named value h => by
    simp only [isWellNamed, Bool.and_eq_true, decide_eq_true_eq] at named
    obtain ⟨members, rfl⟩ := h.exists_members
    obtain ⟨rebuilt, made⟩ := exists_rebuilt h.yields
    rw [h.value_eq, made]
    rintro _ ⟨rfl⟩
    refine ⟨names_of_rebuilt h.yields made, keepsMembers_iff.2 fun entry known => ?_⟩
    have member := get?_rebuilt h.yields named.1 known
    rw [made, value_check, Json.get?_object] at member
    rw [member]
    exact keeps_member_again shapes named.2 entry known (admits_object_iff.1 h entry known)
  | .optional shape => fun named value h => by
    cases value with
    | none => exact .inl (by simp only [check])
    | some v =>
      simp only [check]
      exact .inr (keeps_again shape named (admits_optional_iff.1 h))
  | .nullable shape => fun named value h => by
    by_cases null : value = some .null
    · subst null
      exact .inl rfl
    · rw [check_nullable null]
      exact .inr (keeps_again shape named (h.of_nullable null))
  | .withDefault shape default => fun named value h => by
    have inner := admits_withDefault_iff.1 h
    simp only [check]
    exact ⟨by simp [inner.value_eq], keeps_again shape named inner⟩

theorem keeps_member_again : (shapes : List (String × Shape)) → areWellNamed shapes = true →
    ∀ entry ∈ shapes, ∀ {value : Option Json},
      entry.2.Admits value → entry.2.Keeps (check [] value entry.2).value
  | [] => fun _ _ known => by cases known
  | (name, shape) :: shapes => fun named entry known value h => by
    simp only [areWellNamed, Bool.and_eq_true] at named
    rcases List.mem_cons.1 known with rfl | later
    · exact keeps_again shape named.1 h
    · exact keeps_member_again shapes named.2 entry later h

end

section Whole

variable {shape : Shape} {v w : Json}

/-- A value that is kept is equal to what a check makes of it. -/
theorem Yields.same (h : shape.Yields v w) (named : shape.isWellNamed = true)
    (kept : shape.Keeps (some v)) : Json.Same v w := by
  have same := same_of_rel h.admits (rel_of_keeps shape named h.admits kept)
  rwa [h.rebuild_eq] at same

theorem Yields.keeps (h : shape.Yields v w) (named : shape.isWellNamed = true) :
    shape.Keeps (some w) := by
  have kept := keeps_again shape named h.admits
  rwa [h.admits.value_eq, h.rebuild_eq] at kept

end Whole
end PropertyGraph.Shape

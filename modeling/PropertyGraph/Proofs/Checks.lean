import PropertyGraph.Model.Relationship
import PropertyGraph.Proofs.Conversion
import PropertyGraph.Proofs.Members

/-! What the rules of entities and models accept. A check passes exactly when the property it
is named after holds, and the check of a property list gives back the list it has to. -/
namespace PropertyGraph

/-- The loop counts each value as often as it occurs. -/
theorem occurrences_eq (values : List String) :
    occurrences values = values.eraseDups.map fun v => (v, values.count v) := by
  have counted (v : String) :
      (values.filter (· = v)).foldl (fun count _ => count + 1) 0 = values.count v := by
    rw [List.foldl_add_const, List.count_eq_length_filter]
    simp [beq_eq_decide]
  have gathered := Members.foldl_put id (fun count _ => count + 1) 0 values
  simp only [id_eq, List.map_id_fun, counted] at gathered
  exact gathered

theorem firstRepeated?_eq_none_iff (values : List String) :
    firstRepeated? values = none ↔ values.Nodup := by
  simp only [firstRepeated?, occurrences_eq, List.find?_eq_none, List.mem_map,
    List.mem_eraseDups, List.nodup_iff_count_le_one]
  constructor
  · intro once v
    by_cases hv : v ∈ values
    · have := once (v, values.count v) ⟨v, hv, rfl⟩
      simpa using this
    · simp [List.count_eq_zero_of_not_mem hv]
  · rintro once _ ⟨v, -, rfl⟩
    have := once v
    simpa using this

theorem checkLabels_eq_ok_iff {labels : List String} :
    checkLabels labels = .ok () ↔ labels.Nodup := by
  rw [← firstRepeated?_eq_none_iff, checkLabels]
  split <;> simp_all

theorem checkPatterns_eq_ok_iff {patterns : List String} :
    checkPatterns patterns = .ok () ↔ patterns.Nodup := by
  rw [← firstRepeated?_eq_none_iff, checkPatterns]
  split <;> simp_all

theorem checkEnds_eq_ok_iff {labels : List String} {links : List Link} :
    checkEnds labels links = .ok () ↔
      ∀ link ∈ links, link.startLabel ∈ labels ∧ link.endLabel ∈ labels := by
  induction links with
  | nil => simp [checkEnds]
  | cons link links ih =>
    by_cases hs : link.startLabel ∈ labels
    · by_cases he : link.endLabel ∈ labels
      · simp [checkEnds, hs, he, ih]
      · simp [checkEnds, hs, he]
    · simp [checkEnds, hs]

/-- Labels and links that obey the rules of a model. -/
structure Consistent (labels : List String) (links : List Link) : Prop where
  labelsOnce : labels.Nodup
  patternsOnce : (links.map Link.pattern).Nodup
  endsKnown : ∀ link ∈ links, link.startLabel ∈ labels ∧ link.endLabel ∈ labels

theorem checkModel_eq_ok_iff {labels : List String} {links : List Link} :
    checkModel labels links = .ok () ↔ Consistent labels links := by
  have labelsPass (u : Unit) : checkLabels labels = .ok u ↔ labels.Nodup := checkLabels_eq_ok_iff
  have patternsPass (u : Unit) : checkPatterns (links.map Link.pattern) = .ok u ↔
      (links.map Link.pattern).Nodup := checkPatterns_eq_ok_iff
  simp only [checkModel, Except.bind_eq_ok_iff, labelsPass, patternsPass, checkEnds_eq_ok_iff]
  constructor
  · rintro ⟨-, labels, -, patterns, ends⟩
    exact ⟨labels, patterns, ends⟩
  · rintro ⟨labels, patterns, ends⟩
    exact ⟨(), labels, (), patterns, ends⟩

theorem checkNewProperty_eq_ok_iff {owner : Owner} {key : Option Property}
    {properties : List Property} {name : String} {u : Unit} :
    checkNewProperty owner key properties name = .ok u ↔
      name ∉ (withKey key properties).map Property.name := by
  have known : hasProperty key properties name = true ↔
      name ∈ (withKey key properties).map Property.name := by
    simp [hasProperty]
  rw [checkNewProperty, ← known]
  split_ifs with taken <;> simp [taken]

def withoutKey (key : Option Property) (properties : List Property) : List Property :=
  properties.filter fun p => key.all fun k => p.name ≠ k.name

theorem checkProperties_eq (owner : Owner) (key : Option Property) (properties : List Property) :
    checkProperties owner key properties =
      match firstRepeated? ((withoutKey key properties).map Property.name) with
      | some (name, count) => .error (.repeatedProperty owner name count)
      | none => .ok (withoutKey key properties) := by
  cases key with
  | none =>
    have all : withoutKey none properties = properties := by simp [withoutKey]
    rw [all]
    rfl
  | some k => rfl

theorem checkProperties_eq_ok_iff {owner : Owner} {key : Option Property}
    {properties others : List Property} :
    checkProperties owner key properties = .ok others ↔
      others = withoutKey key properties ∧ (others.map Property.name).Nodup := by
  rw [checkProperties_eq]
  cases repeated : firstRepeated? ((withoutKey key properties).map Property.name) with
  | some entry =>
    have twice : ¬ ((withoutKey key properties).map Property.name).Nodup := by
      rw [← firstRepeated?_eq_none_iff, repeated]
      simp
    simp only [reduceCtorEq, false_iff, not_and]
    rintro rfl
    exact twice
  | none =>
    have once := (firstRepeated?_eq_none_iff _).1 repeated
    simp only [Except.ok.injEq]
    constructor
    · rintro rfl
      exact ⟨rfl, once⟩
    · exact fun h => h.1.symm

theorem nodup_withKey_withoutKey {key : Option Property} {properties : List Property}
    (distinct : ((withoutKey key properties).map Property.name).Nodup) :
    ((withKey key (withoutKey key properties)).map Property.name).Nodup := by
  cases key with
  | none => simpa [withKey] using distinct
  | some k =>
    simp only [withKey, Option.toList_some, List.singleton_append, List.map_cons,
      List.nodup_cons]
    refine ⟨fun taken => ?_, distinct⟩
    obtain ⟨p, hp, same⟩ := List.mem_map.1 taken
    simp [withoutKey, same] at hp

theorem withoutKey_of_nodup {key : Option Property} {properties : List Property}
    (distinct : ((withKey key properties).map Property.name).Nodup) :
    withoutKey key properties = properties := by
  cases key with
  | none => simp [withoutKey]
  | some k =>
    simp only [withKey, Option.toList_some, List.singleton_append, List.map_cons,
      List.nodup_cons, List.mem_map, not_exists, not_and] at distinct
    simpa [withoutKey] using distinct.1

theorem nodup_withoutKey {key : Option Property} {properties : List Property}
    (distinct : ((withKey key properties).map Property.name).Nodup) :
    ((withoutKey key properties).map Property.name).Nodup := by
  rw [withoutKey_of_nodup distinct]
  rw [withKey, List.map_append] at distinct
  exact distinct.of_append_right

theorem mem_withoutKey {key : Option Property} {properties : List Property} {p : Property}
    (member : p ∈ withoutKey key properties) : p ∈ properties :=
  (List.mem_filter.1 member).1

end PropertyGraph

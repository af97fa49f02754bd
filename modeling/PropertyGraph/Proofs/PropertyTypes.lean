import PropertyGraph.Proofs.Record.Codec

/-! The types of properties. A type is put in normal form when its property is built, and a
normal form stands for itself; so a property can be copied, with other parts replaced or by way
of its record, and its type stays as it is. -/
namespace PropertyGraph
namespace Property

variable {property next : Property} {changes : Changes}

lemma build_eq_ok_iff {draft : Draft} : build draft = .ok next ↔
    Text.isBlank draft.name = false ∧
      next = ⟨draft.name, TypeTag.normalize (draft.type.getD ""), draft.source,
        draft.description, draft.provenance⟩ := by
  rw [build]
  split_ifs with blank
  · simp [blank]
  · simp only [Except.ok.injEq, Bool.eq_false_iff.2 blank, true_and]
    exact eq_comm

/-- The other parts are replaced, and the name must say something. -/
lemma revise_eq_ok_iff (valid : property.Valid) (kept : changes.type = none) :
    property.revise changes = .ok next ↔
      Text.isBlank (changes.name.getD property.name) = false ∧
        next = ⟨changes.name.getD property.name, property.type, changes.source <|> property.source,
          changes.description <|> property.description,
          changes.provenance.getD property.provenance⟩ := by
  simp only [revise, build_eq_ok_iff, kept, Option.getD_none, Option.getD_some,
    valid.normalize_type]

/-- Type tags in normal form are not empty, there is nothing to trim from them, and they stand
for themselves. The type of a property that has been built is one, and neither a copy without a
new type nor the way over a record changes it. -/
theorem type_kept_of_built :
    (∀ text, TypeTag.normalize (TypeTag.normalize text) = TypeTag.normalize text ∧
      TypeTag.normalize text ≠ "" ∧
      Text.trim (TypeTag.normalize text) = TypeTag.normalize text) ∧
    ∀ property : Property, property.Built →
      TypeTag.normalize property.type = property.type ∧
      (∀ changes : Changes, changes.type = none → ∀ next,
        (property.revise changes = .ok next ↔
          Text.isBlank (changes.name.getD property.name) = false ∧
            next = ⟨changes.name.getD property.name, property.type,
              changes.source <|> property.source,
              changes.description <|> property.description,
              changes.provenance.getD property.provenance⟩)) ∧
      ofRecord property.toJson = .ok property := by
  refine ⟨fun text => ⟨TypeTag.normalize_eq_self text, (TypeTag.trimmed_normalize text).1,
    TypeTag.trim_normalize text⟩, fun property built => ?_⟩
  have valid := built.valid
  exact ⟨valid.normalize_type, fun changes kept next => revise_eq_ok_iff valid kept,
    ofRecord_toJson valid⟩

/-- A property whose type was given with blanks around it and a letter that is two in upper
case. -/
def street : Property := ⟨"street", "STRASSE", none, none, none⟩

theorem street_built : street.Built := by
  have normal : TypeTag.normalize " Straße " = "STRASSE" := by decide +kernel
  refine ⟨⟨"street", some " Straße ", none, none, none⟩, build_eq_ok_iff.2 ⟨rfl, ?_⟩⟩
  rw [Option.getD_some, normal]
  rfl

theorem type_kept_of_built_street : street.Built ∧
    TypeTag.normalize street.type = "STRASSE" ∧
    street.revise ⟨some "road", none, none, some "by name", none⟩ =
      .ok ⟨"road", "STRASSE", none, some "by name", none⟩ ∧
    ofRecord street.toJson = .ok street := by
  obtain ⟨fixed, copies, record⟩ := type_kept_of_built.2 street street_built
  exact ⟨street_built, fixed, (copies _ rfl _).2 ⟨rfl, rfl⟩, record⟩

end Property
end PropertyGraph

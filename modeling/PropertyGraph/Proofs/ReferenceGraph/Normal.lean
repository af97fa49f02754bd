import PropertyGraph.Proofs.Keeping
import PropertyGraph.Proofs.ReferenceGraph.Export

/-! Rules and descriptions of the source as they come out of a check. Their owners,
properties and tables are read as before. -/
namespace PropertyGraph.ReferenceGraph

section References

variable {v w : Json}

lemma ref_ofJson_rebuilt (h : Ref.shape.Yields v w) : Ref.ofJson w = Ref.ofJson v :=
  congrArg Ref.mk (h.text_eq (by decide) List.mem_cons_self)

lemma nullable_rebuilt {shape : Shape} (h : (Shape.nullable shape).Yields v w) :
    (v = .null ∧ w = .null) ∨ (v ≠ .null ∧ shape.Yields v w) := by
  by_cases null : v = .null
  · subst null
    have checked := congrArg Outcome.value (h [])
    simp only [Shape.check, Outcome.accept, Option.some.injEq] at checked
    exact .inl ⟨rfl, checked.symm⟩
  · refine .inr ⟨null, fun path => ?_⟩
    have checked := h path
    cases v <;> first | exact absurd rfl null | simpa only [Shape.check] using checked

end References

section Rules

variable {kind : RuleKind} {rule : Rule}

def Rule.memberShapes (kind : RuleKind) : List (String × Shape) :=
  [("$id", .anyText), ("name", .anyText), (kind.typeMember, .anyText),
    ("entityType", .choice ["node", "relationship"]), ("nodeLabel", .nullable Ref.shape),
    ("relationshipType", .nullable Ref.shape), ("properties", .listOf Ref.shape)]

lemma Rule.wellNamed_memberShapes (kind : RuleKind) : Shape.WellNamed (Rule.memberShapes kind) := by
  cases kind <;> decide

lemma Rule.issues_of_absent {path : List String} {name : String} {shape : Shape}
    (listed : (name, shape) ∈ Rule.memberShapes kind) :
    (Shape.check path none shape).issues ≠ [] := by
  simp only [Rule.memberShapes, List.mem_cons, List.not_mem_nil, or_false, Prod.mk.injEq] at listed
  rcases listed with h | h | h | h | h | h | h <;> rw [h.2] <;>
    simp [Shape.anyText, Shape.listOf, Ref.shape, Shape.closedObject, Shape.check,
      Outcome.mismatch, Outcome.refuse]

lemma Rule.exists_member (h : rule.Passes kind) {name : String} {shape : Shape}
    (listed : (name, shape) ∈ Rule.memberShapes kind) :
    ∃ v, rule.toJson.get? name = some v ∧ shape.Yields v (shape.rebuild v) ∧
      (rule.normal kind).toJson.get? name = some (shape.rebuild v) := by
  have named := Rule.wellNamed_memberShapes kind
  cases given : rule.toJson.get? name with
  | none =>
    have clean := (Shape.member_rebuilt h.yields named listed).1
    rw [given] at clean
    exact absurd clean (Rule.issues_of_absent listed)
  | some v =>
    exact ⟨v, rfl, Shape.given_rebuilt h.yields named listed given⟩

lemma choice_rebuilt {choices : List String} {v w : Json}
    (h : (Shape.choice choices).Yields v w) : v = w := by
  have checked := congrArg Outcome.value (h [])
  cases v with
  | string s =>
    by_cases hs : s ∈ choices <;>
      simp [Shape.check, hs, Outcome.refuse, Outcome.accept] at checked
    exact checked
  | _ => simp [Shape.check, Outcome.mismatch, Outcome.refuse, Outcome.accept] at checked

lemma Rule.entityType_normal (h : rule.Passes kind) :
    (rule.normal kind).toJson.text "entityType" = rule.toJson.text "entityType" := by
  have listed : ("entityType", .choice ["node", "relationship"]) ∈ Rule.memberShapes kind := by
    simp [Rule.memberShapes]
  obtain ⟨v, given, passes, made⟩ := Rule.exists_member h listed
  simp only [Json.text, Json.text?, given, made, ← choice_rebuilt passes]

lemma Rule.member?_normal (h : rule.Passes kind) {name : String}
    (listed : (name, .nullable Ref.shape) ∈ Rule.memberShapes kind) :
    Ref.member? name (rule.normal kind).toJson = Ref.member? name rule.toJson := by
  obtain ⟨v, given, passes, made⟩ := Rule.exists_member h listed
  rw [Ref.member?, Ref.member?, given, made]
  rcases nullable_rebuilt passes with ⟨null, same⟩ | ⟨-, ref⟩
  · rw [same, null]
  · obtain ⟨ms, rfl⟩ := Shape.exists_members ref
    obtain ⟨ns, same⟩ := Shape.exists_rebuilt ref
    have target := ref_ofJson_rebuilt ref
    rw [same] at target ⊢
    exact congrArg some target

lemma Rule.owner?_normal (h : rule.Passes kind) : (rule.normal kind).owner? = rule.owner? := by
  have hl : ("nodeLabel", .nullable Ref.shape) ∈ Rule.memberShapes kind := by
    simp [Rule.memberShapes]
  have ht : ("relationshipType", .nullable Ref.shape) ∈ Rule.memberShapes kind := by
    simp [Rule.memberShapes]
  rw [Rule.owner?, Rule.owner?, Rule.entityType_normal h, Rule.member?_normal h hl,
    Rule.member?_normal h ht]

lemma Rule.properties_normal (h : rule.Passes kind) :
    (rule.normal kind).properties = rule.properties := by
  have listed : ("properties", .listOf Ref.shape) ∈ Rule.memberShapes kind := by
    simp [Rule.memberShapes]
  obtain ⟨v, given, passes, made⟩ := Rule.exists_member h listed
  obtain ⟨items, rfl, same, each⟩ := Shape.list_rebuilt passes
  simp only [Rule.properties, Json.list, Json.list?, given, made, same, Option.bind_some,
    Json.array?_array, Option.getD_some, List.map_map]
  exact List.map_congr_left fun item member => ref_ofJson_rebuilt (each item member)

theorem Rule.fits_normal (h : rule.Passes kind) (numbered : NumberedModel) :
    (rule.normal kind).fits numbered = rule.fits numbered := by
  rw [Rule.fits, Rule.fits, Rule.owner?_normal h, Rule.properties_normal h]

lemma Rule.normal_forKey (number : Nat) (name : String) (owner : RuleOwner) (keyId : String)
    (ho : ∀ ref, owner = .node ref ∨ owner = .relationship ref → ref.text ≠ "") :
    (Rule.forKey kind number name owner keyId).normal kind =
      Rule.forKey kind number name owner keyId := by
  rw [Rule.normal, (Rule.forKey_yields kind number name owner keyId ho).rebuild_eq]
  rfl

end Rules

section Sources

variable {schema : SourceSchema}

theorem SourceSchema.tableNames_normal (h : schema.Passes) :
    schema.normal.tableNames = schema.tableNames := by
  obtain ⟨rebuilt, each⟩ :=
    h.yields.list_eq (by decide) (Members.mem_of_lookup "tableSchemas" rfl)
  rw [tableNames, tableNames, rebuilt, List.map_map]
  exact List.map_congr_left fun table member =>
    (each table member).text_eq (by decide) List.mem_cons_self

lemma SourceSchema.normal_infer (kind : SourceKind) (tables : List Table) :
    (SourceSchema.infer kind tables).normal = SourceSchema.infer kind tables := by
  rw [SourceSchema.normal, (SourceSchema.infer_yields kind tables).rebuild_eq]
  rfl

end Sources

end PropertyGraph.ReferenceGraph

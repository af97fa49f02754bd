import PropertyGraph.Proofs.ReferenceGraph.RuleTargets
import PropertyGraph.Proofs.ReferenceGraph.StoredIds

/-! Rules of a document that is read and written without an edit. They are given back as they
are, with the ids of the document, while labels and types are numbered anew by their places.
So they keep their targets if the ids of their owners are those of their places and the ids of
their properties are not taken before; else the whole block is made anew. -/
namespace PropertyGraph.ReferenceGraph

/-- What a rule is about: the tokens of its owner and of its properties. -/
def Schema.target? (schema : Schema) (rule : Rule) : Option (String × List String) := do
  let owner ← rule.owner?
  let definition ← (schema.definitions owner).find? (·.id = owner.ref.id)
  let tokens ← rule.properties.mapM fun ref => definition.tokenOf? ref.id
  return (definition.token, tokens)

/-- An owner whose id is that of its place, and what defines the entities before that place.
Of a label the tokens must differ as well, for next to the key no property of its token is
read. -/
def Schema.InPlace (schema : Schema) (earlier : List EntityDef) : RuleOwner → Prop
  | .node ref => ∃ i label, schema.nodeLabels[i]? = some label ∧ label.id = ref.id ∧
      ref.id = nodeLabelId i ∧ (label.properties.map PropertyDef.token).Nodup ∧
      earlier = schema.nodeLabels.take i
  | .relationship ref => ∃ j object, schema.relationshipObjects[j]? = some object ∧
      object.type.id = ref.id ∧ ref.id = relationshipTypeId j ∧
      earlier = schema.nodeLabels ++ schema.typesOf (schema.relationshipObjects.take j)

/-- A rule that is written as it has been read: its owner is in place, with all properties
that the rule is about, and no entity before it has properties of their ids. -/
structure Rule.Stays (schema : Schema) (rule : Rule) : Prop where
  anchored : rule.Anchored schema
  inPlace : ∀ owner ∈ rule.owner?, ∃ earlier, schema.InPlace earlier owner ∧
    ∀ ref ∈ rule.properties, ref.id ∉ EntityDef.propertyIds earlier

section Retention

variable {model : Model} {numbered : NumberedModel} {document : Option Json} {json : Json}
  {strict : Bool} {refs : List Ref}

/-- A definition that is exported with its id and its token, and the properties that some
references name with theirs. -/
structure EntityDef.KeptAs (refs : List Ref) (given exported : EntityDef) : Prop where
  id : exported.id = given.id
  token : exported.token = given.token
  properties : ∀ ref ∈ refs, ∃ token, given.tokenOf? ref.id = some token ∧
    exported.tokenOf? ref.id = some token

lemma EntityDef.keptAs_of_first (made : NumberedModel.ofModel model = .ok numbered)
    {before own after : List Numbered} (split : numbered.properties = before ++ (own ++ after))
    {given exported : EntityDef} (id : exported.id = given.id)
    (token : exported.token = given.token)
    (defined : exported.properties = own.map Numbered.definition)
    (stored : ∀ id, storedName? (own.map Numbered.property) id = given.tokenOf? id)
    (first : ∀ ref ∈ refs, ∀ n ∈ before, n.property.storedId? ≠ some ref.id)
    (owns : ∀ ref ∈ refs, ∃ property ∈ given.properties, property.id = ref.id) :
    given.KeptAs refs exported := by
  refine ⟨id, token, fun ref member => ?_⟩
  have listed : (given.properties.find? (·.id = ref.id)).isSome := by
    simpa using owns ref member
  obtain ⟨property, found⟩ := Option.isSome_iff_exists.1 listed
  have known : given.tokenOf? ref.id = some property.token := congrArg (Option.map _) found
  exact ⟨_, known,
    tokenOf?_of_first made split (first ref member) ((stored ref.id).trans known) defined⟩

lemma exists_keptAs_node (read : (read document strict).answer = .ok model)
    (checked : Document.check shape document "reference-graph document" = .ok json)
    (made : NumberedModel.ofModel model = .ok numbered) {i : Nat} {label : EntityDef}
    (here : (ofJson json).schema.nodeLabels[i]? = some label) (place : label.id = nodeLabelId i)
    (tokens : (label.properties.map PropertyDef.token).Nodup)
    (first : ∀ ref ∈ refs,
      ref.id ∉ EntityDef.propertyIds ((ofJson json).schema.nodeLabels.take i))
    (owns : ∀ ref ∈ refs, ∃ property ∈ label.properties, property.id = ref.id) :
    ∃ exported ∈ numbered.nodeLabels, label.KeptAs refs exported := by
  obtain ⟨bindings, -, -, nodes, -⟩ := exists_bindings read checked
  have ids := (rebuilt_of_check checked).schema.nodeLabels
  have fits := NumberedModel.fits_of_ofModel made
  rw [← fits.nodes, List.forall₂_map_right_iff] at nodes
  obtain ⟨entry, there, becomes⟩ := forall₂_getElem? nodes here
  have member := List.mem_of_getElem? there
  have split : numbered.properties =
      (numbered.nodes.take i).flatMap NumberedNode.properties ++ (entry.properties ++
        ((numbered.nodes.drop (i + 1)).flatMap NumberedNode.properties ++
          numbered.relationships.flatMap NumberedRelationship.properties)) := by
    rw [NumberedModel.properties, flatMap_at there, List.append_assoc, List.append_assoc]
  have id : entry.definition.id = label.id := by
    rw [place]
    exact congrArg nodeLabelId (index_at fits.nodeIndexes there)
  refine ⟨entry.definition, List.mem_map_of_mem member,
    EntityDef.keptAs_of_first made split id (EntityDef.key_of_toNode becomes).1 rfl
      (fun id => ?_) (fun ref inside => ?_) owns⟩
  · rw [(fits.eachNode entry member).map_property]
    exact EntityDef.storedName?_of_toNode (ids label (List.mem_of_getElem? here)) becomes tokens id
  · exact not_stored_of_toNode (fun e former => fits.eachNode e (List.mem_of_mem_take former))
      (List.forall₂_take i nodes) (fun l former => ids l (List.mem_of_mem_take former))
      (first ref inside)

lemma exists_keptAs_relationship (read : (read document strict).answer = .ok model)
    (checked : Document.check shape document "reference-graph document" = .ok json)
    (made : NumberedModel.ofModel model = .ok numbered) {j : Nat} {object : RelationshipObject}
    (here : (ofJson json).schema.relationshipObjects[j]? = some object) {type : EntityDef}
    (defined : type ∈ (ofJson json).schema.relationshipTypes)
    (same : type.id = object.type.id) (place : type.id = relationshipTypeId j)
    (first : ∀ ref ∈ refs, ref.id ∉ EntityDef.propertyIds ((ofJson json).schema.nodeLabels ++
      (ofJson json).schema.typesOf ((ofJson json).schema.relationshipObjects.take j)))
    (owns : ∀ ref ∈ refs, ∃ property ∈ type.properties, property.id = ref.id) :
    ∃ exported ∈ numbered.relationshipTypes, type.KeptAs refs exported := by
  obtain ⟨bindings, -, bound, nodes, relationships⟩ := exists_bindings read checked
  have rebuilt := (rebuilt_of_check checked).schema
  have fits := NumberedModel.fits_of_ofModel made
  rw [← fits.nodes, List.forall₂_map_right_iff] at nodes
  rw [← fits.relationships, List.forall₂_map_right_iff] at relationships
  have kinds := Resolved.relationshipKinds_of bound.resolved
  have distinct := (Resolved.nodup_ids bound.resolved).2
  have ids : ∀ kind ∈ bindings.resolved.relationshipKinds, ∀ definition ∈ kind.type.properties,
      definition.id ≠ "" := by
    intro kind inside
    obtain ⟨_, -, ofObject⟩ := exists_mem_of_forall₂ kinds inside
    exact rebuilt.relationshipTypes _ ofObject.type.1
  obtain ⟨kind, listed, ofObject⟩ := forall₂_getElem? kinds here
  obtain rfl : kind.type = type := List.inj_on_of_nodup_map distinct ofObject.type.1 defined
    (ofObject.type.2.trans same.symm)
  obtain ⟨entry, there, becomes⟩ := forall₂_getElem? relationships listed
  have member := List.mem_of_getElem? there
  have split : numbered.properties =
      (numbered.nodes.flatMap NumberedNode.properties ++
        (numbered.relationships.take j).flatMap NumberedRelationship.properties) ++
      (entry.properties ++
        (numbered.relationships.drop (j + 1)).flatMap NumberedRelationship.properties) := by
    rw [NumberedModel.properties, flatMap_at there, List.append_assoc]
  have id : entry.definition.id = kind.type.id := by
    rw [place]
    exact congrArg relationshipTypeId (index_at fits.relationshipIndexes there)
  refine ⟨entry.definition, List.mem_map_of_mem member,
    EntityDef.keptAs_of_first made split id (RelationshipKind.of_toRelationship becomes).1 rfl
      (fun id => ?_) (fun ref inside => ?_) owns⟩
  · rw [(fits.eachRelationship entry member).map_property]
    have kept := RelationshipKind.keptBy_of_toRelationship
      (ids kind (List.mem_of_getElem? listed)) becomes
    exact storedName?_of_keptBy kept id
  · have unused := first ref inside
    rw [typesOf_eq distinct (List.forall₂_take j kinds), EntityDef.propertyIds,
      List.flatMap_append, List.mem_append, not_or] at unused
    exact List.forall_mem_append.2
      ⟨not_stored_of_toNode fits.eachNode nodes rebuilt.nodeLabels unused.1,
        not_stored_of_toRelationship
          (fun e former => fits.eachRelationship e (List.mem_of_mem_take former))
          (List.forall₂_take j relationships)
          (fun k former => ids k (List.mem_of_mem_take former)) unused.2⟩

variable {settings : Settings} {owner : RuleOwner} {rule : Rule}

lemma NumberedModel.Fits.nodup_definitions (fits : numbered.Fits model) (settings : Settings)
    (owner : RuleOwner) :
    (((build settings model numbered).1.schema.definitions owner).map EntityDef.id).Nodup := by
  cases owner with
  | node =>
    have ids := fits.labelIds
    simpa [Schema.definitions, build, nodeLabels, Function.comp_def, NumberedNode.definition]
      using ids
  | relationship =>
    have ids := fits.typeIds
    simpa [Schema.definitions, build, relationshipTypes, Function.comp_def,
      NumberedRelationship.definition] using ids

/-- A rule whose owner is kept has the same target as before. -/
lemma exists_target {first second : Schema} {given exported : EntityDef}
    (owned : rule.owner? = some owner)
    (found : (first.definitions owner).find? (·.id = owner.ref.id) = some given)
    (again : (second.definitions owner).find? (·.id = owner.ref.id) = some exported)
    (kept : given.KeptAs rule.properties exported) :
    ∃ target, first.target? rule = some target ∧ second.target? rule = some target := by
  obtain ⟨texts, before, after⟩ := exists_mapM kept.properties
  exact ⟨(given.token, texts), by simp [Schema.target?, owned, found, before],
    by simp [Schema.target?, owned, again, after, kept.token]⟩

lemma fits_of_kept {given exported : EntityDef} (owned : rule.owner? = some owner)
    (again : ((build settings model numbered).1.schema.definitions owner).find?
      (·.id = owner.ref.id) = some exported) (kept : given.KeptAs rule.properties exported) :
    rule.fits numbered = true := by
  have all : ∀ ref ∈ rule.properties, ∃ q ∈ exported.properties, q.id = ref.id := by
    intro ref member
    obtain ⟨token, -, known⟩ := kept.properties ref member
    obtain ⟨q, found, -⟩ := Option.map_eq_some_iff.1 known
    exact ⟨q, List.mem_of_find?_eq_some found, by simpa using List.find?_some found⟩
  have owned' : ownsAll ((build settings model numbered).1.schema.definitions owner) owner.ref
      rule.properties = true := by
    rw [ownsAll, again]
    simpa using all
  rw [Rule.fits, owned]
  cases owner <;> exact owned'

lemma exists_keptAs (read : (read document strict).answer = .ok model)
    (checked : Document.check shape document "reference-graph document" = .ok json)
    (made : NumberedModel.ofModel model = .ok numbered) (settings : Settings)
    {earlier : List EntityDef} (inPlace : (ofJson json).schema.InPlace earlier owner)
    (first : ∀ ref ∈ refs, ref.id ∉ EntityDef.propertyIds earlier) {given : EntityDef}
    (defined : given ∈ (ofJson json).schema.definitions owner) (id : given.id = owner.ref.id)
    (owns : ∀ ref ∈ refs, ∃ property ∈ given.properties, property.id = ref.id) :
    ∃ exported ∈ (build settings model numbered).1.schema.definitions owner,
      given.KeptAs refs exported := by
  cases owner with
  | node ref =>
    obtain ⟨bindings, -, bound, -⟩ := exists_bindings read checked
    obtain ⟨i, label, here, same, place, tokens, rfl⟩ := inPlace
    obtain rfl : label = given := List.inj_on_of_nodup_map (Resolved.nodup_ids bound.resolved).1
      (List.mem_of_getElem? here) defined (same.trans id.symm)
    exact exists_keptAs_node read checked made here (same.trans place) tokens first owns
  | relationship ref =>
    obtain ⟨j, object, here, same, place, rfl⟩ := inPlace
    exact exists_keptAs_relationship read checked made here defined (id.trans same.symm)
      (id.trans place) first owns

/-- Rules that stay are written as they have been read, and about the same owners and
properties. -/
theorem target_of_read_write (read : (read document strict).answer = .ok model)
    (checked : Document.check shape document "reference-graph document" = .ok json)
    {asked : Option Json} (resolved : Settings.resolve asked = .ok settings) {kind : RuleKind}
    {rules : List Rule} (given : (ofJson json).schema.rules kind = some rules)
    (stay : ∀ rule ∈ rules, rule.Stays (ofJson json).schema) :
    ∃ written, (write model asked).answer = .ok written ∧
      written.schema.rules kind = some rules ∧ ∀ rule ∈ rules, ∃ target,
        (ofJson json).schema.target? rule = some target ∧
          written.schema.target? rule = some target := by
  obtain ⟨numbered, made⟩ := NumberedModel.exists_ofModel (valid_of_read read)
  have fits := NumberedModel.fits_of_ofModel made
  obtain ⟨bindings, -, bound, -⟩ := exists_bindings read checked
  obtain ⟨labels, types⟩ := Resolved.nodup_ids bound.resolved
  have each : ∀ rule ∈ rules, rule.fits numbered = true ∧ ∃ target,
      (ofJson json).schema.target? rule = some target ∧
        (build settings model numbered).1.schema.target? rule = some target := by
    intro rule member
    obtain ⟨owner, owned, definition, defined, id, owns⟩ := (stay rule member).anchored
    obtain ⟨earlier, inPlace, first⟩ := (stay rule member).inPlace owner owned
    obtain ⟨exported, there, kept⟩ := exists_keptAs read checked made settings inPlace first
      defined id owns
    have ids : (((ofJson json).schema.definitions owner).map EntityDef.id).Nodup := by
      cases owner <;> assumption
    have again := find?_of_mem (fits.nodup_definitions settings owner) there (kept.id.trans id)
    exact ⟨fits_of_kept owned again kept,
      exists_target owned (find?_of_mem ids defined id) again kept⟩
  refine ⟨_, answer_write_of_ofModel made resolved, ?_, fun rule member => (each rule member).2⟩
  have fit : rules.all (Rule.fits numbered) = true :=
    List.all_eq_true.2 fun rule member => (each rule member).1
  have known : model.metadata.referenceGraph.bind (·.rules kind) = some rules := by
    rw [metadata_of_read read checked, ← given]
    cases kind <;> rfl
  rw [rules_build, known, chooseRules, if_pos fit]

theorem target_of_read_write_titles : ∃ (model : Model) (written : ReferenceGraph),
    (read (some titles.toJson) false).answer = .ok model ∧
      (write model none).answer = .ok written ∧
      written.schema.constraints = titles.schema.constraints ∧
      ∀ rule ∈ titles.schema.constraints.getD [],
        written.schema.target? rule = some ("Book", ["title"]) := by
  have answers : (ReferenceGraph.read (some titles.toJson) false).answer.isOk = true := by
    decide +kernel
  obtain ⟨model, read⟩ := Except.exists_of_isOk answers
  have checked : Document.check shape (some titles.toJson) "reference-graph document" =
      .ok titles.toJson := by decide +kernel
  have resolved : Settings.resolve none = .ok Settings.standard := by decide +kernel
  have stay : ∀ rule ∈ titles.schema.constraints.getD [], rule.Stays titles.schema := by
    intro rule member
    obtain rfl := List.mem_singleton.1 member
    refine ⟨⟨_, rfl, _, List.mem_cons_self, rfl, ?_⟩, ?_⟩
    · decide
    · rintro _ ⟨rfl⟩
      exact ⟨_, ⟨0, _, rfl, rfl, rfl, by decide, rfl⟩, by decide⟩
  have titled : ofJson titles.toJson = titles := ofJson_toJson titles
  have given : (ofJson titles.toJson).schema.rules .constraint = some _ :=
    congrArg (·.schema.constraints) titled
  obtain ⟨written, wrote, kept, each⟩ := target_of_read_write read checked
    resolved given (by rw [titled]; exact stay)
  refine ⟨model, written, read, wrote, kept, fun rule member => ?_⟩
  obtain ⟨target, before, after⟩ := each rule member
  obtain rfl := List.mem_singleton.1 member
  rw [after, ← before, titled]
  decide

/-- A graph of books whose label has not the id of its place. -/
def astray : ReferenceGraph :=
  books "nl:1" [⟨"p:0", "isbn", "string", none⟩]
    (.forKey .constraint 0 "isbn" (.node (.toId "nl:1")) "p:0")

/-- A constraint of a label that is not in place is lost. -/
theorem name_lost_of_read_write_astray : ∃ (model : Model) (written : ReferenceGraph),
    (read (some astray.toJson) false).answer = .ok model ∧
      (write model none).answer = .ok written ∧
      ∃ rule ∈ astray.schema.constraints.getD [], rule.Anchored astray.schema ∧
        ∀ other ∈ written.schema.constraints.getD [], other.name ≠ rule.name := by
  let rule := Rule.forKey .constraint 0 "isbn" (.node (.toId "nl:1")) "p:0"
  have computed : (normalize none false (some astray.toJson)).answer.map (fun written =>
      (written.schema.constraints.getD []).map Rule.name) = .ok ["Book_constraint"] := by
    decide +kernel
  obtain ⟨written, once, names⟩ := Except.map_eq_ok_iff.1 computed
  obtain ⟨model, read, wrote⟩ := normalize_eq_ok_iff.1 once
  refine ⟨model, written, read, wrote, rule, List.mem_cons_self,
    ⟨_, rfl, _, List.mem_cons_self, rfl, by decide⟩, fun other member => ?_⟩
  have named := List.mem_map_of_mem (f := Rule.name) member
  rw [names, List.mem_singleton] at named
  rw [named]
  decide

end Retention
end PropertyGraph.ReferenceGraph

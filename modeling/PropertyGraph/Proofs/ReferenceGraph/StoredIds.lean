import PropertyGraph.Proofs.ReferenceGraph.Allocation
import PropertyGraph.Proofs.Validity

/-! Ids on their way from a document back into one. What is read from a definition is stored
with its id, whichever property is the key, and of the properties of a model that are stored
with an id the first is exported under it. -/
namespace PropertyGraph.ReferenceGraph

/-- The token of the property that has an id. -/
def EntityDef.tokenOf? (definition : EntityDef) (id : String) : Option String :=
  (definition.properties.find? (·.id = id)).map PropertyDef.token

/-- The definitions before and after a label's key, which is the first with the declared id, or
the first of all if none has it. -/
structure EntityDef.KeyedBetween (label : EntityDef) (declared : Option String)
    (before : List PropertyDef) (key : PropertyDef) (after : List PropertyDef) : Prop where
  split : label.properties = before ++ key :: after
  choice : (declared = some key.id ∧ ∀ other ∈ before, other.id ≠ key.id) ∨
    before = [] ∧ ∀ definition ∈ label.properties, declared ≠ some definition.id

def EntityDef.propertyIds (definitions : List EntityDef) : List String :=
  definitions.flatMap (·.properties.map PropertyDef.id)

def Schema.typesOf (schema : Schema) (objects : List RelationshipObject) : List EntityDef :=
  objects.flatMap fun object => (schema.relationshipTypes.find? (·.id = object.type.id)).toList

/-- The name of the first property that is stored with an id. -/
def storedName? (properties : List Property) (id : String) : Option String :=
  (properties.find? (·.storedId? = some id)).map Property.name

section Definitions

/-- The property of a definition: it has its token and its id. -/
structure PropertyDef.KeptBy (definition : PropertyDef) (property : Property) : Prop where
  name : property.name = definition.token
  storedId : property.storedId? = some definition.id

variable {definition : PropertyDef} {mapping : Option Mapping} {kind : SourceKind}
  {property : Property} {definitions : List PropertyDef} {properties : List Property}
  {id : String}

lemma PropertyDef.Becomes.keptBy (becomes : definition.Becomes mapping kind property)
    (nonEmpty : definition.id ≠ "") : definition.KeptBy property :=
  ⟨becomes.name, by simp [Property.storedId?, becomes.provenance, nonEmpty]⟩

lemma forall₂_keptBy (ids : ∀ definition ∈ definitions, definition.id ≠ "")
    (becomes : List.Forall₂ (fun definition property =>
      PropertyDef.Becomes definition mapping kind property) definitions properties) :
    List.Forall₂ PropertyDef.KeptBy definitions properties := by
  induction becomes with
  | nil => exact .nil
  | cons head _ ih =>
    rw [List.forall_mem_cons] at ids
    exact .cons (head.keptBy ids.1) (ih ids.2)

lemma map_name_of_keptBy (kept : List.Forall₂ PropertyDef.KeptBy definitions properties) :
    properties.map Property.name = definitions.map PropertyDef.token := by
  induction kept with
  | nil => rfl
  | cons head _ ih => simp [head.name, ih]

lemma storedName?_of_keptBy (kept : List.Forall₂ PropertyDef.KeptBy definitions properties)
    (id : String) :
    storedName? properties id = (definitions.find? (·.id = id)).map PropertyDef.token := by
  induction kept with
  | nil => rfl
  | @cons definition property _ _ head _ ih =>
    by_cases same : definition.id = id
    · simp [storedName?, head.storedId, head.name, same]
    · simpa [storedName?, head.storedId, same] using ih

lemma mem_ids_of_keptBy (kept : List.Forall₂ PropertyDef.KeptBy definitions properties)
    (member : property ∈ properties) (stored : property.storedId? = some id) :
    id ∈ definitions.map PropertyDef.id := by
  obtain ⟨definition, listed, keptBy⟩ := exists_mem_of_forall₂ kept member
  obtain rfl : definition.id = id := Option.some.inj (keptBy.storedId.symm.trans stored)
  exact List.mem_map_of_mem listed

variable {label : EntityDef} {strict : Bool} {bindings : Bindings} {node : Node}

lemma EntityDef.keyedBetween_of_chooseKey {declared : Option String} {choice : KeyChoice}
    (chosen : (label.chooseKey declared strict).answer = .ok choice) :
    ∃ before after, label.KeyedBetween declared before choice.key after ∧
      choice.others = before ++ after := by
  simp only [chooseKey] at chosen
  cases declaredKey : label.properties.find? fun definition =>
      declared = some definition.id with
  | some key =>
    simp only [declaredKey] at chosen
    cases chosen
    obtain ⟨holds, before, after, split, others⟩ := List.find?_eq_some_iff_append.1 declaredKey
    have known : declared = some key.id := of_decide_eq_true holds
    refine ⟨before, after, ⟨split, .inl ⟨known, fun other member same => ?_⟩⟩, ?_⟩
    · simpa [known, same] using others other member
    · rw [split, List.eraseP_append_right _ (by simpa using others)]
      simp [known]
  | none =>
    simp only [declaredKey] at chosen
    cases listed : label.properties with
    | nil =>
      rw [listed] at chosen
      cases chosen
    | cons first others =>
      rw [listed] at chosen
      cases strict
      · cases chosen
        refine ⟨[], others, ⟨listed, .inr ⟨rfl, fun definition member => ?_⟩⟩, rfl⟩
        simpa using List.find?_eq_none.1 declaredKey definition member
      · cases chosen

lemma EntityDef.split_of_chooseKey {declared : Option String} {choice : KeyChoice}
    (chosen : (label.chooseKey declared strict).answer = .ok choice) :
    ∃ before after, label.properties = before ++ choice.key :: after ∧
      choice.others = before ++ after ∧ ∀ other ∈ before, other.id ≠ choice.key.id := by
  obtain ⟨before, after, ⟨split, choice⟩, others⟩ := keyedBetween_of_chooseKey chosen
  refine ⟨before, after, split, others, ?_⟩
  rcases choice with ⟨-, first⟩ | ⟨rfl, -⟩
  · exact first
  · simp

lemma EntityDef.find?_of_chooseKey {declared : Option String} {choice : KeyChoice}
    (chosen : (label.chooseKey declared strict).answer = .ok choice) (id : String) :
    (choice.key :: choice.others).find? (·.id = id) = label.properties.find? (·.id = id) := by
  obtain ⟨before, after, split, others, first⟩ := split_of_chooseKey chosen
  rw [split, others]
  by_cases same : choice.key.id = id
  · subst same
    have none : before.find? (·.id = choice.key.id) = none :=
      List.find?_eq_none.2 fun other member => by simpa using first other member
    simp [List.find?_append, none]
  · simp [List.find?_append, same]

/-- The properties of a node come from the definitions of its label, the key's first. One is
lost only if it is named like the key. -/
lemma EntityDef.keptBy_of_toNode (ids : ∀ definition ∈ label.properties, definition.id ≠ "")
    (made : (label.toNode bindings strict).answer = .ok node) :
    ∃ declared choice properties, (label.chooseKey declared strict).answer = .ok choice ∧
      List.Forall₂ PropertyDef.KeptBy (choice.key :: choice.others) properties ∧
      node.allProperties.Sublist properties ∧
      ((properties.map Property.name).Nodup → node.allProperties = properties) := by
  simp only [answer_toNode, Except.bind_eq_ok_iff] at made
  obtain ⟨choice, hc, key, hk, others, ho, built⟩ := made
  obtain ⟨-, rfl⟩ := Node.build_eq_ok_iff.1 built
  obtain ⟨before, after, split, rest, -⟩ := split_of_chooseKey hc
  have listed : ∀ definition ∈ choice.key :: choice.others, definition.id ≠ "" := by
    intro definition member
    refine ids definition ?_
    rw [split]
    rwa [rest, ← List.perm_middle.mem_iff] at member
  refine ⟨_, choice, key :: others, hc, forall₂_keptBy listed
    (.cons (PropertyDef.becomes_of_toProperty hk) ?_), List.filter_sublist.cons_cons _,
    fun distinct => congrArg (key :: ·) (withoutKey_of_nodup distinct)⟩
  exact (Except.mapM_eq_ok_iff.1 ho).imp fun _ _ => PropertyDef.becomes_of_toProperty

lemma EntityDef.mem_ids_of_toNode (ids : ∀ definition ∈ label.properties, definition.id ≠ "")
    (made : (label.toNode bindings strict).answer = .ok node)
    (member : property ∈ node.allProperties) (stored : property.storedId? = some id) :
    id ∈ label.properties.map PropertyDef.id := by
  obtain ⟨_, choice, properties, chosen, kept, sublist, -⟩ := keptBy_of_toNode ids made
  obtain ⟨before, after, split, others, -⟩ := split_of_chooseKey chosen
  have listed := mem_ids_of_keptBy kept (sublist.subset member) stored
  rw [others, (List.perm_middle.map PropertyDef.id).symm.mem_iff] at listed
  rwa [split]

lemma EntityDef.storedName?_of_toNode (ids : ∀ definition ∈ label.properties, definition.id ≠ "")
    (made : (label.toNode bindings strict).answer = .ok node)
    (tokens : (label.properties.map PropertyDef.token).Nodup) (id : String) :
    storedName? node.allProperties id = label.tokenOf? id := by
  obtain ⟨_, choice, properties, chosen, kept, -, all⟩ := keptBy_of_toNode ids made
  obtain ⟨before, after, split, others, -⟩ := split_of_chooseKey chosen
  have names : (properties.map Property.name).Nodup := by
    rw [map_name_of_keptBy kept, others, (List.perm_middle.map _).symm.nodup_iff, ← split]
    exact tokens
  rw [all names, storedName?_of_keptBy kept, find?_of_chooseKey chosen, tokenOf?]

lemma RelationshipKind.keptBy_of_toRelationship {kind : RelationshipKind}
    {relationship : Relationship} (ids : ∀ definition ∈ kind.type.properties, definition.id ≠ "")
    (made : kind.toRelationship bindings = .ok relationship) :
    List.Forall₂ PropertyDef.KeptBy kind.type.properties relationship.allProperties := by
  obtain ⟨-, -, -, noKey, becomes⟩ := of_toRelationship made
  rw [Relationship.allProperties, noKey]
  exact forall₂_keptBy ids becomes

end Definitions

section Ids

variable {schema : Schema} {resolved : Resolved}

lemma nodup_of_checkIds {path : String} {ids : List String} {u : Unit}
    (checked : checkIds path ids = .ok u) : ids.Nodup := by
  unfold checkIds at checked
  split at checked
  · cases checked
  · rename_i none
    rw [List.find?_eq_none] at none
    refine nodup_of_not_mem_take fun i id here before => ?_
    exact none (id, i) (List.mem_zipIdx_iff_getElem?.2 here) (List.contains_iff_mem.2 before)

lemma Resolved.nodup_ids (made : ofSchema schema = .ok resolved) :
    (schema.nodeLabels.map EntityDef.id).Nodup ∧
      (schema.relationshipTypes.map EntityDef.id).Nodup := by
  simp only [ofSchema, Except.bind_eq_ok_iff] at made
  obtain ⟨_, labels, _, types, -⟩ := made
  exact ⟨nodup_of_checkIds labels, nodup_of_checkIds types⟩

lemma typesOf_eq {objects : List RelationshipObject} {kinds : List RelationshipKind}
    (distinct : (schema.relationshipTypes.map EntityDef.id).Nodup)
    (resolved : List.Forall₂ (RelationshipKind.Of schema) objects kinds) :
    schema.typesOf objects = kinds.map RelationshipKind.type := by
  induction resolved with
  | nil => rfl
  | cons head _ ih =>
    rw [Schema.typesOf, List.flatMap_cons, find?_of_mem distinct head.type.1 head.type.2]
    exact congrArg _ ih

end Ids

section Numbers

variable {bindings : Bindings} {strict : Bool} {id : String}

lemma not_stored_of_toNode {labels : List EntityDef} {entries : List NumberedNode}
    (fits : ∀ entry ∈ entries, entry.Fits)
    (made : List.Forall₂ (fun label entry =>
      (EntityDef.toNode bindings strict label).answer = .ok (NumberedNode.node entry))
        labels entries)
    (ids : ∀ label ∈ labels, ∀ definition ∈ label.properties, definition.id ≠ "")
    (unused : id ∉ EntityDef.propertyIds labels) :
    ∀ n ∈ entries.flatMap NumberedNode.properties, n.property.storedId? ≠ some id := by
  intro n member stored
  obtain ⟨entry, inside, listed⟩ := List.mem_flatMap.1 member
  obtain ⟨label, given, made⟩ := exists_mem_of_forall₂ made inside
  have own : n.property ∈ entry.node.allProperties :=
    (fits entry inside).map_property ▸ List.mem_map_of_mem listed
  exact unused (List.mem_flatMap.2 ⟨label, given,
    EntityDef.mem_ids_of_toNode (ids label given) made own stored⟩)

lemma not_stored_of_toRelationship {kinds : List RelationshipKind}
    {entries : List NumberedRelationship} {nodes : List NumberedNode}
    (fits : ∀ entry ∈ entries, entry.Fits nodes)
    (made : List.Forall₂ (fun kind entry =>
      RelationshipKind.toRelationship bindings kind =
        .ok (NumberedRelationship.relationship entry)) kinds entries)
    (ids : ∀ kind ∈ kinds, ∀ definition ∈ kind.type.properties, definition.id ≠ "")
    (unused : id ∉ EntityDef.propertyIds (kinds.map RelationshipKind.type)) :
    ∀ n ∈ entries.flatMap NumberedRelationship.properties,
      n.property.storedId? ≠ some id := by
  intro n member stored
  obtain ⟨entry, inside, listed⟩ := List.mem_flatMap.1 member
  obtain ⟨kind, given, made⟩ := exists_mem_of_forall₂ made inside
  have own : n.property ∈ entry.relationship.allProperties :=
    (fits entry inside).map_property ▸ List.mem_map_of_mem listed
  have kept := RelationshipKind.keptBy_of_toRelationship (ids kind given) made
  exact unused (List.mem_flatMap.2 ⟨kind.type, List.mem_map_of_mem given,
    mem_ids_of_keptBy kept own stored⟩)

variable {model : Model} {numbered : NumberedModel} {before own after : List Numbered}

/-- A definition is exported under the ids that its properties are the first to be stored
with. -/
lemma tokenOf?_of_first (made : NumberedModel.ofModel model = .ok numbered)
    (split : numbered.properties = before ++ (own ++ after))
    (first : ∀ n ∈ before, n.property.storedId? ≠ some id) {token : String}
    (stored : storedName? (own.map Numbered.property) id = some token) {exported : EntityDef}
    (defined : exported.properties = own.map Numbered.definition) :
    exported.tokenOf? id = some token := by
  obtain ⟨property, found, rfl⟩ := Option.map_eq_some_iff.1 stored
  rw [List.find?_map] at found
  obtain ⟨n, known, rfl⟩ := Option.map_eq_some_iff.1 found
  obtain ⟨holds, former, later, here, others⟩ := List.find?_eq_some_iff_append.1 known
  have whole : numbered.properties = (before ++ former) ++ n :: (later ++ after) := by
    simp [split, here]
  have kept : n.id = id := by
    refine NumberedModel.id_of_first made whole (by simpa using holds) ?_
    exact List.forall_mem_append.2 ⟨first, fun m member => by simpa using others m member⟩
  have ids : (exported.properties.map PropertyDef.id).Nodup := by
    have all := (NumberedModel.fits_of_ofModel made).distinct
    rw [← NumberedModel.map_id, split, List.map_append, List.map_append] at all
    rw [defined, List.map_map]
    exact (List.nodup_append.1 (List.nodup_append.1 all).2.1).1
  have member : n.definition ∈ exported.properties := by
    rw [defined]
    exact List.mem_map_of_mem (List.mem_of_find?_eq_some known)
  rw [EntityDef.tokenOf?, find?_of_mem ids member kept]
  rfl

end Numbers

end PropertyGraph.ReferenceGraph

import PropertyGraph.Proofs.ReferenceGraph.Imported
import PropertyGraph.Proofs.ReferenceGraph.Reread

/-! Which ids properties are exported under. All properties of a model are numbered in one
pass: a property keeps the id that it is stored with unless one before it is stored with the
same, and an id that is made up is none that a property is stored with. -/
namespace PropertyGraph.ReferenceGraph

namespace Ids

def takeAll (ids : Ids) : List Property → List String × Ids
  | [] => ([], ids)
  | property :: properties =>
    let (id, ids) := ids.take property
    let (rest, ids) := takeAll ids properties
    (id :: rest, ids)

variable {ids : Ids} {property : Property} {properties : List Property} {id : String}

lemma takeAll_append (ids : Ids) (first second : List Property) :
    ids.takeAll (first ++ second) =
      ((ids.takeAll first).1 ++ ((ids.takeAll first).2.takeAll second).1,
        ((ids.takeAll first).2.takeAll second).2) := by
  induction first generalizing ids with
  | nil => rfl
  | cons property rest ih => simp [takeAll, ih]

lemma hands_takeAll (ids : Ids) (properties : List Property) :
    ids.Hands (ids.takeAll properties).1 (ids.takeAll properties).2 := by
  induction properties generalizing ids with
  | nil => exact .nil ids
  | cons property rest ih => exact (Hands.take ids property).append (ih _)

lemma take_reserved (ids : Ids) (property : Property) :
    (ids.take property).2.reserved = ids.reserved := by
  unfold take
  split
  · split_ifs <;> rfl
  · rfl

lemma take_kept_or_fresh (ids : Ids) (property : Property) :
    property.storedId? = some (ids.take property).1 ∨ (ids.take property).1 ∉ ids.reserved := by
  unfold take
  split
  · rename_i id stored
    split_ifs
    · exact .inr ids.fresh_not_reserved
    · exact .inl stored
  · exact .inr ids.fresh_not_reserved

theorem takeAll_kept_or_fresh (ids : Ids) (properties : List Property) :
    List.Forall₂ (fun property id => Property.storedId? property = some id ∨ id ∉ ids.reserved)
      properties (ids.takeAll properties).1 := by
  induction properties generalizing ids with
  | nil => exact .nil
  | cons property rest ih =>
    refine .cons (ids.take_kept_or_fresh property) ?_
    have later := ih (ids.take property).2
    rwa [take_reserved] at later

theorem take_of_first (stored : property.storedId? = some id) (reserved : id ∈ ids.reserved)
    (unused : id ∉ ids.used) (first : ∀ p ∈ properties, p.storedId? ≠ some id) :
    ((ids.takeAll properties).2.take property).1 = id := by
  have others : id ∉ (ids.takeAll properties).1 := by
    intro taken
    obtain ⟨p, listed, kept | fresh⟩ :=
      exists_mem_of_forall₂ (ids.takeAll_kept_or_fresh properties) taken
    · exact first p listed kept
    · exact fresh reserved
  have free : id ∉ (ids.takeAll properties).2.used := by
    rw [(ids.hands_takeAll properties).used]
    simp [others, unused]
  rw [take_of_stored stored free]

end Ids

section Numbering

lemma takeAll_number (ids : Ids) (isKey : Bool) (properties : List Property) :
    ids.takeAll properties = ((number ids isKey properties).1.map Numbered.id,
      (number ids isKey properties).2) := by
  induction properties generalizing ids with
  | nil => rfl
  | cons property rest ih => simp [Ids.takeAll, number, ih]

lemma takeAll_numberNodes (ids : Ids) (index : Nat) (nodes : List Node) :
    ids.takeAll (nodes.flatMap Node.allProperties) =
      ((numberNodes ids index nodes).1.flatMap (·.properties.map Numbered.id),
        (numberNodes ids index nodes).2) := by
  induction nodes generalizing ids index with
  | nil => rfl
  | cons node rest ih =>
    have one : ids.takeAll node.allProperties =
        ((ids.take node.key).1 :: (number (ids.take node.key).2 false node.properties).1.map
          Numbered.id, (number (ids.take node.key).2 false node.properties).2) := by
      change ids.takeAll (node.key :: node.properties) = _
      simp only [Ids.takeAll, takeAll_number _ false]
    rw [List.flatMap_cons, Ids.takeAll_append, one, ih _ (index + 1)]
    simp [numberNodes, NumberedNode.properties]

lemma takeAll_numberRelationships {nodes : List NumberedNode} {ids : Ids} {index : Nat}
    {relationships : List Relationship} {entries : List NumberedRelationship}
    (numbered : numberRelationships nodes ids index relationships = .ok entries) :
    (ids.takeAll (relationships.flatMap Relationship.allProperties)).1 =
      entries.flatMap (·.properties.map Numbered.id) := by
  induction relationships generalizing ids index entries with
  | nil =>
    cases numbered
    rfl
  | cons relationship rest ih =>
    simp only [numberRelationships, Except.bind_eq_ok_iff] at numbered
    obtain ⟨start, -, finish, -, others, later, made⟩ := numbered
    cases made
    have key : (number ids true relationship.key.toList).1.head?.toList =
        (number ids true relationship.key.toList).1 := by
      cases relationship.key <;> rfl
    change (ids.takeAll ((relationship.key.toList ++ relationship.properties) ++
      rest.flatMap Relationship.allProperties)).1 = _
    simp only [Ids.takeAll_append, takeAll_number _ true relationship.key.toList,
      takeAll_number _ false relationship.properties, ih later, List.flatMap_cons,
      NumberedRelationship.properties, key, List.map_append]

def NumberedModel.properties (numbered : NumberedModel) : List Numbered :=
  numbered.nodes.flatMap NumberedNode.properties ++
    numbered.relationships.flatMap NumberedRelationship.properties

variable {model : Model} {numbered : NumberedModel}

lemma NumberedModel.map_id (numbered : NumberedModel) :
    numbered.properties.map Numbered.id = numbered.propertyIds := by
  simp [properties, propertyIds, List.map_flatMap]

lemma NumberedModel.Fits.map_property (fits : numbered.Fits model) :
    numbered.properties.map Numbered.property = propertiesOf model := by
  have nodes : numbered.nodes.flatMap (·.properties.map Numbered.property) =
      numbered.nodes.flatMap (·.node.allProperties) :=
    List.flatMap_congr fun entry member => (fits.eachNode entry member).map_property
  have relationships : numbered.relationships.flatMap (·.properties.map Numbered.property) =
      numbered.relationships.flatMap (·.relationship.allProperties) :=
    List.flatMap_congr fun entry member => (fits.eachRelationship entry member).map_property
  rw [properties, List.map_append, List.map_flatMap, List.map_flatMap, nodes, relationships,
    propertiesOf, ← fits.nodes, ← fits.relationships, List.flatMap_map, List.flatMap_map]

theorem NumberedModel.propertyIds_of_ofModel (made : ofModel model = .ok numbered) :
    numbered.propertyIds = ((Ids.ofModel model).takeAll (propertiesOf model)).1 := by
  simp only [ofModel, Except.bind_eq_ok_iff] at made
  obtain ⟨relationships, later, finish⟩ := made
  cases finish
  rw [propertiesOf, Ids.takeAll_append, takeAll_numberNodes _ 0,
    takeAll_numberRelationships later]
  rfl

lemma mem_storedIds {id : String} :
    id ∈ storedIds model ↔ ∃ property ∈ propertiesOf model, property.storedId? = some id := by
  simp [storedIds, List.mem_eraseDups]

/-- The id of a property is the stored one, or one that no property is stored with. -/
theorem NumberedModel.kept_or_fresh (made : ofModel model = .ok numbered) :
    ∀ n ∈ numbered.properties, n.property.storedId? = some n.id ∨ n.id ∉ storedIds model := by
  have related := (Ids.ofModel model).takeAll_kept_or_fresh (propertiesOf model)
  rw [← propertyIds_of_ofModel made, ← (fits_of_ofModel made).map_property, ← map_id,
    List.forall₂_map_left_iff, List.forall₂_map_right_iff, List.forall₂_same] at related
  exact related

/-- The first property that is stored with an id is exported under it. -/
theorem NumberedModel.id_of_first (made : ofModel model = .ok numbered)
    {before after : List Numbered} {n : Numbered}
    (split : numbered.properties = before ++ n :: after) {id : String}
    (stored : n.property.storedId? = some id)
    (first : ∀ m ∈ before, m.property.storedId? ≠ some id) : n.id = id := by
  have all : propertiesOf model =
      before.map Numbered.property ++ n.property :: after.map Numbered.property := by
    rw [← (fits_of_ofModel made).map_property, split, List.map_append, List.map_cons]
  have ids := propertyIds_of_ofModel made
  rw [← map_id, split, all, Ids.takeAll_append, List.map_append, List.map_cons] at ids
  have reserved : id ∈ storedIds model := mem_storedIds.2 ⟨n.property, by simp [all], stored⟩
  have taken : (((Ids.ofModel model).takeAll (before.map Numbered.property)).2.take
      n.property).1 = id :=
    Ids.take_of_first stored reserved List.not_mem_nil (List.forall_mem_map.2 first)
  have related := (Ids.ofModel model).takeAll_kept_or_fresh (before.map Numbered.property)
  have heads := (List.append_inj ids (by simpa using related.length_eq)).2
  exact (List.cons.inj heads).1.trans taken

end Numbering
end PropertyGraph.ReferenceGraph

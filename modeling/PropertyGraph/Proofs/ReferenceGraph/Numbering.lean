import PropertyGraph.Proofs.Edits
import PropertyGraph.ReferenceGraph.Export

/-! The numbering of a model. Ids of parts differ because their numbers do, and no property
id is handed out twice, whatever ids are stored. -/
namespace PropertyGraph.ReferenceGraph

lemma toString_injective : Function.Injective (toString : Nat → String) := by
  intro m n same
  have digits : Nat.toDigits 10 m = Nat.toDigits 10 n := by
    have texts : m.repr = n.repr := same
    rw [← Nat.toList_repr, ← Nat.toList_repr, texts]
  rw [← Nat.ofDigitChars_toDigits (b := 10) (n := m) (by decide) (by decide), digits,
    Nat.ofDigitChars_toDigits (by decide) (by decide)]

section Texts

variable (text : String)

lemma append_injective : Function.Injective (text ++ ·) := fun _ _ same => by
  simpa using same

lemma append_ne_empty {text : String} (h : text ≠ "") (rest : String) : text ++ rest ≠ "" := by
  simp [h]

end Texts

lemma freshId_injective : Function.Injective freshId :=
  (append_injective "p:").comp toString_injective

lemma nodeLabelId_injective : Function.Injective nodeLabelId :=
  (append_injective "nl:").comp toString_injective

lemma nodeKindId_injective : Function.Injective nodeKindId :=
  (append_injective "n:").comp toString_injective

lemma relationshipTypeId_injective : Function.Injective relationshipTypeId :=
  ((append_injective "rt:").comp toString_injective).comp (add_left_injective 1)

lemma relationshipKindId_injective : Function.Injective relationshipKindId :=
  ((append_injective "r:").comp toString_injective).comp (add_left_injective 1)

namespace Ids

lemma isTaken_of_firstFree (ids : Ids) {tries number : Nat}
    (h : ids.isTaken (freshId (ids.firstFree tries number)) = true) :
    ∀ i ≤ tries, ids.isTaken (freshId (number + i)) = true := by
  induction tries generalizing number with
  | zero =>
    intro i hi
    obtain rfl : i = 0 := by omega
    exact h
  | succ tries ih =>
    rw [firstFree] at h
    split_ifs at h with taken
    · intro i hi
      rcases i with - | i
      · exact taken
      · have later := ih h i (by omega)
        rwa [show number + (i + 1) = number + 1 + i by omega]
    · exact absurd h taken

/-- There are more numbers to try than ids taken, so one of them is free. -/
theorem fresh_not_taken (ids : Ids) : ids.isTaken ids.fresh.1 = false := by
  by_contra taken
  rw [Bool.not_eq_false] at taken
  have all := ids.isTaken_of_firstFree taken
  -- One more number has been tried than ids are taken, and fresh ids differ.
  let tried := (List.range (ids.reserved.length + ids.used.length + 1)).map fun i =>
    freshId (ids.next + i)
  have distinct : tried.Nodup :=
    List.nodup_range.map (freshId_injective.comp (add_right_injective ids.next))
  have inside : tried ⊆ ids.reserved ++ ids.used := by
    intro id member
    obtain ⟨i, hi, rfl⟩ := List.mem_map.1 member
    have found := all i (by have := List.mem_range.1 hi; omega)
    simpa [isTaken] using found
  have bound := (distinct.subperm inside).length_le
  simp only [tried, List.length_map, List.length_range, List.length_append] at bound
  omega

lemma isTaken_eq_false_iff {ids : Ids} {id : String} :
    ids.isTaken id = false ↔ id ∉ ids.reserved ∧ id ∉ ids.used := by
  simp [isTaken]

lemma fresh_not_reserved (ids : Ids) : ids.fresh.1 ∉ ids.reserved :=
  (isTaken_eq_false_iff.1 ids.fresh_not_taken).1

lemma fresh_not_used (ids : Ids) : ids.fresh.1 ∉ ids.used :=
  (isTaken_eq_false_iff.1 ids.fresh_not_taken).2

lemma fresh_ne_empty (ids : Ids) : ids.fresh.1 ≠ "" := append_ne_empty (by decide) _

/-- What taking an id does: it is new, it says something, and it is noted. -/
theorem take_spec (ids : Ids) (property : Property) :
    (ids.take property).1 ∉ ids.used ∧ (ids.take property).1 ≠ "" ∧
      (ids.take property).2.used = (ids.take property).1 :: ids.used := by
  unfold take
  split
  · rename_i id stored
    split_ifs with used
    · exact ⟨ids.fresh_not_used, ids.fresh_ne_empty, rfl⟩
    · have text : id ≠ "" := by
        have kept := (Option.filter_eq_some_iff.1 stored).2
        simpa using kept
      exact ⟨by simpa using used, text, rfl⟩
  · exact ⟨ids.fresh_not_used, ids.fresh_ne_empty, rfl⟩

lemma take_of_stored {ids : Ids} {property : Property} {id : String}
    (stored : property.storedId? = some id) (unused : id ∉ ids.used) :
    ids.take property = (id, { ids with used := id :: ids.used }) := by
  simp [take, stored, unused]

/-- Ids handed out one after the other: each says something and none has been used before. -/
structure Hands (ids : Ids) (handed : List String) (after : Ids) : Prop where
  used : after.used = handed.reverse ++ ids.used
  nonEmpty : ∀ id ∈ handed, id ≠ ""
  distinct : handed.Nodup
  unused : ∀ id ∈ handed, id ∉ ids.used

namespace Hands

variable {ids middle after : Ids} {first second : List String}

lemma nil (ids : Ids) : ids.Hands [] ids := ⟨rfl, by simp, .nil, by simp⟩

lemma take (ids : Ids) (property : Property) :
    ids.Hands [(ids.take property).1] (ids.take property).2 := by
  obtain ⟨unused, nonEmpty, used⟩ := ids.take_spec property
  exact ⟨by simp [used], by simpa using nonEmpty, by simp, by simpa using unused⟩

lemma append (h : ids.Hands first middle) (h' : middle.Hands second after) :
    ids.Hands (first ++ second) after := by
  have apart : ∀ id ∈ second, id ∉ first ∧ id ∉ ids.used := by
    intro id member
    have unused := h'.unused id member
    rw [h.used] at unused
    simpa using unused
  refine ⟨by rw [h'.used, h.used]; simp, ?_, ?_, ?_⟩
  · exact List.forall_mem_append.2 ⟨h.nonEmpty, h'.nonEmpty⟩
  · refine List.Nodup.append h.distinct h'.distinct ?_
    exact fun id inFirst inSecond => (apart id inSecond).1 inFirst
  · exact List.forall_mem_append.2 ⟨h.unused, fun id member => (apart id member).2⟩

end Hands
end Ids

structure Numbers (isKey : Bool) (properties : List Property) (numbered : List Numbered) :
    Prop where
  properties : numbered.map Numbered.property = properties
  areKeys : ∀ n ∈ numbered, n.isKey = isKey

structure NumberedNode.Fits (entry : NumberedNode) : Prop where
  key : entry.key.property = entry.node.key
  isKey : entry.key.isKey = true
  others : Numbers false entry.node.properties entry.others

/-- The properties of a relationship with their ids, and the nodes at its ends. -/
structure NumberedRelationship.Fits (nodes : List NumberedNode) (entry : NumberedRelationship) :
    Prop where
  key : Numbers true entry.relationship.key.toList entry.key.toList
  others : Numbers false entry.relationship.properties entry.others
  start : endNode nodes entry.relationship.startLabel = .ok entry.start
  finish : endNode nodes entry.relationship.endLabel = .ok entry.finish

def NumberedModel.propertyIds (numbered : NumberedModel) : List String :=
  numbered.nodes.flatMap (·.properties.map Numbered.id) ++
    numbered.relationships.flatMap (·.properties.map Numbered.id)

/-- A model with numbers: every entity at its position, and every property with an id of its
own. -/
structure NumberedModel.Fits (model : Model) (numbered : NumberedModel) : Prop where
  nodes : numbered.nodes.map NumberedNode.node = model.nodes
  nodeIndexes : numbered.nodes.map NumberedNode.index = List.range model.nodes.length
  eachNode : ∀ entry ∈ numbered.nodes, entry.Fits
  relationships : numbered.relationships.map NumberedRelationship.relationship =
    model.relationships
  relationshipIndexes : numbered.relationships.map NumberedRelationship.index =
    List.range model.relationships.length
  eachRelationship : ∀ entry ∈ numbered.relationships, entry.Fits numbered.nodes
  distinct : numbered.propertyIds.Nodup
  nonEmpty : ∀ id ∈ numbered.propertyIds, id ≠ ""

/-- A valid model with numbers. -/
structure NumberedModel.FitsValid (model : Model) (numbered : NumberedModel) : Prop
    extends numbered.Fits model where
  valid : model.Valid

lemma NumberedModel.Fits.node_id_ne_empty {model : Model} {numbered : NumberedModel}
    (fits : numbered.Fits model) {entry : NumberedNode} (member : entry ∈ numbered.nodes) :
    ∀ n ∈ entry.properties, n.id ≠ "" := fun n inside =>
  fits.nonEmpty n.id (List.mem_append_left _
    (List.mem_flatMap.2 ⟨entry, member, List.mem_map_of_mem inside⟩))

lemma NumberedModel.Fits.relationship_id_ne_empty {model : Model} {numbered : NumberedModel}
    (fits : numbered.Fits model) {entry : NumberedRelationship}
    (member : entry ∈ numbered.relationships) : ∀ n ∈ entry.properties, n.id ≠ "" :=
  fun n inside => fits.nonEmpty n.id (List.mem_append_right _
    (List.mem_flatMap.2 ⟨entry, member, List.mem_map_of_mem inside⟩))

lemma number_spec (ids : Ids) (isKey : Bool) (properties : List Property) :
    Numbers isKey properties (number ids isKey properties).1 ∧
      ids.Hands ((number ids isKey properties).1.map Numbered.id)
        (number ids isKey properties).2 := by
  induction properties generalizing ids with
  | nil => exact ⟨⟨rfl, by simp [number]⟩, .nil ids⟩
  | cons property rest ih =>
    obtain ⟨⟨same, keys⟩, hands⟩ := ih (ids.take property).2
    simp only [number]
    refine ⟨⟨by simp [same], ?_⟩, (Ids.Hands.take ids property).append hands⟩
    simpa using keys

lemma numberNodes_spec (ids : Ids) (index : Nat) (nodes : List Node) :
    (numberNodes ids index nodes).1.map NumberedNode.node = nodes ∧
      (numberNodes ids index nodes).1.map NumberedNode.index = List.range' index nodes.length ∧
      (∀ entry ∈ (numberNodes ids index nodes).1, entry.Fits) ∧
      ids.Hands ((numberNodes ids index nodes).1.flatMap (·.properties.map Numbered.id))
        (numberNodes ids index nodes).2 := by
  induction nodes generalizing ids index with
  | nil => exact ⟨rfl, rfl, by simp [numberNodes], .nil ids⟩
  | cons node rest ih =>
    obtain ⟨numbers, others⟩ := number_spec (ids.take node.key).2 false node.properties
    obtain ⟨same, indexes, fits, hands⟩ :=
      ih (number (ids.take node.key).2 false node.properties).2 (index + 1)
    simp only [numberNodes]
    refine ⟨by simp [same], by simp [indexes, List.range'_succ], ?_, ?_⟩
    · exact List.forall_mem_cons.2 ⟨⟨rfl, rfl, numbers⟩, fits⟩
    · exact ((Ids.Hands.take ids node.key).append others).append hands

lemma numberRelationships_spec {nodes : List NumberedNode} {ids : Ids} {index : Nat}
    {relationships : List Relationship} {entries : List NumberedRelationship}
    (numbered : numberRelationships nodes ids index relationships = .ok entries) :
    entries.map NumberedRelationship.relationship = relationships ∧
      entries.map NumberedRelationship.index = List.range' index relationships.length ∧
      (∀ entry ∈ entries, entry.Fits nodes) ∧
      ∃ after, ids.Hands (entries.flatMap (·.properties.map Numbered.id)) after := by
  induction relationships generalizing ids index entries with
  | nil =>
    cases numbered
    exact ⟨rfl, rfl, by simp, ids, .nil ids⟩
  | cons relationship rest ih =>
    simp only [numberRelationships, Except.bind_eq_ok_iff] at numbered
    obtain ⟨start, hs, finish, hf, others, ho, made⟩ := numbered
    cases made
    obtain ⟨keys, first⟩ := number_spec ids true relationship.key.toList
    obtain ⟨numbers, second⟩ :=
      number_spec (number ids true relationship.key.toList).2 false relationship.properties
    obtain ⟨same, indexes, fits, after, third⟩ := ih ho
    have one : (number ids true relationship.key.toList).1.head?.toList =
        (number ids true relationship.key.toList).1 := by
      cases relationship.key <;> rfl
    refine ⟨by simp [same], by simp [indexes, List.range'_succ], ?_, after, ?_⟩
    · exact List.forall_mem_cons.2 ⟨⟨by rw [one]; exact keys, numbers, hs, hf⟩, fits⟩
    · have hands := (first.append second).append third
      simpa [NumberedRelationship.properties, one] using hands

theorem NumberedModel.fits_of_ofModel {model : Model} {numbered : NumberedModel}
    (made : ofModel model = .ok numbered) : numbered.Fits model := by
  simp only [ofModel, Except.bind_eq_ok_iff] at made
  obtain ⟨relationships, hr, finish⟩ := made
  cases finish
  obtain ⟨nodes, nodeIndexes, eachNode, first⟩ := numberNodes_spec (.ofModel model) 0 model.nodes
  obtain ⟨same, indexes, each, after, second⟩ := numberRelationships_spec hr
  have hands := first.append second
  exact ⟨nodes, by rw [nodeIndexes, List.range_eq_range'], eachNode, same,
    by rw [indexes, List.range_eq_range'], each, hands.distinct, hands.nonEmpty⟩

lemma exists_endNode {nodes : List NumberedNode} {label : String}
    (h : label ∈ nodes.map (·.node.label)) : ∃ entry, endNode nodes label = .ok entry := by
  obtain ⟨entry, member, same⟩ := List.mem_map.1 h
  have found : (nodes.find? (·.node.label = label)).isSome := by
    simpa using ⟨entry, member, same⟩
  obtain ⟨first, hfirst⟩ := Option.isSome_iff_exists.1 found
  exact ⟨first, by rw [endNode, hfirst]⟩

lemma exists_numberRelationships {nodes : List NumberedNode} {relationships : List Relationship}
    (ends : ∀ r ∈ relationships, r.startLabel ∈ nodes.map (·.node.label) ∧
      r.endLabel ∈ nodes.map (·.node.label)) (ids : Ids) (index : Nat) :
    ∃ entries, numberRelationships nodes ids index relationships = .ok entries := by
  induction relationships generalizing ids index with
  | nil => exact ⟨[], rfl⟩
  | cons relationship rest ih =>
    obtain ⟨start, hs⟩ := exists_endNode (ends relationship (by simp)).1
    obtain ⟨finish, hf⟩ := exists_endNode (ends relationship (by simp)).2
    obtain ⟨entries, he⟩ := ih (fun r member => ends r (by simp [member]))
      (number (number ids true relationship.key.toList).2 false relationship.properties).2
      (index + 1)
    exact ⟨_, by simp only [numberRelationships, hs, hf, he]; rfl⟩

theorem NumberedModel.exists_ofModel {model : Model} (valid : model.Valid) :
    ∃ numbered, ofModel model = .ok numbered := by
  let numbered := numberNodes (.ofModel model) 0 model.nodes
  have nodes : numbered.1.map NumberedNode.node = model.nodes :=
    (numberNodes_spec (.ofModel model) 0 model.nodes).1
  have labels : numbered.1.map (·.node.label) = model.labels := by
    simpa [Model.labels, Function.comp_def] using congrArg (List.map Node.label) nodes
  have ends : ∀ r ∈ model.relationships, r.startLabel ∈ numbered.1.map (·.node.label) ∧
      r.endLabel ∈ numbered.1.map (·.node.label) := by
    rw [labels]
    exact valid.ends
  obtain ⟨entries, he⟩ := exists_numberRelationships ends numbered.2 0
  exact ⟨⟨numbered.1, entries⟩, by simp only [ofModel, numbered] at he ⊢; rw [he]; rfl⟩

end PropertyGraph.ReferenceGraph

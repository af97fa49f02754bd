import PropertyGraph.Proofs.Diagram.Acceptance

/-! Which boxes an arrow is attached to. An id is looked up in the last box that has it. So where
boxes share an id, an arrow to it is attached to one of them, and nothing is said of the others. -/
namespace PropertyGraph.Diagram

/-- What an arrow that names an id is attached to: the label of the last box with the id, which
is that of all of them exactly if there is no other. -/
structure Attached (boxes : List Box) (id label : String) : Prop where
  last : labelOf? boxes id = some label
  all : (∀ box ∈ boxes, box.id = id → box.label = label) ↔ boxes.countP (·.id = id) = 1

section Boxes

variable {boxes : List Box} {id label : String}

lemma attached_of_labelOf? (distinct : (boxes.map Box.label).Nodup)
    (known : labelOf? boxes id = some label) : Attached boxes id label := by
  obtain ⟨last, member, same, named⟩ := exists_of_labelOf? known
  have listed : last ∈ boxes.filter (·.id = id) := by simp [member, same]
  refine ⟨known, ?_⟩
  rw [List.countP_eq_length_filter]
  constructor
  · intro all
    have labels : (boxes.filter (·.id = id)).map Box.label =
        List.replicate (boxes.filter (·.id = id)).length label := by
      refine List.map_eq_replicate_iff.2 fun box inside => ?_
      obtain ⟨member, same⟩ := List.mem_filter.1 inside
      exact all box member (of_decide_eq_true same)
    have few : ((boxes.filter (·.id = id)).map Box.label).Nodup :=
      distinct.sublist (List.filter_sublist.map Box.label)
    rw [labels, List.nodup_replicate] at few
    have some := List.length_pos_of_mem listed
    omega
  · intro single box member' same'
    obtain ⟨only, alone⟩ := List.length_eq_one_iff.1 single
    have listed' : box ∈ boxes.filter (·.id = id) := by simp [member', same']
    rw [alone, List.mem_singleton] at listed listed'
    rw [listed', ← listed, named]

end Boxes

lemma Box.label_of_toNode {box : Box} {node : Node} (made : box.toNode = .ok node) :
    node.label = box.label := by
  obtain ⟨⟨key, others⟩, -, made⟩ := Except.bind_eq_ok_iff.1 made
  cases key with
  | none => cases made
  | some key =>
    rw [(Node.build_eq_ok_iff.1 made).2]

lemma Arrow.labels_of_toRelationship {boxes : List Box} {index : Nat} {arrow : Arrow}
    {relationship : Relationship} (made : arrow.toRelationship boxes index = .ok relationship) :
    labelOf? boxes arrow.fromId = some relationship.startLabel ∧
      labelOf? boxes arrow.toId = some relationship.endLabel := by
  simp only [toRelationship, Except.bind_eq_ok_iff, endLabel_eq_ok_iff] at made
  obtain ⟨start, known, finish, found, parts, -, built⟩ := made
  obtain ⟨-, rfl⟩ := Relationship.build_eq_ok_iff.1 built
  exact ⟨known, found⟩

/-- Every relationship that is read is attached as its arrow says, at both ends. Exactly where
boxes share an id, this leaves one of them out. -/
theorem attached_of_read {document : Option Json} {model : Model}
    (shown : (read document).answer = .ok model) :
    ∃ json, Document.check shape document "diagram document" = .ok json ∧
      List.Forall₂ (fun (arrow : Arrow) relationship =>
        Attached (ofJson json).boxes arrow.fromId relationship.startLabel ∧
          Attached (ofJson json).boxes arrow.toId relationship.endLabel)
        (ofJson json).arrows model.relationships := by
  rw [answer_read] at shown
  obtain ⟨json, checked, made⟩ := Except.bind_eq_ok_iff.1 shown
  simp only [toModel, Except.bind_eq_ok_iff] at made
  obtain ⟨nodes, hn, relationships, hr, built⟩ := made
  obtain ⟨consistent, rfl⟩ := Model.build_eq_ok_iff.1 built
  have labels : nodes.map Node.label = (ofJson json).boxes.map Box.label :=
    map_eq_map_of_forall₂ (fun _ _ made => Box.label_of_toNode made) (Except.mapM_eq_ok_iff.1 hn)
  have distinct := labels ▸ consistent.labelsOnce
  refine ⟨json, checked, Except.forall₂_of_mapM_zipIdx (fun arrow index relationship made => ?_) hr⟩
  obtain ⟨start, finish⟩ := Arrow.labels_of_toRelationship made
  exact ⟨attached_of_labelOf? distinct start, attached_of_labelOf? distinct finish⟩

/-- Two boxes that share an id, a third one, and an arrow from the shared id. -/
def twinsDocument : Json :=
  toJson ⟨[⟨"n0", ["Author"], [("id", "STRING | KEY")], none, none, none⟩,
      ⟨"n0", ["Editor"], [("id", "STRING | KEY")], none, none, none⟩,
      ⟨"n1", ["Book"], [("isbn", "STRING | KEY")], none, none, none⟩],
    [⟨"n0", "n1", "WROTE", [], none⟩], none⟩

theorem attached_of_read_twins : ∃ model json,
    (read (some twinsDocument)).answer = .ok model ∧
      Document.check shape (some twinsDocument) "diagram document" = .ok json ∧
      List.Forall₂ (fun (arrow : Arrow) relationship =>
        Attached (ofJson json).boxes arrow.fromId relationship.startLabel ∧
          Attached (ofJson json).boxes arrow.toId relationship.endLabel)
        (ofJson json).arrows model.relationships := by
  have answers : (read (some twinsDocument)).answer.isOk = true := by decide +kernel
  obtain ⟨model, shown⟩ := Except.exists_of_isOk answers
  obtain ⟨json, attached⟩ := attached_of_read shown
  exact ⟨model, json, shown, attached⟩

/-- The arrow of the twins starts at the second of them only, and the first is not refused. -/
theorem not_attached_of_read_twins : ∃ json model arrow relationship box,
    Document.check shape (some twinsDocument) "diagram document" = .ok json ∧
      (read (some twinsDocument)).answer = .ok model ∧
      (ofJson json).arrows[0]? = some arrow ∧ model.relationships[0]? = some relationship ∧
      box ∈ (ofJson json).boxes ∧ box.id = arrow.fromId ∧
      box.labels.head? = some "Author" ∧ relationship.startLabel = "Editor" := by
  have checked : Document.check shape (some twinsDocument) "diagram document" =
      .ok twinsDocument := by decide +kernel
  have computed : (read (some twinsDocument)).answer.map (fun model =>
      model.relationships.map Relationship.startLabel) = .ok ["Editor"] := by decide +kernel
  obtain ⟨model, shown, starts⟩ := Except.map_eq_ok_iff.1 computed
  obtain ⟨relationship, rest, split, start, -⟩ := List.map_eq_cons_iff.1 starts
  exact ⟨_, model, ⟨"n0", "n1", "WROTE", [], none⟩, relationship,
    ⟨"n0", ["Author"], [("id", "STRING | KEY")], none, none, none⟩, checked, shown,
    by decide +kernel, by rw [split]; rfl, by decide +kernel, rfl, rfl, start⟩

end PropertyGraph.Diagram

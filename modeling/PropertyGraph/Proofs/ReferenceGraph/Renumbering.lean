import PropertyGraph.Proofs.ReferenceGraph.Reread

/-! Numbering a model that has been reread. Its stored ids are all different, so every
property keeps its id, and the numbering is the one that the model came from. -/
namespace PropertyGraph.ReferenceGraph

def KeepsIds (properties : List Numbered) : Prop :=
  ∀ n ∈ properties, n.property.storedId? = some n.id

/-- Ids of their own that have not been handed out yet. -/
structure Ids.Free (ids : Ids) (fresh : List String) : Prop where
  distinct : fresh.Nodup
  unused : ∀ id ∈ fresh, id ∉ ids.used

def Ids.handOut (ids : Ids) (handed : List String) : Ids :=
  { ids with used := handed.reverse ++ ids.used }

namespace Ids.Free

variable {ids : Ids} {first second : List String}

lemma left (h : ids.Free (first ++ second)) : ids.Free first :=
  ⟨h.distinct.of_append_left, fun id member => h.unused id (by simp [member])⟩

lemma right (h : ids.Free (first ++ second)) : (ids.handOut first).Free second := by
  refine ⟨h.distinct.of_append_right, fun id member => ?_⟩
  have apart : id ∉ first := fun other =>
    (List.disjoint_of_nodup_append h.distinct) other member
  simpa [Ids.handOut, apart] using h.unused id (by simp [member])

end Ids.Free

lemma Ids.handOut_append (ids : Ids) (first second : List String) :
    (ids.handOut first).handOut second = ids.handOut (first ++ second) := by
  simp [Ids.handOut]

lemma Ids.take_of_free {ids : Ids} {property : Property} {id : String}
    (stored : property.storedId? = some id) (free : ids.Free [id]) :
    ids.take property = (id, ids.handOut [id]) :=
  Ids.take_of_stored stored (free.unused id (by simp))

lemma number_of_stored {isKey : Bool} {entries : List Numbered} (stored : KeepsIds entries)
    (areKeys : ∀ n ∈ entries, n.isKey = isKey) {ids : Ids}
    (free : ids.Free (entries.map Numbered.id)) :
    number ids isKey (entries.map Numbered.property) =
      (entries, ids.handOut (entries.map Numbered.id)) := by
  induction entries generalizing ids with
  | nil => rfl
  | cons n rest ih =>
    obtain rfl : n.isKey = isKey := areKeys n (by simp)
    have split : ids.Free ([n.id] ++ rest.map Numbered.id) := free
    have taken := Ids.take_of_free (stored n (by simp)) split.left
    have later := ih (fun m member => stored m (by simp [member]))
      (fun m member => areKeys m (by simp [member])) split.right
    simp only [List.map_cons, number, taken, later, Ids.handOut_append, List.singleton_append]

lemma numberNodes_of_stored {entries : List NumberedNode} (fits : ∀ e ∈ entries, e.Fits)
    (stored : ∀ e ∈ entries, KeepsIds e.properties) {start : Nat}
    (indexes : entries.map NumberedNode.index = List.range' start entries.length) {ids : Ids}
    (free : ids.Free (entries.flatMap (·.properties.map Numbered.id))) :
    numberNodes ids start (entries.map NumberedNode.node) =
      (entries, ids.handOut (entries.flatMap (·.properties.map Numbered.id))) := by
  -- What is still to be handed out stays free, since all ids that are left differ.
  induction entries generalizing ids start with
  | nil => rfl
  | cons e rest ih =>
    have fit := fits e (by simp)
    have keeps := stored e (by simp)
    have split : ids.Free (([e.key.id] ++ e.others.map Numbered.id) ++
        rest.flatMap (·.properties.map Numbered.id)) := free
    have taken : ids.take e.node.key = (e.key.id, ids.handOut [e.key.id]) :=
      Ids.take_of_free (fit.key ▸ keeps e.key (by simp [NumberedNode.properties])) split.left.left
    have others : number (ids.handOut [e.key.id]) false e.node.properties =
        (e.others, (ids.handOut [e.key.id]).handOut (e.others.map Numbered.id)) := by
      rw [← fit.others.properties]
      exact number_of_stored (fun n member => keeps n (by simp [NumberedNode.properties, member]))
        fit.others.areKeys split.left.right
    rw [List.map_cons, List.length_cons, List.range'_succ, List.cons.injEq] at indexes
    have later := ih (fun e member => fits e (by simp [member]))
      (fun e member => stored e (by simp [member])) indexes.2 split.right
    have whole : e = ⟨start, e.node, ⟨e.key.id, e.node.key, true⟩, e.others⟩ := by
      rw [← indexes.1, ← fit.key, ← fit.isKey]
    simp only [List.map_cons, numberNodes, taken, others, Ids.handOut_append]
    rw [later, ← whole, Ids.handOut_append]
    rfl

lemma numberRelationships_of_stored {nodes : List NumberedNode}
    {entries : List NumberedRelationship} (fits : ∀ e ∈ entries, e.Fits nodes)
    (stored : ∀ e ∈ entries, KeepsIds e.properties) {start : Nat}
    (indexes : entries.map NumberedRelationship.index = List.range' start entries.length)
    {ids : Ids} (free : ids.Free (entries.flatMap (·.properties.map Numbered.id))) :
    numberRelationships nodes ids start (entries.map NumberedRelationship.relationship) =
      .ok entries := by
  induction entries generalizing ids start with
  | nil => rfl
  | cons e rest ih =>
    have fit := fits e (by simp)
    have keeps := stored e (by simp)
    have split : ids.Free ((e.key.toList.map Numbered.id ++ e.others.map Numbered.id) ++
        rest.flatMap (·.properties.map Numbered.id)) := by
      simpa [NumberedRelationship.properties] using free
    have key : number ids true e.relationship.key.toList =
        (e.key.toList, ids.handOut (e.key.toList.map Numbered.id)) := by
      rw [← fit.key.properties]
      refine number_of_stored (fun n member => keeps n ?_) fit.key.areKeys split.left.left
      exact List.mem_append_left _ member
    have others : number (ids.handOut (e.key.toList.map Numbered.id)) false
        e.relationship.properties = (e.others,
          (ids.handOut (e.key.toList.map Numbered.id)).handOut (e.others.map Numbered.id)) := by
      rw [← fit.others.properties]
      refine number_of_stored (fun n member => keeps n ?_) fit.others.areKeys split.left.right
      exact List.mem_append_right _ member
    rw [List.map_cons, List.length_cons, List.range'_succ, List.cons.injEq] at indexes
    have later := ih (fun e member => fits e (by simp [member]))
      (fun e member => stored e (by simp [member])) indexes.2 split.right
    have whole : e = ⟨start, e.relationship, e.key.toList.head?, e.others, e.start, e.finish⟩ := by
      rw [← indexes.1, Option.head?_toList]
    simp only [List.map_cons, numberRelationships, fit.start, fit.finish, key, others,
      Ids.handOut_append] at later ⊢
    rw [later]
    change Except.ok (⟨start, e.relationship, e.key.toList.head?, e.others, e.start, e.finish⟩ ::
      rest) = .ok (e :: rest)
    rw [← whole]

theorem NumberedModel.ofModel_of_stored {model : Model} {numbered : NumberedModel}
    (fits : numbered.Fits model) (nodes : ∀ e ∈ numbered.nodes, KeepsIds e.properties)
    (relationships : ∀ e ∈ numbered.relationships, KeepsIds e.properties) :
    ofModel model = .ok numbered := by
  have free : (Ids.ofModel model).Free numbered.propertyIds :=
    ⟨fits.distinct, fun _ _ => by simp [Ids.ofModel, Ids.start]⟩
  have nodeIndexes : numbered.nodes.map NumberedNode.index =
      List.range' 0 numbered.nodes.length := by
    rw [fits.nodeIndexes, ← fits.nodes, List.length_map, List.range_eq_range']
  have indexes : numbered.relationships.map NumberedRelationship.index =
      List.range' 0 numbered.relationships.length := by
    rw [fits.relationshipIndexes, ← fits.relationships, List.length_map, List.range_eq_range']
  have first := numberNodes_of_stored fits.eachNode nodes nodeIndexes free.left
  have second :=
    numberRelationships_of_stored fits.eachRelationship relationships indexes free.right
  rw [fits.nodes] at first
  rw [fits.relationships] at second
  simp only [ofModel, first, second]
  rfl

def Numbered.again (kind : SourceKind) (table : String) (isKey : Bool) (n : Numbered) : Numbered :=
  ⟨n.id, n.reread kind table, isKey⟩

def NumberedNode.again (grid : Grid) (kind : SourceKind) (entry : NumberedNode) :
    NumberedNode where
  index := entry.index
  node := entry.reread grid kind
  key := entry.key.again kind entry.tableName true
  others := entry.others.map (Numbered.again kind entry.tableName false)

def NumberedRelationship.again (grid : Grid) (kind : SourceKind) (entry : NumberedRelationship) :
    NumberedRelationship where
  index := entry.index
  relationship := entry.reread kind
  key := none
  others := entry.properties.map (Numbered.again kind entry.tableName false)
  start := entry.start.again grid kind
  finish := entry.finish.again grid kind

def NumberedModel.again (grid : Grid) (kind : SourceKind) (numbered : NumberedModel) :
    NumberedModel :=
  ⟨numbered.nodes.map (NumberedNode.again grid kind),
    numbered.relationships.map (NumberedRelationship.again grid kind)⟩

section Again

variable {model : Model} {numbered : NumberedModel} {grid : Grid} {kind : SourceKind}

lemma NumberedNode.again_ids (entry : NumberedNode) :
    (entry.again grid kind).properties.map Numbered.id = entry.properties.map Numbered.id := by
  simp [again, properties, Numbered.again, Function.comp_def]

lemma NumberedRelationship.again_ids (entry : NumberedRelationship) :
    (entry.again grid kind).properties.map Numbered.id = entry.properties.map Numbered.id := by
  simp [again, properties, Numbered.again, Function.comp_def]

lemma NumberedModel.again_propertyIds :
    (numbered.again grid kind).propertyIds = numbered.propertyIds := by
  simp only [propertyIds, again, List.flatMap_map, NumberedNode.again_ids,
    NumberedRelationship.again_ids]

lemma numbers_again (table : String) (properties : List Numbered) :
    Numbers false (properties.map (Numbered.reread kind table))
      (properties.map (Numbered.again kind table false)) := by
  refine ⟨by simp [Function.comp_def, Numbered.again], fun n member => ?_⟩
  obtain ⟨m, -, rfl⟩ := List.mem_map.1 member
  rfl

lemma NumberedNode.again_fits (entry : NumberedNode) : (entry.again grid kind).Fits :=
  ⟨rfl, rfl, numbers_again _ _⟩

lemma endNode_again {nodes : List NumberedNode} {label : String} {entry : NumberedNode}
    (found : endNode nodes label = .ok entry) :
    endNode (nodes.map (NumberedNode.again grid kind)) label = .ok (entry.again grid kind) := by
  unfold endNode at found ⊢
  rw [List.find?_map]
  split at found
  · rename_i first known
    cases found
    have same : nodes.find? ((fun e : NumberedNode => decide (e.node.label = label)) ∘
        NumberedNode.again grid kind) = some entry := known
    rw [same]
    rfl
  · cases found

lemma NumberedRelationship.again_fits {nodes : List NumberedNode} {entry : NumberedRelationship}
    (fits : entry.Fits nodes) :
    (entry.again grid kind).Fits (nodes.map (NumberedNode.again grid kind)) :=
  ⟨⟨rfl, by simp [again]⟩, numbers_again _ _, endNode_again fits.start, endNode_again fits.finish⟩

theorem NumberedModel.again_fits (fits : numbered.Fits model) (metadata : ModelMetadata) :
    (numbered.again grid kind).Fits (numbered.reread grid kind metadata) := by
  have counted : numbered.nodes.length = model.nodes.length := by
    rw [← fits.nodes, List.length_map]
  have countedRelationships : numbered.relationships.length = model.relationships.length := by
    rw [← fits.relationships, List.length_map]
  refine ⟨?_, ?_, ?_, ?_, ?_, ?_, ?_, ?_⟩
  · simp [again, reread, Function.comp_def, NumberedNode.again]
  · have indexes := fits.nodeIndexes
    simpa [again, reread, Function.comp_def, NumberedNode.again, counted] using indexes
  · intro entry member
    obtain ⟨first, -, rfl⟩ := List.mem_map.1 member
    exact first.again_fits
  · simp [again, reread, Function.comp_def, NumberedRelationship.again]
  · have indexes := fits.relationshipIndexes
    simpa [again, reread, Function.comp_def, NumberedRelationship.again,
      countedRelationships] using indexes
  · intro entry member
    obtain ⟨first, inside, rfl⟩ := List.mem_map.1 member
    exact NumberedRelationship.again_fits (fits.eachRelationship first inside)
  · rw [again_propertyIds]
    exact fits.distinct
  · rw [again_propertyIds]
    exact fits.nonEmpty

lemma storedId?_again {n : Numbered} (nonEmpty : n.id ≠ "") (table : String) (isKey : Bool) :
    (n.again kind table isKey).property.storedId? = some n.id := by
  simp [Numbered.again, Numbered.reread, Property.storedId?, nonEmpty]

/-- A reread model is numbered with the ids that it had. -/
theorem NumberedModel.ofModel_reread (fits : numbered.Fits model) (metadata : ModelMetadata) :
    ofModel (numbered.reread grid kind metadata) = .ok (numbered.again grid kind) := by
  refine ofModel_of_stored (again_fits fits metadata) ?_ ?_
  · intro entry member n listed
    obtain ⟨first, inside, rfl⟩ := List.mem_map.1 member
    have nonEmpty := fits.node_id_ne_empty inside
    rcases List.mem_cons.1 listed with rfl | other
    · exact storedId?_again (nonEmpty first.key List.mem_cons_self) _ _
    · obtain ⟨m, there, rfl⟩ := List.mem_map.1 other
      exact storedId?_again (nonEmpty m (List.mem_cons_of_mem _ there)) _ _
  · intro entry member n listed
    obtain ⟨first, inside, rfl⟩ := List.mem_map.1 member
    obtain ⟨m, there, rfl⟩ := List.mem_map.1 listed
    exact storedId?_again (fits.relationship_id_ne_empty inside m there) _ _

end Again

end PropertyGraph.ReferenceGraph

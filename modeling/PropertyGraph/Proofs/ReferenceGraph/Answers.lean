import PropertyGraph.Proofs.Conversion
import PropertyGraph.ReferenceGraph.Import

/-! What the import of a reference graph answers, apart from what it tells: the same steps as
computations that only may fail. -/
namespace PropertyGraph.ReferenceGraph
open Conversion (AddsOnly answer_bind answer_mapM)

theorem EntityDef.addsOnly_chooseKey (label : EntityDef) (declared : Option String)
    (strict : Bool) : AddsOnly (label.chooseKey declared strict) := by
  simp only [EntityDef.chooseKey]
  rcases label.properties.find? _ with _ | key
  · rcases label.properties with _ | ⟨first, others⟩
    · exact .throw _
    · cases strict
      · exact (AddsOnly.tell _).bind fun _ => .pure _
      · exact .throw _
  · exact .pure _

theorem EntityDef.addsOnly_toNode (bindings : Bindings) (strict : Bool) (label : EntityDef) :
    AddsOnly (label.toNode bindings strict) := by
  unfold EntityDef.toNode
  exact (label.addsOnly_chooseKey _ strict).bind fun _ => (AddsOnly.lift _).bind fun _ =>
    (AddsOnly.mapM (fun _ => .lift _) _).bind fun _ => .lift _

theorem EntityDef.answer_toNode (bindings : Bindings) (strict : Bool) (label : EntityDef) :
    (label.toNode bindings strict).answer = (do
      let kind := bindings.resolved.nodeOfLabel? label.id
      let convert := PropertyDef.toProperty (kind.bind fun k => bindings.nodeMapping? k.id)
        bindings.sourceKind (.node label.token)
      let choice ← (label.chooseKey (kind.bind fun k => bindings.keyOf? k.id) strict).answer
      let key ← convert choice.key
      let others ← choice.others.mapM convert
      Node.build label.token key others ⟨none, kind.bind fun k => bindings.place? k.id⟩) := by
  unfold EntityDef.toNode
  simp only
  rw [answer_bind fun _ => (AddsOnly.lift _).bind fun _ =>
    (AddsOnly.mapM (fun _ => .lift _) _).bind fun _ => .lift _]
  congr 1
  funext choice
  rw [answer_bind fun _ => (AddsOnly.mapM (fun _ => .lift _) _).bind fun _ => .lift _,
    Conversion.answer_lift]
  congr 1
  funext key
  rw [answer_bind fun _ => .lift _, answer_mapM fun _ => .lift _]
  simp only [Conversion.answer_lift]

theorem answer_toModel (strict : Bool) (graph : ReferenceGraph) :
    (graph.toModel strict).answer = (do
      let bindings ← Bindings.ofGraph graph
      let nodes ← graph.schema.nodeLabels.mapM fun label =>
        (label.toNode bindings strict).answer
      let relationships ← bindings.resolved.relationshipKinds.mapM
        (RelationshipKind.toRelationship bindings)
      Model.build nodes relationships ⟨none, some graph.stored⟩) := by
  have last (nodes : List Node) (relationships : List Relationship) (model : Model) :
      AddsOnly (do
        Conversion.tell (.referenceGraphRead nodes.length relationships.length)
        return model) :=
    (AddsOnly.tell _).bind fun _ => .pure _
  have build (nodes : List Node) (relationships : List Relationship) :=
    (AddsOnly.lift (Model.build nodes relationships ⟨none, some graph.stored⟩)).bind
      (last nodes relationships)
  have relate (bindings : Bindings) (nodes : List Node) :=
    (AddsOnly.mapM (fun kind : RelationshipKind => .lift (kind.toRelationship bindings))
      bindings.resolved.relationshipKinds).bind (build nodes)
  unfold toModel
  rw [answer_bind fun bindings =>
    (AddsOnly.mapM (EntityDef.addsOnly_toNode bindings strict) _).bind (relate bindings),
    Conversion.answer_lift]
  congr 1
  funext bindings
  rw [answer_bind (relate bindings), answer_mapM (EntityDef.addsOnly_toNode bindings strict)]
  congr 1
  funext nodes
  rw [answer_bind (build nodes), answer_mapM fun _ => .lift _]
  simp only [Conversion.answer_lift]
  congr 1
  funext relationships
  rw [answer_bind (last nodes relationships), Conversion.answer_lift]
  cases Model.build nodes relationships ⟨none, some graph.stored⟩ <;> rfl

theorem addsOnly_toModel (strict : Bool) (graph : ReferenceGraph) :
    AddsOnly (graph.toModel strict) := by
  unfold toModel
  exact (AddsOnly.lift _).bind fun bindings =>
    (AddsOnly.mapM (EntityDef.addsOnly_toNode bindings strict) _).bind fun _ =>
      (AddsOnly.mapM (fun _ => .lift _) _).bind fun _ =>
        (AddsOnly.lift _).bind fun _ => (AddsOnly.tell _).bind fun _ => .pure _

theorem answer_read (document : Option Json) (strict : Bool) :
    (read document strict).answer =
      (Document.check shape document "reference-graph document" >>= fun json =>
        ((ofJson json).toModel strict).answer) := by
  unfold read
  rw [answer_bind fun json => addsOnly_toModel strict (ofJson json), Conversion.answer_lift]

end PropertyGraph.ReferenceGraph

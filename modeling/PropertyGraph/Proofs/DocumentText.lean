import PropertyGraph.Proofs.TidyDocuments

/-! The text forms of both formats. What is exported as a text is read like the document that is
exported itself: the text is read back as that document, member for member, so whatever comes of
the one comes of the other. -/
namespace PropertyGraph
open Json (tidy_empty tidy_getD tidy_object)

section Kept

namespace NodeMetadata

variable {metadata : NodeMetadata}

lemma drawing_tidy (tidy : metadata.toJson.Tidy) : ∀ d ∈ metadata.diagram, d.toJson.Tidy :=
  tidy.optional "diagram" (by simp [toJson])

lemma finite_of_tidy (tidy : metadata.toJson.Tidy) {position : Position}
    (known : metadata.place = some position ∨ metadata.diagramPosition? = some position) :
    position.Finite := by
  rcases known with placed | drawn
  · have places : ∀ p ∈ metadata.place, (Json.object [("position", p.toJson)]).Tidy :=
      tidy.optional "visualization" (by simp [toJson])
    exact Position.finite_of_tidy ((places position placed).member "position" (by simp))
  · obtain ⟨drawing, known, place⟩ := Option.bind_eq_some_iff.1 drawn
    have positions : ∀ p ∈ drawing.position, p.toJson.Tidy :=
      (drawing_tidy tidy drawing known).optional "position" (by simp [NodeDrawing.toJson])
    exact Position.finite_of_tidy (positions position place)

lemma style_tidy (tidy : metadata.toJson.Tidy) :
    ∀ style ∈ metadata.diagram.bind NodeDrawing.style, (Json.object style).Tidy := by
  intro style found
  obtain ⟨drawing, known, kept⟩ := Option.bind_eq_some_iff.1 found
  exact (drawing_tidy tidy drawing known).optional "style" (by simp [NodeDrawing.toJson]) style kept

end NodeMetadata

lemma Drawing.style_tidy {diagram : Option Drawing} (tidy : ∀ d ∈ diagram, d.toJson.Tidy) :
    ∀ style ∈ diagram.bind Drawing.style, (Json.object style).Tidy := by
  intro style found
  obtain ⟨drawing, known, kept⟩ := Option.bind_eq_some_iff.1 found
  exact (tidy drawing known).optional "style" (by simp [toJson]) style kept

namespace Model

variable {model : Model}

lemma node_tidy (tidy : model.toJson.Tidy) {node : Node} (inside : node ∈ model.nodes) :
    node.metadata.toJson.Tidy := by
  have nodes : (Json.array (model.nodes.map Node.toJson)).Tidy :=
    tidy.member "nodes" (by simp [toJson])
  exact (nodes.item (List.mem_map_of_mem inside)).member "metadata" (by simp [Node.toJson])

lemma relationship_tidy (tidy : model.toJson.Tidy) {relationship : Relationship}
    (inside : relationship ∈ model.relationships) : relationship.metadata.toJson.Tidy := by
  have relationships : (Json.array (model.relationships.map Relationship.toJson)).Tidy :=
    tidy.member "relationships" (by simp [toJson])
  exact (relationships.item (List.mem_map_of_mem inside)).member "metadata"
    (by simp [Relationship.toJson])

lemma metadata_tidy (tidy : model.toJson.Tidy) : model.metadata.toJson.Tidy :=
  tidy.member "metadata" (by simp [toJson])

end Model
end Kept

section Exports

variable {model : Model} {settings : Settings}

lemma placement_finite {grid : Grid} {entry : ReferenceGraph.NumberedNode}
    (tidy : entry.node.metadata.toJson.Tidy)
    (finite : (Diagram.Box.place grid entry.index entry.node).Finite) :
    (entry.placement grid).position.Finite := by
  simp only [ReferenceGraph.NumberedNode.placement]
  cases placed : entry.node.metadata.place with
  | some position => exact NodeMetadata.finite_of_tidy tidy (.inl placed)
  | none => simpa [Diagram.Box.place, placed] using finite

namespace Diagram

theorem tidy_ofModel (valid : model.Valid) (tidy : model.toJson.Tidy) {grid : Grid}
    (finite : ∀ index node, model.nodes[index]? = some node →
      (Box.place grid index node).Finite) : (ofModel grid model).toJson.Tidy := by
  refine Diagram.tidy (fun box member => ?_) (fun arrow member => ?_) ?_
  · obtain ⟨index, bound, rfl⟩ := List.mem_mapIdx.1 member
    have inside := List.getElem_mem bound
    refine Box.tidy (writeProperties_tidy (valid.nodes _ inside).properties) ?_ ?_
    · rintro style ⟨rfl⟩
      exact tidy_getD (NodeMetadata.style_tidy (Model.node_tidy tidy inside)) tidy_empty
    · rintro position ⟨rfl⟩
      exact finite index _ (List.getElem?_eq_getElem bound)
  · obtain ⟨relationship, inside, rfl⟩ := List.mem_map.1 member
    refine Arrow.tidy (writeProperties_tidy (valid.relationships _ inside).properties) ?_
    rintro style ⟨rfl⟩
    have drawings : ∀ d ∈ relationship.metadata.diagram, d.toJson.Tidy :=
      (Model.relationship_tidy tidy inside).optional "diagram"
        (by simp [RelationshipMetadata.toJson])
    exact tidy_getD (Drawing.style_tidy drawings) tidy_empty
  · rintro style ⟨rfl⟩
    have drawings : ∀ d ∈ model.metadata.diagram, d.toJson.Tidy :=
      (Model.metadata_tidy tidy).optional "diagram" (by simp [ModelMetadata.toJson])
    exact tidy_getD (Drawing.style_tidy drawings) tidy_empty

end Diagram

namespace ReferenceGraph

lemma rules_tidy {v : Json} (name : String) (tidy : v.Tidy) {rules : Option (List Rule)}
    (kept : v.get? name = rules.map fun rs => .array (rs.map Rule.toJson)) :
    ∀ rs ∈ rules, ∀ rule ∈ rs, rule.toJson.Tidy := by
  intro rs known rule inside
  have all : (Json.array (rs.map Rule.toJson)).Tidy := tidy.optional name kept rs known
  exact all.item (List.mem_map_of_mem inside)

variable {numbered : NumberedModel}

lemma chooseRules_tidy {kind : RuleKind} {rules : Option (List Rule)}
    (stored : ∀ rs ∈ rules, ∀ rule ∈ rs, rule.toJson.Tidy) :
    ∀ rule ∈ (chooseRules numbered (numbered.rules kind) rules).1, rule.toJson.Tidy := by
  have made : ∀ rule ∈ numbered.rules kind, rule.toJson.Tidy := by
    intro rule member
    obtain ⟨number, name, owner, keyId, rfl, -⟩ := exists_forKey_of_mem member
    exact Rule.tidy_forKey kind number name owner keyId
  exact forall_mem_chooseRules stored made

lemma chooseSource_tidy {kind : SourceKind} {tables : List Table} {stored : Option SourceSchema}
    (tidy : ∀ schema ∈ stored, schema.toJson.Tidy) :
    (chooseSource kind tables stored).toJson.Tidy := by
  unfold chooseSource
  split
  · rename_i schema kept
    exact tidy schema (Option.filter_eq_some_iff.1 kept).1
  · exact SourceSchema.tidy_infer _ _

theorem tidy_build (fits : numbered.Fits model) (tidy : model.toJson.Tidy)
    (finite : ∀ index node, model.nodes[index]? = some node →
      (Diagram.Box.place settings.grid index node).Finite) :
    (build settings model numbered).1.toJson.Tidy := by
  have stored : (model.metadata.referenceGraph.getD .empty).toJson.Tidy := by
    cases known : model.metadata.referenceGraph with
    | none => exact tidy_empty
    | some stored =>
      exact (Model.metadata_tidy tidy).member "referenceGraph"
        (by simp [ModelMetadata.toJson, known])
  refine ReferenceGraph.tidy ?_ (Schema.tidy ?_ ?_) ?_ ?_
  · rintro places ⟨rfl⟩ place member
    obtain ⟨entry, inside, rfl⟩ := List.mem_map.1 member
    obtain ⟨i, here⟩ := List.getElem?_of_mem inside
    have node : model.nodes[i]? = some entry.node := by
      rw [← fits.nodes, List.getElem?_map, here]
      rfl
    obtain rfl := index_at fits.nodeIndexes here
    exact placement_finite (Model.node_tidy tidy (List.mem_of_getElem? node)) (finite _ _ node)
  · rintro rules ⟨rfl⟩
    exact chooseRules_tidy (rules_tidy "constraints" stored (by simp [Stored.toJson]))
  · rintro rules ⟨rfl⟩
    exact chooseRules_tidy (rules_tidy "indexes" stored (by simp [Stored.toJson]))
  · rintro schema ⟨rfl⟩
    exact chooseSource_tidy (stored.optional "dataSourceSchema" (by simp [Stored.toJson]))
  · rintro kept ⟨rfl⟩
    have configurations : ∀ c ∈ (model.metadata.referenceGraph.getD .empty).configurations,
        (Json.object c).Tidy := stored.optional "configurations" (by simp [Stored.toJson])
    exact tidy_getD configurations
      (tidy_object (.member (.array (List.forall_mem_nil _)) .nil) (by decide) (by decide))

end ReferenceGraph

lemma Document.parse_indentedText {v : Json} (tidy : v.Tidy) (subject : String) :
    Document.parse v.indentedText subject = .ok v := by
  rw [Document.parse, Json.parse_indentedText tidy]

lemma Diagram.readText_eq_read {diagram : Diagram} (tidy : diagram.toJson.Tidy) :
    readText diagram.toJson.indentedText = read (some diagram.toJson) := by
  rw [readText, Document.parse_indentedText tidy]
  rfl

lemma ReferenceGraph.readText_eq_read {graph : ReferenceGraph} (tidy : graph.toJson.Tidy)
    (strict : Bool) :
    readText graph.toJson.indentedText strict = read (some graph.toJson) strict := by
  rw [readText, Document.parse_indentedText tidy]
  rfl

lemma Diagram.answer_writeText {asked : Option Json} {diagram : Diagram}
    (written : (write model asked).answer = .ok diagram) :
    (writeText model asked).answer = .ok diagram.toJson.indentedText := by
  rw [writeText, Conversion.answer_bind fun _ => .pure _, written]
  rfl

lemma ReferenceGraph.answer_writeText {asked : Option Json} {graph : ReferenceGraph}
    (written : (write model asked).answer = .ok graph) :
    (writeText model asked).answer = .ok graph.toJson.indentedText := by
  rw [writeText, Conversion.answer_bind fun _ => .pure _, written]
  rfl

/-- Whether a model is exported as a document or as a text, the same comes of it when it is
imported: the same model or the same error, with the same to tell. A diagram is read whenever it
shows all properties, which leaves out the name of a prototype. The record of the model shows all
that the model keeps, so `tidy` asks for finite numbers in its positions, styles and stored
blocks, and for objects as every program holds them; places that the grid gives need not be
stored, but finite. -/
theorem readText_writeText (reachable : model.Reachable) (tidy : model.toJson.Tidy)
    {asked : Option Json} (resolved : Settings.resolve asked = .ok settings)
    (finite : ∀ index node, model.nodes[index]? = some node →
      (Diagram.Box.place settings.grid index node).Finite) (strict : Bool) :
    (∃ diagram text, (Diagram.write model asked).answer = .ok diagram ∧
      (Diagram.writeText model asked).answer = .ok text ∧
      Diagram.readText text = Diagram.read (some diagram.toJson) ∧
      (model.OrdinaryNames → ∃ back, (Diagram.read (some diagram.toJson)).answer = .ok back)) ∧
    ∃ graph text, (ReferenceGraph.write model asked).answer = .ok graph ∧
      (ReferenceGraph.writeText model asked).answer = .ok text ∧
      ReferenceGraph.readText text strict = ReferenceGraph.read (some graph.toJson) strict := by
  constructor
  · have written := Diagram.answer_write model resolved
    have shown := Diagram.tidy_ofModel reachable.valid tidy finite
    have reads (ordinary : model.OrdinaryNames) :=
      Diagram.answer_read_ofModel ⟨model, reachable.valid⟩ ordinary fun index node here =>
        (finite index node here).isNumber
    exact ⟨_, _, written, Diagram.answer_writeText written, Diagram.readText_eq_read shown,
      fun ordinary => ⟨_, reads ordinary⟩⟩
  · obtain ⟨numbered, fits, written⟩ :=
      ReferenceGraph.exists_answer_write reachable.valid resolved
    have shown := ReferenceGraph.tidy_build fits.toFits tidy finite
    exact ⟨_, _, written, ReferenceGraph.answer_writeText written,
      ReferenceGraph.readText_eq_read shown strict⟩

/-- A style with an index, empty containers, controls and numbers that have no exact text. -/
def Drawing.signStyle : Style :=
  [("7", .array [.object [], .array [], .null]), ("\"", .string "\x00\x1f\x7f\u2028"),
    ("scale", .object [("1", .number (.ofRatio true 1 3)), ("\\", .bool true)])]

def Property.signKey : Property := ⟨"10", "STRING", none, some "\x08\x0c\n\r\t", none⟩

def Node.sign : Node :=
  ⟨"\"Sign\" \\ 🚏", Property.signKey, [⟨"2", "STRING", none, some "", none⟩, .ofName "/"],
    ⟨some ⟨some ⟨.ofRatio true 1 10, .ofRatio false 1 (10 ^ 30)⟩, some "\u2029",
      some Drawing.signStyle⟩, none⟩⟩

def Node.trail : Node := ⟨"Path", .ofName "Id", [], .empty⟩

def Relationship.pointsTo : Relationship :=
  ⟨"\\", "\"Sign\" \\ 🚏", "Path", none, [.ofName "\""], ⟨some ⟨some []⟩⟩⟩

/-- A model that keeps a drawing and blocks of a reference graph. -/
def Model.crossing : Model :=
  ⟨[.sign, .trail], [.pointsTo], ⟨some ⟨some Drawing.signStyle⟩,
    some ⟨some "\t", none, some [], none, some [("0", .array [.number 1])], none⟩⟩⟩

lemma Model.crossing_reachable : crossing.Reachable := by
  have named {name : String} (hn : Text.isBlank name = false) := Property.ofName_built hn
  have key : Property.signKey.Built :=
    ⟨⟨"10", some "string", none, some "\x08\x0c\n\r\t", none⟩, by decide +kernel⟩
  have two : Property.Built ⟨"2", "STRING", none, some "", none⟩ :=
    ⟨⟨"2", none, none, some "", none⟩, by decide +kernel⟩
  have first : Node.build Node.sign.label .signKey Node.sign.properties Node.sign.metadata =
      .ok .sign := by decide +kernel
  have second : Node.build "Path" (.ofName "Id") [] .empty = .ok .trail := by decide +kernel
  have between : Relationship.build "\\" Relationship.pointsTo.startLabel "Path" none
      Relationship.pointsTo.properties Relationship.pointsTo.metadata = .ok .pointsTo := by
    decide +kernel
  have built : Model.build [.sign, .trail] [.pointsTo] crossing.metadata = .ok crossing := by
    decide +kernel
  have signs : Node.sign.Reachable := .build key
    (List.forall_mem_cons.2 ⟨two, List.forall_mem_singleton.2 (named (by decide +kernel))⟩) first
  have trails : Node.trail.Reachable :=
    .build (named (by decide +kernel)) (List.forall_mem_nil _) second
  have points : Relationship.pointsTo.Reachable := .build (by simp)
    (List.forall_mem_singleton.2 (named (by decide +kernel))) between
  exact .initial (.build (List.forall_mem_cons.2 ⟨signs, List.forall_mem_singleton.2 trails⟩)
    (List.forall_mem_singleton.2 points) built)

theorem readText_writeText_crossing :
    (∃ diagram text back, (Diagram.write Model.crossing none).answer = .ok diagram ∧
      (Diagram.writeText Model.crossing none).answer = .ok text ∧
      (Diagram.read (some diagram.toJson)).answer = .ok back ∧
      (Diagram.readText text).answer = .ok back) ∧
    ∃ graph text, (ReferenceGraph.write Model.crossing none).answer = .ok graph ∧
      (ReferenceGraph.writeText Model.crossing none).answer = .ok text ∧
      ReferenceGraph.readText text true = ReferenceGraph.read (some graph.toJson) true := by
  have resolved : Settings.resolve none = .ok Settings.standard := by decide +kernel
  have tidy : Model.crossing.toJson.Tidy := by decide +kernel
  have finite : ∀ index node, Model.crossing.nodes[index]? = some node →
      (Diagram.Box.place Settings.standard.grid index node).Finite := by
    intro index node here
    match index with
    | 0 =>
      cases here
      exact ⟨by decide +kernel, by decide +kernel⟩
    | 1 =>
      cases here
      exact ⟨by decide +kernel, by decide +kernel⟩
    | n + 2 => simp [Model.crossing] at here
  obtain ⟨⟨diagram, text, written, writtenText, same, reads⟩, graph⟩ :=
    readText_writeText Model.crossing_reachable tidy resolved finite true
  obtain ⟨back, read⟩ := reads (by decide)
  exact ⟨⟨diagram, text, back, written, writtenText, read, same ▸ read⟩, graph⟩

end Exports
end PropertyGraph

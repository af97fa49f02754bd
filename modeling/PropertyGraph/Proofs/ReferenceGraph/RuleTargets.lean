import PropertyGraph.Proofs.Reachable
import PropertyGraph.Proofs.ReferenceGraph.Allocation
import PropertyGraph.Proofs.ReferenceGraph.Normalization

/-! What the rules of a written graph refer to. A stored rule is only given back while its
owner and its properties are exported, but the test looks neither at the reference on the
other side nor at whose an id was: an id that is stored with no property any more may be made
up for a new one. -/
namespace PropertyGraph.ReferenceGraph

def RuleOwner.ref : RuleOwner → Ref
  | .node label => label
  | .relationship type => type

def Schema.definitions (schema : Schema) : RuleOwner → List EntityDef
  | .node _ => schema.nodeLabels
  | .relationship _ => schema.relationshipTypes

namespace Rule

/-- The node label that a rule names, on whichever side its owner is. -/
def label? (rule : Rule) : Option Ref := Ref.member? "nodeLabel" rule.toJson

def type? (rule : Rule) : Option Ref := Ref.member? "relationshipType" rule.toJson

/-- A rule whose owner is defined, with all properties that the rule is about. -/
def Anchored (schema : Schema) (rule : Rule) : Prop :=
  ∃ owner, rule.owner? = some owner ∧
    ∃ definition ∈ schema.definitions owner, definition.id = owner.ref.id ∧
      ∀ ref ∈ rule.properties, ∃ property ∈ definition.properties, property.id = ref.id

/-- A rule none of whose references dangles. -/
structure Closed (schema : Schema) (rule : Rule) : Prop where
  anchored : rule.Anchored schema
  label : ∀ ref ∈ rule.label?, ∃ definition ∈ schema.nodeLabels, definition.id = ref.id
  type : ∀ ref ∈ rule.type?, ∃ definition ∈ schema.relationshipTypes, definition.id = ref.id

section Anchors

variable {rule : Rule} {schema : Schema} {numbered : NumberedModel} {kind : RuleKind}

lemma owner?_eq_node {ref : Ref} (owned : rule.owner? = some (.node ref)) :
    rule.label? = some ref := by
  unfold owner? at owned
  split at owned
  · simpa [label?] using owned
  · simp at owned

lemma owner?_eq_relationship {ref : Ref} (owned : rule.owner? = some (.relationship ref)) :
    rule.type? = some ref := by
  unfold owner? at owned
  split at owned
  · simp at owned
  · simpa [type?] using owned

/-- An anchored rule that names only one side refers to nothing else. -/
lemma Anchored.closed (anchored : rule.Anchored schema)
    (oneSided : rule.label? = none ∨ rule.type? = none) : rule.Closed schema := by
  have found := anchored
  obtain ⟨owner, owned, definition, member, id, -⟩ := found
  cases owner with
  | node ref =>
    have label := owner?_eq_node owned
    have type : rule.type? = none := oneSided.resolve_left (by simp [label])
    refine ⟨anchored, ?_, by simp [type]⟩
    rw [label]
    rintro _ ⟨rfl⟩
    exact ⟨definition, member, id⟩
  | relationship ref =>
    have type := owner?_eq_relationship owned
    have label : rule.label? = none := oneSided.resolve_right (by simp [type])
    refine ⟨anchored, by simp [label], ?_⟩
    rw [type]
    rintro _ ⟨rfl⟩
    exact ⟨definition, member, id⟩

lemma exists_of_ownsAll {definitions : List EntityDef} {owner : Ref} {properties : List Ref}
    (owns : ownsAll definitions owner properties = true) :
    ∃ definition ∈ definitions, definition.id = owner.id ∧
      ∀ ref ∈ properties, ∃ property ∈ definition.properties, property.id = ref.id := by
  unfold ownsAll at owns
  split at owns
  · rename_i definition found
    refine ⟨definition, List.mem_of_find?_eq_some found, by simpa using List.find?_some found, ?_⟩
    simpa using owns
  · cases owns

lemma anchored_of_fits (fits : rule.fits numbered = true)
    (labels : schema.nodeLabels = numbered.nodeLabels)
    (types : schema.relationshipTypes = numbered.relationshipTypes) : rule.Anchored schema := by
  unfold Rule.fits at fits
  split at fits
  · rename_i ref owned
    rw [← labels] at fits
    exact ⟨_, owned, exists_of_ownsAll fits⟩
  · rename_i ref owned
    rw [← types] at fits
    exact ⟨_, owned, exists_of_ownsAll fits⟩
  · cases fits

lemma oneSided_of_mem_rules (member : rule ∈ numbered.rules kind) :
    rule.label? = none ∨ rule.type? = none := by
  obtain ⟨number, name, owner, keyId, rfl, -⟩ := exists_forKey_of_mem member
  cases owner with
  | node ref => exact .inr (by cases kind <;> rfl)
  | relationship ref => exact .inl (by cases kind <;> rfl)

/-- A reference of a rule names a property that is exported with the rule's owner. -/
def Names (schema : Schema) (rule : Rule) (ref : Ref) (n : Numbered) : Prop :=
  n.id = ref.id ∧ ∃ owner, rule.owner? = some owner ∧
    ∃ definition ∈ schema.definitions owner, definition.id = owner.ref.id ∧
      n.definition ∈ definition.properties

lemma Anchored.exists_names (anchored : rule.Anchored schema)
    (labels : schema.nodeLabels = numbered.nodeLabels)
    (types : schema.relationshipTypes = numbered.relationshipTypes) {ref : Ref}
    (member : ref ∈ rule.properties) :
    ∃ n ∈ numbered.properties, rule.Names schema ref n := by
  obtain ⟨owner, owned, definition, defined, id, each⟩ := anchored
  obtain ⟨property, listed, same⟩ := each ref member
  have exported : ∃ n ∈ numbered.properties, n.definition = property := by
    cases owner with
    | node =>
      rw [Schema.definitions, labels] at defined
      obtain ⟨entry, inside, rfl⟩ := List.mem_map.1 defined
      obtain ⟨n, there, made⟩ := List.mem_map.1 listed
      exact ⟨n, List.mem_append_left _ (List.mem_flatMap.2 ⟨entry, inside, there⟩), made⟩
    | relationship =>
      rw [Schema.definitions, types] at defined
      obtain ⟨entry, inside, rfl⟩ := List.mem_map.1 defined
      obtain ⟨n, there, made⟩ := List.mem_map.1 listed
      exact ⟨n, List.mem_append_right _ (List.mem_flatMap.2 ⟨entry, inside, there⟩), made⟩
  obtain ⟨n, there, rfl⟩ := exported
  exact ⟨n, there, same, owner, owned, definition, defined, id, listed⟩

end Anchors
end Rule

def books (labelId : String) (properties : List PropertyDef) (rule : Rule) : ReferenceGraph where
  version := none
  placements := none
  modelVersion := none
  schemaVersion := none
  schema := {
    nodeLabels := [⟨labelId, "Book", properties⟩]
    relationshipTypes := []
    nodeObjects := [⟨"n:0", [.toId labelId]⟩]
    relationshipObjects := []
    constraints := some [rule]
    indexes := none }
  nodeKeys := []
  sourceSchema := none
  nodeMappings :=
    [⟨⟨.toId "n:0", "books.csv", properties.map fun p => ⟨.toId p.id, p.token⟩⟩⟩]
  relationshipMappings := []
  configurations := none

section Written

variable {model : Model} {numbered : NumberedModel} {settings : Settings} {kind : RuleKind}

lemma rules_build (settings : Settings) (model : Model) (numbered : NumberedModel)
    (kind : RuleKind) :
    (build settings model numbered).1.schema.rules kind =
      some (chooseRules numbered (numbered.rules kind)
        (model.metadata.referenceGraph.bind (·.rules kind))).1 := by
  cases kind <;> cases known : model.metadata.referenceGraph <;> simp [build, Schema.rules,
    Stored.rules, Stored.empty, known]

/-- Every rule of a written graph has its owner and its properties in the graph. All that may
dangle is what a stored rule says of the side that its owner is not on. -/
theorem anchored_of_write (reachable : model.Reachable) {asked : Option Json}
    (resolved : Settings.resolve asked = .ok settings) :
    ∃ graph, (write model asked).answer = .ok graph ∧
      ∀ kind, ∃ rules, graph.schema.rules kind = some rules ∧ ∀ rule ∈ rules,
        rule.Anchored graph.schema ∧
          (rule.Closed graph.schema ∨ rule.label?.isSome = true ∧ rule.type?.isSome = true ∧
            ∃ stored ∈ model.metadata.referenceGraph, stored.rules kind = some rules) := by
  obtain ⟨numbered, fits, written⟩ := exists_answer_write reachable.valid resolved
  refine ⟨_, written, fun kind => ⟨_, rules_build settings model numbered kind,
    fun rule member => ?_⟩⟩
  have anchored : rule.Anchored (build settings model numbered).1.schema :=
    Rule.anchored_of_fits (fits_of_mem_chooseRules fits.toFits member) rfl rfl
  refine ⟨anchored, ?_⟩
  by_cases oneSided : rule.label? = none ∨ rule.type? = none
  · exact .inl (anchored.closed oneSided)
  · simp only [not_or, ← Option.isSome_iff_ne_none] at oneSided
    rcases chooseRules_cases numbered (numbered.rules kind)
      (model.metadata.referenceGraph.bind (·.rules kind)) with ⟨rules, given, chosen⟩ | made
    · obtain ⟨stored, present, known⟩ := Option.bind_eq_some_iff.1 given
      exact .inr ⟨oneSided.1, oneSided.2, stored, present, by rw [known, chosen]⟩
    · rw [made] at member
      have named := Rule.oneSided_of_mem_rules member
      simp [← Option.not_isSome_iff_eq_none, oneSided] at named

theorem anchored_of_write_library : ∃ graph, (write .library none).answer = .ok graph ∧
    ∃ rules, graph.schema.rules .constraint = some rules ∧
      ∀ rule ∈ rules, rule.Closed graph.schema := by
  have resolved : Settings.resolve none = .ok Settings.standard := by decide +kernel
  obtain ⟨graph, written, each⟩ := anchored_of_write (.initial Model.library_initial) resolved
  obtain ⟨rules, listed, closed⟩ := each .constraint
  refine ⟨graph, written, rules, listed, fun rule member => ?_⟩
  exact (closed rule member).2.resolve_right (by rintro ⟨-, -, stored, ⟨⟩, -⟩)

/-- A constraint of a node label that also names a relationship type. -/
def Rule.twoSided : Rule :=
  ⟨[("$id", .string "c:0"), ("name", .string "unique_isbn"),
    ("constraintType", .string "uniqueness"), ("entityType", .string "node"),
    ("nodeLabel", (Ref.toId "nl:0").toJson), ("relationshipType", (Ref.toId "rt:9").toJson),
    ("properties", .array [(Ref.toId "p:0").toJson])]⟩

/-- A graph of books whose constraint names a relationship type that is missing. -/
def linked : ReferenceGraph := books "nl:0" [⟨"p:0", "isbn", "string", none⟩] .twoSided

/-- A relationship type that is missing is written with a rule that is about a label. -/
theorem not_closed_of_write_linked : ∃ (model : Model) (graph : ReferenceGraph),
    (read (some linked.toJson) false).answer = .ok model ∧ model.Reachable ∧
      (∀ stored ∈ model.metadata.referenceGraph, stored.Accepted) ∧
      (write model none).answer = .ok graph ∧
      ∃ rules, graph.schema.rules .constraint = some rules ∧
        ∃ rule ∈ rules, ¬ rule.Closed graph.schema := by
  have computed : (normalize none false (some linked.toJson)).answer.map (fun written =>
      (written.schema.constraints, written.schema.relationshipTypes)) =
        .ok (some [.twoSided], []) := by
    decide +kernel
  obtain ⟨graph, both, parts⟩ := Except.map_eq_ok_iff.1 computed
  obtain ⟨model, read, written⟩ := normalize_eq_ok_iff.1 both
  obtain ⟨constraints, noTypes⟩ := Prod.mk.inj parts
  refine ⟨model, graph, read, .initial (.referenceGraph read), accepted_of_read read, written,
    [.twoSided], constraints, .twoSided, List.mem_cons_self, fun closed => ?_⟩
  obtain ⟨definition, member, -⟩ := closed.type (.toId "rt:9") rfl
  rw [noTypes] at member
  cases member

/-- Of stored rules that are given back every reference names an exported property of the
owner. It is the property that is stored with the id exactly if any is: otherwise the id has
been made up. -/
theorem names_of_write (reachable : model.Reachable) {asked : Option Json}
    (resolved : Settings.resolve asked = .ok settings) :
    ∃ numbered graph, NumberedModel.ofModel model = .ok numbered ∧
      (write model asked).answer = .ok graph ∧
      ∀ stored ∈ model.metadata.referenceGraph, ∀ kind, ∀ rules ∈ stored.rules kind,
        graph.schema.rules kind = some rules → ∀ rule ∈ rules, ∀ ref ∈ rule.properties,
          ∃ n ∈ numbered.properties, rule.Names graph.schema ref n ∧
            (n.property.storedId? = some ref.id ↔ ref.id ∈ storedIds model) := by
  obtain ⟨numbered, made⟩ := NumberedModel.exists_ofModel reachable.valid
  have fits := NumberedModel.fits_of_ofModel made
  refine ⟨numbered, _, made, answer_write_of_ofModel made resolved,
    fun stored _ kind rules _ kept rule member ref listed => ?_⟩
  obtain rfl := Option.some.inj ((rules_build settings model numbered kind).symm.trans kept)
  have anchored : rule.Anchored (build settings model numbered).1.schema :=
    Rule.anchored_of_fits (fits_of_mem_chooseRules fits member) rfl rfl
  obtain ⟨n, inside, names⟩ := anchored.exists_names rfl rfl listed
  refine ⟨n, inside, names, fun own => mem_storedIds.2 ⟨n.property, ?_, own⟩, fun known => ?_⟩
  · exact fits.map_property ▸ List.mem_map_of_mem inside
  · rcases NumberedModel.kept_or_fresh made n inside with keeps | fresh
    · exact names.1 ▸ keeps
    · exact absurd (names.1 ▸ known) fresh

/-- A constraint on the titles of books. -/
def Rule.onTitle : Rule := .forKey .constraint 0 "title" (.node (.toId "nl:0")) "p:1"

/-- A graph of books with a constraint on their titles. -/
def titles : ReferenceGraph :=
  books "nl:0" [⟨"p:0", "isbn", "string", none⟩, ⟨"p:1", "title", "string", none⟩] .onTitle

theorem names_of_write_titles :
    ∃ (model : Model) (numbered : NumberedModel) (graph : ReferenceGraph),
      (read (some titles.toJson) false).answer = .ok model ∧
        NumberedModel.ofModel model = .ok numbered ∧ (write model none).answer = .ok graph ∧
        ∃ rule ∈ graph.schema.constraints.getD [], ∃ n ∈ numbered.properties,
          rule.Names graph.schema (.toId "p:1") n ∧ n.property.storedId? = some "p:1" := by
  have computed : ((read (some titles.toJson) false).answer >>= fun model =>
      (write model none).answer.map fun graph =>
        (model.metadata.referenceGraph.bind (·.constraints), graph.schema.constraints,
          storedIds model)) = .ok (some [.onTitle], some [.onTitle], ["p:0", "p:1"]) := by
    decide +kernel
  obtain ⟨model, read, rest⟩ := Except.bind_eq_ok_iff.1 computed
  obtain ⟨graph, wrote, parts⟩ := Except.map_eq_ok_iff.1 rest
  obtain ⟨given, kept, ids⟩ := by simpa only [Prod.mk.injEq] using parts
  obtain ⟨stored, present, known⟩ := Option.bind_eq_some_iff.1 given
  have resolved : Settings.resolve none = .ok Settings.standard := by decide +kernel
  obtain ⟨numbered, again, made, written, each⟩ :=
    names_of_write (.initial (.referenceGraph read)) resolved
  obtain rfl := Except.ok.inj (wrote.symm.trans written)
  obtain ⟨n, member, names, own⟩ := each stored present .constraint _ known kept .onTitle
    List.mem_cons_self (.toId "p:1") List.mem_cons_self
  refine ⟨model, numbered, graph, read, made, wrote, .onTitle, by simp [kept], n, member, names,
    ?_⟩
  simpa using own.2 (by simp [ids])

/-- The edits that put a new property in the place of the title. -/
def retitle : List Edit :=
  [.removeProperty (.node "Book") "title", .addProperty (.node "Book") (.ofName "pages")]

/-- A constraint on a property that has been removed is given back, although its reference now
names a new property that has taken the old id. -/
theorem rebound_of_write_titles :
    ∃ (model edited : Model) (numbered : NumberedModel) (graph : ReferenceGraph),
      (read (some titles.toJson) false).answer = .ok model ∧
        retitle.foldlM Edit.apply model = .ok edited ∧
        NumberedModel.ofModel edited = .ok numbered ∧ (write edited none).answer = .ok graph ∧
        edited.metadata.referenceGraph.bind (·.constraints) = graph.schema.constraints ∧
        ∃ rule ∈ graph.schema.constraints.getD [], ∃ ref ∈ rule.properties,
          ∃ n ∈ numbered.properties, n.id = ref.id ∧ n.property.name = "pages" ∧
            n.property.storedId? = none := by
  let retitled := (read (some titles.toJson) false).answer >>= fun model =>
    retitle.foldlM Edit.apply model
  have rules : (retitled >>= fun edited => (write edited none).answer.map fun graph =>
      (edited.metadata.referenceGraph.bind (·.constraints), graph.schema.constraints)) =
        .ok (some [.onTitle], some [.onTitle]) := by
    decide +kernel
  have properties : ((retitled >>= NumberedModel.ofModel).map fun numbered =>
      numbered.properties.map fun n => (n.id, n.property.name, n.property.storedId?)) =
        .ok [("p:0", "isbn", some "p:0"), ("p:1", "pages", none)] := by
    decide +kernel
  obtain ⟨edited, both, rest⟩ := Except.bind_eq_ok_iff.1 rules
  obtain ⟨model, read, applied⟩ := Except.bind_eq_ok_iff.1 both
  obtain ⟨graph, written, parts⟩ := Except.map_eq_ok_iff.1 rest
  obtain ⟨given, kept⟩ := Prod.mk.inj parts
  obtain ⟨numbered, made, listed⟩ := Except.map_eq_ok_iff.1 properties
  rw [both] at made
  have second : ("p:1", "pages", none) ∈ numbered.properties.map fun n =>
      (n.id, n.property.name, n.property.storedId?) := by
    simp [listed]
  obtain ⟨n, member, same⟩ := List.mem_map.1 second
  obtain ⟨id, name, fresh⟩ := by simpa only [Prod.mk.injEq] using same
  exact ⟨model, edited, numbered, graph, read, applied, made, written, given.trans kept.symm,
    .onTitle, by simp [kept], .toId "p:1", List.mem_cons_self, n, member, by simp [id], name, fresh⟩

end Written
end PropertyGraph.ReferenceGraph

import PropertyGraph.Model.Basic
import PropertyGraph.Proofs.Checks
import PropertyGraph.Proofs.Conversion

/-! Which fault is reported of parts that do not fit together. Labels come before patterns and
patterns before ends. Of several values that occur again the one that begins first is named,
with how often it occurs in the whole list, and of several dangling ends the first. -/
namespace PropertyGraph

/-- Of the values that occur again, the one that begins first, with how often it occurs. -/
structure FirstRepeat (values : List String) (value : String) (count : Nat) : Prop where
  total : values.count value = count
  again : 1 < count
  earliest : ∀ other, 1 < values.count other → values.idxOf value ≤ values.idxOf other

lemma firstRepeated?_eq (values : List String) :
    firstRepeated? values =
      (values.find? fun v => 1 < values.count v).map fun v => (v, values.count v) := by
  rw [firstRepeated?, occurrences_eq, List.find?_map, find?_eraseDups]
  rfl

lemma firstRepeated?_eq_some_iff {values : List String} {value : String} {count : Nat} :
    firstRepeated? values = some (value, count) ↔ FirstRepeat values value count := by
  have listed (other : String) (again : 1 < values.count other) : other ∈ values :=
    List.count_pos_iff.1 (by omega)
  rw [firstRepeated?_eq]
  simp only [Option.map_eq_some_iff, find?_eq_some_iff_idxOf, decide_eq_true_eq, Prod.mk.injEq]
  constructor
  · rintro ⟨_, ⟨-, again, earliest⟩, rfl, rfl⟩
    exact ⟨rfl, again, fun other more => earliest other (listed other more) more⟩
  · rintro ⟨rfl, again, earliest⟩
    exact ⟨value, ⟨listed value again, again, fun other _ more => earliest other more⟩, rfl, rfl⟩

section Checks

variable {labels : List String} {links : List Link} {error : ModelError}

/-- A check for repetitions fails with the first of them. -/
lemma refused_iff_firstRepeat {β : Type} {values : List String}
    (fault : String → Nat → ModelError) (passed : β) :
    (match firstRepeated? values with
      | some (value, count) => Except.error (fault value count)
      | none => .ok passed) = .error error ↔
      ∃ value count, FirstRepeat values value count ∧ error = fault value count := by
  simp only [← firstRepeated?_eq_some_iff]
  cases firstRepeated? values with
  | none => simp
  | some entry => simp [Prod.ext_iff, eq_comm]

lemma checkLabels_eq_error_iff :
    checkLabels labels = .error error ↔
      ∃ label count, FirstRepeat labels label count ∧ error = .repeatedLabel label count :=
  refused_iff_firstRepeat _ ()

lemma checkPatterns_eq_error_iff {patterns : List String} :
    checkPatterns patterns = .error error ↔
      ∃ pattern count, FirstRepeat patterns pattern count ∧
        error = .repeatedPattern pattern count :=
  refused_iff_firstRepeat _ ()

lemma checkProperties_eq_error_iff {owner : Owner} {key : Option Property}
    {properties : List Property} :
    checkProperties owner key properties = .error error ↔
      ∃ name count, FirstRepeat ((withoutKey key properties).map Property.name) name count ∧
        error = .repeatedProperty owner name count := by
  rw [checkProperties_eq]
  exact refused_iff_firstRepeat _ _

/-- What is said of a link with an end at none of the labels. The start is looked at first. -/
inductive Link.Dangles (labels : List String) (link : Link) : ModelError → Prop
  | start (missing : link.startLabel ∉ labels) :
      Dangles labels link (.danglingEnd link.pattern .start link.startLabel)
  | finish (known : link.startLabel ∈ labels) (missing : link.endLabel ∉ labels) :
      Dangles labels link (.danglingEnd link.pattern .finish link.endLabel)

lemma Link.dangles_iff {link : Link} :
    link.Dangles labels error ↔
      (link.startLabel ∉ labels ∧ error = .danglingEnd link.pattern .start link.startLabel) ∨
        (link.startLabel ∈ labels ∧ link.endLabel ∉ labels ∧
          error = .danglingEnd link.pattern .finish link.endLabel) := by
  constructor
  · rintro (missing | ⟨known, missing⟩)
    · exact .inl ⟨missing, rfl⟩
    · exact .inr ⟨known, missing, rfl⟩
  · rintro (⟨missing, rfl⟩ | ⟨known, missing, rfl⟩)
    · exact .start missing
    · exact .finish known missing

/-- What is said of the first link with an end at none of the labels. -/
def FirstDangling (labels : List String) (links : List Link) (error : ModelError) : Prop :=
  ∃ before link after, links = before ++ link :: after ∧
    (∀ earlier ∈ before, earlier.startLabel ∈ labels ∧ earlier.endLabel ∈ labels) ∧
    link.Dangles labels error

lemma firstDangling_cons_iff {link : Link} :
    FirstDangling labels (link :: links) error ↔
      link.Dangles labels error ∨
        (link.startLabel ∈ labels ∧ link.endLabel ∈ labels) ∧
          FirstDangling labels links error := by
  constructor
  · rintro ⟨before, other, after, split, sound, dangles⟩
    cases before with
    | nil =>
      cases split
      exact .inl dangles
    | cons first before =>
      cases split
      rw [List.forall_mem_cons] at sound
      exact .inr ⟨sound.1, before, other, after, rfl, sound.2, dangles⟩
  · rintro (dangles | ⟨known, before, other, after, rfl, sound, dangles⟩)
    · exact ⟨[], link, links, rfl, List.forall_mem_nil _, dangles⟩
    · exact ⟨link :: before, other, after, rfl, List.forall_mem_cons.2 ⟨known, sound⟩, dangles⟩

lemma checkEnds_eq_error_iff :
    checkEnds labels links = .error error ↔ FirstDangling labels links error := by
  induction links with
  | nil => simp [checkEnds, FirstDangling]
  | cons link links ih =>
    rw [firstDangling_cons_iff, ← ih, Link.dangles_iff]
    by_cases start : link.startLabel ∈ labels
    · by_cases finish : link.endLabel ∈ labels
      · simp [checkEnds, start, finish]
      · simp [checkEnds, start, finish, eq_comm]
    · simp [checkEnds, start, eq_comm]

end Checks

/-- What is said of labels and links that do not obey the rules: that a label occurs again, or
else that a pattern does, or else that an end is dangling. -/
inductive FirstFault (labels : List String) (links : List Link) : ModelError → Prop
  | label {label : String} {count : Nat} (first : FirstRepeat labels label count) :
      FirstFault labels links (.repeatedLabel label count)
  | pattern {pattern : String} {count : Nat} (labelsOnce : labels.Nodup)
      (first : FirstRepeat (links.map Link.pattern) pattern count) :
      FirstFault labels links (.repeatedPattern pattern count)
  | dangling {error : ModelError} (labelsOnce : labels.Nodup)
      (patternsOnce : (links.map Link.pattern).Nodup) (first : FirstDangling labels links error) :
      FirstFault labels links error

section Models

variable {labels : List String} {links : List Link} {error : ModelError}

lemma checkModel_eq_error_iff :
    checkModel labels links = .error error ↔ FirstFault labels links error := by
  have labelsPass (u : Unit) : checkLabels labels = .ok u ↔ labels.Nodup := checkLabels_eq_ok_iff
  have patternsPass (u : Unit) : checkPatterns (links.map Link.pattern) = .ok u ↔
      (links.map Link.pattern).Nodup := checkPatterns_eq_ok_iff
  simp only [checkModel, Except.bind_eq_error_iff, checkLabels_eq_error_iff, labelsPass,
    checkPatterns_eq_error_iff, patternsPass, checkEnds_eq_error_iff]
  constructor
  · rintro (⟨label, count, first, rfl⟩ |
      ⟨_, once, ⟨pattern, count, first, rfl⟩ | ⟨_, distinct, first⟩⟩)
    · exact .label first
    · exact .pattern once first
    · exact .dangling once distinct first
  · rintro (first | ⟨once, first⟩ | ⟨once, distinct, first⟩)
    · exact .inl ⟨_, _, first, rfl⟩
    · exact .inr ⟨(), once, .inl ⟨_, _, first, rfl⟩⟩
    · exact .inr ⟨(), once, .inr ⟨(), distinct, first⟩⟩

/-- Labels and links pass exactly if they are consistent, and otherwise the first fault is
reported. A model is built of nodes and relationships, as they are given, exactly if their labels
and links pass, and otherwise the same fault is reported. -/
theorem build_iff_consistent :
    (∀ labels links, (checkModel labels links = .ok () ↔ Consistent labels links) ∧
      ∀ error, checkModel labels links = .error error ↔ FirstFault labels links error) ∧
    ∀ nodes relationships metadata,
      (∀ model, Model.build nodes relationships metadata = .ok model ↔
        Consistent (nodes.map Node.label) (relationships.map Relationship.link) ∧
          model = ⟨nodes, relationships, metadata⟩) ∧
      ∀ error, Model.build nodes relationships metadata = .error error ↔
        FirstFault (nodes.map Node.label) (relationships.map Relationship.link) error := by
  refine ⟨fun labels links =>
      ⟨checkModel_eq_ok_iff, fun error => checkModel_eq_error_iff⟩,
    fun nodes relationships metadata => ⟨fun model => ?_, fun error => ?_⟩⟩
  · rw [← checkModel_eq_ok_iff, Model.build, Except.map_eq_ok_iff]
    constructor
    · rintro ⟨⟨⟩, passed, rfl⟩
      exact ⟨passed, rfl⟩
    · rintro ⟨passed, rfl⟩
      exact ⟨(), passed, rfl⟩
  · rw [Model.build, Except.map_eq_error_iff, checkModel_eq_error_iff]

/-- "Book" begins before "Author", though "Author" is the first label met again. -/
example : checkModel ["Book", "Author", "Author", "Author", "Book"] [⟨"x", "Pen", "Pen"⟩] =
    .error (.repeatedLabel "Book" 2) := by decide +kernel

end Models
end PropertyGraph

import PropertyGraph.Proofs.ReferenceGraph.Reread
import PropertyGraph.Proofs.Reachable
import PropertyGraph.Query

/-! Patterns as names of relationships. Two marks stand between the three texts of a pattern.
Where no text holds a mark, the pattern says which relationship is meant; where texts do, other
texts can make the same pattern, and a model takes the one relationship for the other. -/
namespace PropertyGraph

section Marks

variable {α : Type} {first : α} {rest xs ys before after : List α}

/-- A mark that begins with an item of its own, behind the gap or again within it. -/
lemma append_mark_cases_of_gap {gap : List α} (once : first ∉ rest) (longer : ys = xs ++ gap)
    (same : first :: rest ++ after = gap ++ (first :: rest ++ before)) :
    (xs = ys ∧ after = before) ∨ (first :: rest <:+: ys ∧ first :: rest <:+: after) := by
  rcases List.append_eq_append_iff.1 same with ⟨more, gapped, left⟩ | ⟨more, marked, left⟩
  · right
    exact ⟨⟨xs, more, by rw [longer, gapped, List.append_assoc]⟩,
      ⟨more, before, by rw [left, List.append_assoc]⟩⟩
  · -- Here the second mark begins inside the first one, so it is the first one.
    cases gap with
    | nil => exact .inl ⟨by simpa using longer.symm, by simpa using same⟩
    | cons item gap =>
      simp only [List.cons_append, List.cons.injEq] at marked
      cases more with
      | nil =>
        right
        have whole : first :: rest = item :: gap := by simpa using marked
        exact ⟨⟨xs, [], by rw [longer, whole, List.append_nil]⟩,
          ⟨[], before, by simpa using left⟩⟩
      | cons next more =>
        simp only [List.cons_append, List.cons.injEq] at left
        exact absurd (marked.2 ▸ left.1 ▸ by simp) once

/-- A mark that begins with an item of its own stands at one place of a list, or the parts
around it hold it once more. -/
lemma append_mark_cases (once : first ∉ rest)
    (same : xs ++ (first :: rest ++ after) = ys ++ (first :: rest ++ before)) :
    (xs = ys ∧ after = before) ∨ (first :: rest <:+: ys ∧ first :: rest <:+: after) ∨
      (first :: rest <:+: xs ∧ first :: rest <:+: before) := by
  rcases List.append_eq_append_iff.1 same with ⟨gap, longer, left⟩ | ⟨gap, longer, left⟩
  · exact (append_mark_cases_of_gap once longer left).imp_right .inl
  · rcases append_mark_cases_of_gap once longer left with ⟨equal, tail⟩ | held
    · exact .inl ⟨equal.symm, tail.symm⟩
    · exact .inr (.inr held)

lemma infix_append_cons {item : α} {part : List α} (outside : item ∉ part)
    (inside : part <:+: xs ++ item :: ys) : part <:+: xs ∨ part <:+: ys := by
  rcases List.infix_append_iff.1 inside with left | right | ⟨front, back, rfl, ends, begins⟩
  · exact .inl left
  · rcases List.infix_cons_iff.1 right with begins | later
    · rcases List.prefix_cons_iff.1 begins with rfl | ⟨more, rfl, -⟩
      · exact .inl List.nil_infix
      · simp at outside
    · exact .inr later
  · rcases List.prefix_cons_iff.1 begins with rfl | ⟨more, rfl, -⟩
    · exact .inl (by simpa using ends.isInfix)
    · simp at outside

lemma infix_of_infix_append {gap : List α} (outside : first ∉ gap)
    (inside : first :: rest <:+: gap ++ xs) : first :: rest <:+: xs := by
  induction gap with
  | nil => exact inside
  | cons item gap ih =>
    rw [List.mem_cons, not_or] at outside
    rcases List.infix_cons_iff.1 inside with begins | later
    · exact absurd (List.cons_prefix_cons.1 begins).1 outside.1
    · exact ih outside.2 later

end Marks

/-- The mark between the start and the type of a pattern. -/
def startMark : List Char := [')', '-', '[', ':']

def endMark : List Char := [']', '-', '>', '(', ':']

/-- A text that holds one of the marks. -/
def HoldsMark (text : String) : Prop := startMark <:+: text.toList ∨ endMark <:+: text.toList

instance (text : String) : Decidable (HoldsMark text) := inferInstanceAs (Decidable (_ ∨ _))

/-- A type and two labels of which one holds a mark. -/
def Marked (type startLabel endLabel : String) : Prop :=
  HoldsMark type ∨ HoldsMark startLabel ∨ HoldsMark endLabel

instance (type startLabel endLabel : String) : Decidable (Marked type startLabel endLabel) :=
  inferInstanceAs (Decidable (_ ∨ _ ∨ _))

section Patterns

variable {type startLabel endLabel type' startLabel' endLabel' : String}

lemma toList_pattern (type startLabel endLabel : String) :
    (pattern startLabel type endLabel).toList =
      ['(', ':'] ++ (startLabel.toList ++ (startMark ++ (type.toList ++
        (endMark ++ (endLabel.toList ++ [')']))))) := by
  simp [pattern, startMark, endMark]

lemma endMark_of_closed {text : List Char} (held : endMark <:+: text ++ [')']) :
    endMark <:+: text :=
  (infix_append_cons (by decide) held).resolve_right (by decide)

lemma startMark_of_closed {type finish : List Char}
    (held : startMark <:+: type ++ (endMark ++ (finish ++ [')']))) :
    startMark <:+: type ∨ startMark <:+: finish := by
  refine (infix_append_cons (by decide) held).imp_right fun later => ?_
  have gap : ')' ∉ ['-', '>', '(', ':'] := by decide
  have closed : startMark <:+: finish ++ [')'] := infix_of_infix_append gap later
  refine (List.infix_concat_iff.1 closed).resolve_left ?_
  rintro ⟨front, same⟩
  simpa [startMark] using congrArg List.getLast? same

/-- Two different triples of one pattern both hold a mark. -/
theorem eq_or_marked_of_pattern_eq
    (same : pattern startLabel type endLabel = pattern startLabel' type' endLabel') :
    (type = type' ∧ startLabel = startLabel' ∧ endLabel = endLabel') ∨
      (Marked type startLabel endLabel ∧ Marked type' startLabel' endLabel') := by
  have texts := congrArg String.toList same
  rw [toList_pattern, toList_pattern, List.append_right_inj] at texts
  rcases append_mark_cases (by decide) texts with ⟨starts, ends⟩ | ⟨here, held⟩ | ⟨here, held⟩
  · rw [String.toList_inj] at starts
    rcases append_mark_cases (by decide) ends with ⟨types, tails⟩ | ⟨here, held⟩ | ⟨here, held⟩
    · rw [String.toList_inj] at types
      rw [List.append_left_inj, String.toList_inj] at tails
      exact .inl ⟨types, starts, tails⟩
    · exact .inr ⟨.inr (.inr (.inr (endMark_of_closed held))), .inl (.inr here)⟩
    · exact .inr ⟨.inl (.inr here), .inr (.inr (.inr (endMark_of_closed held)))⟩
  · refine .inr ⟨?_, .inr (.inl (.inl here))⟩
    exact (startMark_of_closed held).elim (fun h => .inl (.inl h)) fun h => .inr (.inr (.inl h))
  · refine .inr ⟨.inr (.inl (.inl here)), ?_⟩
    exact (startMark_of_closed held).elim (fun h => .inl (.inl h)) fun h => .inr (.inr (.inl h))

end Patterns

/-- A relationship of the type between the labels. -/
def Relationship.Joins (relationship : Relationship) (type startLabel endLabel : String) : Prop :=
  relationship.type = type ∧ relationship.startLabel = startLabel ∧
    relationship.endLabel = endLabel

instance (relationship : Relationship) (type startLabel endLabel : String) :
    Decidable (relationship.Joins type startLabel endLabel) :=
  inferInstanceAs (Decidable (_ ∧ _ ∧ _))

lemma Relationship.Joins.pattern_eq {relationship : Relationship}
    {type startLabel endLabel : String} (joins : relationship.Joins type startLabel endLabel) :
    relationship.pattern = PropertyGraph.pattern startLabel type endLabel := by
  obtain ⟨rfl, rfl, rfl⟩ := joins
  rfl

namespace Model

variable {model : Model} {type startLabel endLabel : String}

/-- A type and two labels by which a model finds, removes, adds and queries the relationship
of this type between these labels, and no other one. -/
structure Identifies (model : Model) (type startLabel endLabel : String) : Prop where
  found : ∀ r, model.relationship? type startLabel endLabel = some r ↔
    r ∈ model.relationships ∧ r.Joins type startLabel endLabel
  removed : model.removeRelationship type startLabel endLabel =
    { model with
      relationships := model.relationships.filter (¬ ·.Joins type startLabel endLabel) }
  added : ∀ r : Relationship, r.Joins type startLabel endLabel → startLabel ∈ model.labels →
    endLabel ∈ model.labels → (∀ old ∈ model.relationships, ¬ old.Joins type startLabel endLabel) →
      model.addRelationship r = .ok { model with relationships := model.relationships ++ [r] }
  queried : ∀ r, model.relationship type startLabel endLabel = .ok r →
    ∃ start finish, model.node startLabel = .ok start ∧ model.node endLabel = .ok finish ∧
      Query.relationshipIngestFor model type startLabel endLabel =
        .ok (Query.relationshipIngest r start.key.name finish.key.name)

lemma exists_node {label : String} (member : label ∈ model.labels) :
    ∃ node, model.node label = .ok node := by
  obtain ⟨node, present, same⟩ := List.mem_map.1 member
  have found : (model.nodes.find? (·.label = label)).isSome := by
    simpa using ⟨node, present, same⟩
  obtain ⟨first, known⟩ := Option.isSome_iff_exists.1 found
  exact ⟨first, node_eq_ok_iff.2 known⟩

/-- A valid model identifies the texts whose pattern no relationship of another triple has. -/
lemma Valid.identifies (valid : model.Valid)
    (alone : ∀ r ∈ model.relationships, r.pattern = pattern startLabel type endLabel →
      r.Joins type startLabel endLabel) : model.Identifies type startLabel endLabel := by
  have found (r : Relationship) : model.relationship? type startLabel endLabel = some r ↔
      r ∈ model.relationships ∧ r.Joins type startLabel endLabel := by
    constructor
    · intro first
      have member := List.mem_of_find?_eq_some first
      exact ⟨member, alone r member (by simpa using List.find?_some first)⟩
    · rintro ⟨member, joins⟩
      exact find?_of_mem valid.patterns member joins.pattern_eq
  refine ⟨found, ?_, fun r joins start finish fresh => ?_, fun r known => ?_⟩
  · rw [Model.removeRelationship, eraseP_eq_filter_of_nodup valid.patterns]
    congr 1
    refine List.filter_congr fun r member => ?_
    simpa using Iff.intro (alone r member) Relationship.Joins.pattern_eq
  · refine addRelationship_eq_ok_iff.2 ⟨?_, ?_, rfl⟩
    · refine List.nodup_append_comm.1 (List.nodup_cons.2 ⟨fun taken => ?_, valid.patterns⟩)
      obtain ⟨old, member, same⟩ := List.mem_map.1 taken
      exact fresh old member (alone old member (same.trans joins.pattern_eq))
    · rw [joins.2.1, joins.2.2]
      exact ⟨start, finish⟩
  · obtain ⟨member, -, startSame, endSame⟩ := (found r).1 (relationship_eq_ok_iff.1 known)
    obtain ⟨startMember, endMember⟩ := valid.ends r member
    obtain ⟨start, startNode⟩ := exists_node (startSame ▸ startMember)
    obtain ⟨finish, endNode⟩ := exists_node (endSame ▸ endMember)
    refine ⟨start, finish, startNode, endNode, ?_⟩
    rw [Query.relationshipIngestFor, known, startNode, endNode]
    rfl

/-- A model identifies a type and two labels exactly if no other relationship of it has their
pattern, and this is so if they hold no mark or if no relationship does. -/
theorem identifies_iff (reachable : model.Reachable) :
    (model.Identifies type startLabel endLabel ↔
      ∀ r ∈ model.relationships, r.pattern = pattern startLabel type endLabel →
        r.Joins type startLabel endLabel) ∧
    (¬ Marked type startLabel endLabel ∨
        (∀ r ∈ model.relationships, ¬ Marked r.type r.startLabel r.endLabel) →
      model.Identifies type startLabel endLabel) := by
  have valid := reachable.valid
  refine ⟨⟨fun identifies r member same => ?_, valid.identifies⟩, fun unmarked => ?_⟩
  · exact ((identifies.found r).1 (find?_of_mem valid.patterns member same)).2
  · refine valid.identifies fun r member same => ?_
    rcases eq_or_marked_of_pattern_eq same with joins | ⟨here, there⟩
    · exact joins
    · exact (unmarked.elim (· there) (· r member here)).elim

end Model

/-- A node whose label reads like a part of a pattern. -/
def Node.drafting : Node := ⟨"Author)-[:WROTE]->(:Draft", .ofName "Id", [], .empty⟩

def Relationship.became : Relationship :=
  ⟨"BECAME", "Author)-[:WROTE]->(:Draft", "Book", none, [], .empty⟩

/-- A model with a relationship whose pattern reads like that of a path. -/
def Model.detour : Model := ⟨[.author, .book, .drafting], [.became, .wrote], .empty⟩

lemma Model.detour_reachable : detour.Reachable := by
  have drafting : Node.build "Author)-[:WROTE]->(:Draft" (.ofName "Id") [] .empty =
      .ok .drafting := by decide +kernel
  have became : Relationship.build "BECAME" "Author)-[:WROTE]->(:Draft" "Book" none [] .empty =
      .ok .became := by decide +kernel
  have nodes : Node.drafting.Reachable := .build (Property.ofName_built rfl) (by simp) drafting
  have relationships : Relationship.became.Reachable := .build (by simp) (by simp) became
  have built : Model.build detour.nodes detour.relationships .empty = .ok detour := by
    decide +kernel
  refine .initial (.build ?_ ?_ built)
  · simp [detour, nodes, Node.author_reachable, Node.book_reachable]
  · simp [detour, relationships, Relationship.wrote_reachable]

theorem Model.identifies_iff_detour :
    Model.detour.Reachable ∧ ¬ Marked "WROTE" "Author" "Book" ∧
      Model.detour.Identifies "WROTE" "Author" "Book" :=
  ⟨detour_reachable, by decide +kernel,
    (identifies_iff detour_reachable).2 (.inl (by decide +kernel))⟩

/-- Texts that no relationship has find, remove and keep out a relationship of their pattern,
and other such texts find it without a query for it. -/
theorem Model.mistakes_of_detour :
    Model.detour.Reachable ∧
      (∀ r ∈ detour.relationships, ¬ r.Joins "WROTE]->(:Draft)-[:BECAME" "Author" "Book") ∧
      detour.relationship? "WROTE]->(:Draft)-[:BECAME" "Author" "Book" = some .became ∧
      (detour.removeRelationship "WROTE]->(:Draft)-[:BECAME" "Author" "Book").relationships =
        [.wrote] ∧
      (∀ r : Relationship, r.Joins "WROTE]->(:Draft)-[:BECAME" "Author" "Book" →
        "Author" ∈ detour.labels ∧ "Book" ∈ detour.labels ∧
          ∀ next, detour.addRelationship r ≠ .ok next) ∧
      detour.relationship "WROTE" "Author" "Draft)-[:BECAME]->(:Book" = .ok .became ∧
      Query.relationshipIngestFor detour "WROTE" "Author" "Draft)-[:BECAME]->(:Book" =
        .error (.unknownLabel "Draft)-[:BECAME]->(:Book") := by
  refine ⟨detour_reachable, by decide +kernel, by decide +kernel, by decide +kernel, ?_,
    by decide +kernel, by decide +kernel⟩
  refine fun r joins => ⟨by decide, by decide, fun next added => ?_⟩
  have distinct := (addRelationship_eq_ok_iff.1 added).1
  rw [joins.pattern_eq] at distinct
  exact absurd distinct (by decide +kernel)

end PropertyGraph

import PropertyGraph.Proofs.Reachable
import PropertyGraph.Proofs.Words
import PropertyGraph.Query

/-! Statements that take in records say which entity they are for. Their texts are words between
marks: the labels, the type, the name of each key, and a list of names behind a mark of its own,
which is there only if the list is not empty. Each part is read off in turn, so statements for
entities whose texts are words are the same only if all these parts are. -/
namespace PropertyGraph
open Text (Word Breaks Closes)

/-- A node whose label and property names are words. -/
structure Node.Worded (node : Node) : Prop where
  label : Word node.label
  key : Word node.key.name
  others : ∀ name ∈ node.properties.map Property.name, Word name

structure Relationship.Worded (relationship : Relationship) : Prop where
  type : Word relationship.type
  startLabel : Word relationship.startLabel
  endLabel : Word relationship.endLabel
  key : ∀ name ∈ relationship.key.map Property.name, Word name
  others : ∀ name ∈ relationship.properties.map Property.name, Word name

namespace Query

def furtherAssignments : List String → String
  | [] => ""
  | name :: names => ", " ++ (assignment name ++ furtherAssignments names)

def mapText (first : String) (others : List String) : String :=
  "\x7b" ++ (assignment first ++ (furtherAssignments others ++ "\x7d"))

def keyText : Option String → String
  | none => ""
  | some name => " " ++ mapText name []

def setText (name : String) : List String → String
  | [] => ""
  | first :: others => "\n" ++ ("SET " ++ (name ++ (" += " ++ mapText first others)))

section Parts

variable {first second x y : String} {names others : List String}

lemma furtherAssignments_eq (names : List String) :
    furtherAssignments names = String.join (names.map (", " ++ assignment ·)) := by
  induction names with
  | nil => rfl
  | cons name names ih =>
    rw [furtherAssignments, ih, List.map_cons, String.join_cons, String.append_assoc]

lemma join_assignments (first : String) (others : List String) :
    Text.join ", " ((first :: others).map assignment) =
      assignment first ++ furtherAssignments others := by
  rw [List.map_cons, Text.join_eq, List.map_map, furtherAssignments_eq]
  rfl

lemma recordMap_cons (first : Property) (others : List Property) :
    recordMap (first :: others) = mapText first.name (others.map Property.name) := by
  have names : (first :: others).map (fun p => assignment p.name) =
      (first.name :: others.map Property.name).map assignment := by simp
  rw [recordMap, names, join_assignments]
  simp only [mapText, String.append_assoc]

lemma join_setLines {lines : List String} (some : lines ≠ []) (name : String)
    (properties : List Property) :
    Text.join "\n" (lines ++ setLines name properties) =
      Text.join "\n" lines ++ setText name (properties.map Property.name) := by
  cases properties with
  | nil => simp [setLines, setText]
  | cons first others =>
    rw [setLines, if_neg (by simp), Text.join, String.intercalate_append_of_ne_nil some (by simp),
      recordMap_cons]
    simp only [String.intercalate_singleton, setText, List.map_cons, String.append_assoc, Text.join]

lemma assignment_append_inj (hf : Word first) (hs : Word second)
    (same : assignment first ++ x = assignment second ++ y) : first = second ∧ x = y := by
  simp only [assignment, String.append_assoc] at same
  obtain ⟨rfl, rest⟩ := Word.mark_inj ⟨':', rfl, rfl⟩ hf hs same
  exact ⟨rfl, by simpa using rest⟩

lemma furtherAssignments_append_inj (hn : ∀ name ∈ names, Word name)
    (ho : ∀ name ∈ others, Word name)
    (same : furtherAssignments names ++ ("\x7d" ++ x) =
      furtherAssignments others ++ ("\x7d" ++ y)) :
    names = others ∧ x = y := by
  have separates : Closes ", " := ⟨',', rfl, rfl, by decide⟩
  have ends : Closes "\x7d" := ⟨'\x7d', rfl, rfl, by decide⟩
  rw [furtherAssignments_eq, furtherAssignments_eq] at same
  obtain ⟨related, rest⟩ := Text.join_append_inj (R := Eq) separates ends
    (fun _ _ _ _ hn ho _ _ => assignment_append_inj hn ho)
    (fun _ _ _ _ => separates.breaks.append_ne ends.breaks (by decide) _ _) hn ho same
  rw [List.forall₂_eq_eq_eq] at related
  exact ⟨related, rest⟩

lemma mapText_append_inj (hf : ∀ name ∈ first :: names, Word name)
    (hs : ∀ name ∈ second :: others, Word name)
    (same : mapText first names ++ x = mapText second others ++ y) :
    first = second ∧ names = others ∧ x = y := by
  rw [List.forall_mem_cons] at hf hs
  simp only [mapText, String.append_assoc, String.append_right_inj] at same
  obtain ⟨heads, rest⟩ := assignment_append_inj hf.1 hs.1 same
  exact ⟨heads, furtherAssignments_append_inj hf.2 hs.2 rest⟩

lemma keyText_append_inj {mark : String} {key key' : Option String} (hk : ∀ name ∈ key, Word name)
    (hk' : ∀ name ∈ key', Word name) {c : Char} (begins : mark.toList.head? = some c)
    (apart : c ≠ ' ') (same : keyText key ++ (mark ++ x) = keyText key' ++ (mark ++ y)) :
    key = key' ∧ x = y := by
  have differs (name x y : String) :
      keyText none ++ (mark ++ x) ≠ keyText (some name) ++ (mark ++ y) := by
    intro same
    have heads := congrArg (·.toList.head?) same
    simp [keyText, begins, apart] at heads
  cases key with
  | none =>
    cases key' with
    | none => exact ⟨rfl, by simpa [keyText] using same⟩
    | some name => exact absurd same (differs name x y)
  | some name =>
    cases key' with
    | none => exact absurd same.symm (differs name y x)
    | some name' =>
      simp only [keyText, String.append_assoc, String.append_right_inj] at same
      obtain ⟨rfl, -, rest⟩ := mapText_append_inj (by simpa using hk) (by simpa using hk') same
      exact ⟨rfl, by simpa using rest⟩

lemma setText_inj {name : String} (hn : ∀ name ∈ names, Word name)
    (ho : ∀ name ∈ others, Word name) (same : setText name names = setText name others) :
    names = others := by
  cases names with
  | nil =>
    cases others with
    | nil => rfl
    | cons other rest => simp [setText] at same
  | cons first rest =>
    cases others with
    | nil => simp [setText] at same
    | cons other rest' =>
      simp only [setText, String.append_right_inj] at same
      obtain ⟨rfl, rfl, -⟩ := mapText_append_inj (x := "") (y := "") hn ho (by simpa using same)
      rfl

lemma matchLine_append_inj {name member label label' key key' : String} (hl : Word label)
    (hl' : Word label') (hk : Word key) (hk' : Word key')
    (same : matchLine name label key member ++ x = matchLine name label' key' member ++ y) :
    label = label' ∧ key = key' ∧ x = y := by
  simp only [matchLine, String.append_assoc, String.append_right_inj] at same
  obtain ⟨rfl, rest⟩ := Word.mark_inj ⟨' ', rfl, rfl⟩ hl hl' same
  obtain ⟨rfl, rest⟩ := Word.mark_inj ⟨':', rfl, rfl⟩ hk hk' rest
  exact ⟨rfl, rfl, by simpa using rest⟩

end Parts

section Statements

lemma nodeIngest_eq (node : Node) :
    nodeIngest node =
      header ++ ("\n" ++ ("MERGE (n: " ++ (node.label ++ (keyText (some node.key.name) ++
        (")" ++ setText "n" (node.properties.map Property.name)))))) := by
  rw [nodeIngest, join_setLines (by simp), recordMap_cons]
  simp only [Text.join, String.intercalate_cons_cons, String.intercalate_singleton, keyText,
    List.map_nil, String.append_assoc]

lemma relationshipIngest_eq (relationship : Relationship) (startKey endKey : String) :
    relationshipIngest relationship startKey endKey =
      header ++ ("\n" ++ (matchLine "start" relationship.startLabel startKey "sourceId" ++
        ("\n" ++ (matchLine "end" relationship.endLabel endKey "targetId" ++
        ("\n" ++ ("MERGE (start)-[" ++
        ((if (relationship.properties.map Property.name).isEmpty then "" else "r") ++
        (":" ++ (relationship.type ++ (keyText (relationship.key.map Property.name) ++
        ("]->(end)" ++ setText "r" (relationship.properties.map Property.name)))))))))))) := by
  rw [relationshipIngest, join_setLines (by simp), List.isEmpty_map]
  cases relationship.key <;>
    simp only [Text.join, String.intercalate_cons_cons, String.intercalate_singleton, keyText,
      List.map_nil, String.append_assoc, recordMap_cons, Option.map_some, Option.map_none]

lemma breaks_keyText (key : Option String) {mark : String} (breaks : Breaks mark) (rest : String) :
    Breaks (keyText key ++ (mark ++ rest)) := by
  cases key with
  | none => simpa [keyText] using breaks.append rest
  | some name =>
    have blank : Breaks " " := ⟨' ', rfl, rfl⟩
    rw [keyText, String.append_assoc]
    exact blank.append _

lemma nodeIngest_inj {node other : Node} (hn : node.Worded) (ho : other.Worded)
    (same : nodeIngest node = nodeIngest other) :
    node.label = other.label ∧ node.key.name = other.key.name ∧
      node.properties.map Property.name = other.properties.map Property.name := by
  simp only [nodeIngest_eq, String.append_right_inj] at same
  have close : Breaks ")" := ⟨')', rfl, rfl⟩
  obtain ⟨labels, rest⟩ := hn.label.append_inj ho.label (breaks_keyText _ close _)
    (breaks_keyText _ close _) same
  obtain ⟨keys, rest⟩ := keyText_append_inj (by simpa using hn.key) (by simpa using ho.key)
    (c := ')') rfl (by decide) rest
  exact ⟨labels, Option.some.inj keys, setText_inj hn.others ho.others rest⟩

lemma relationshipIngest_inj {relationship other : Relationship} (hr : relationship.Worded)
    (ho : other.Worded) {startKey endKey startKey' endKey' : String} (hs : Word startKey)
    (he : Word endKey) (hs' : Word startKey') (he' : Word endKey')
    (same : relationshipIngest relationship startKey endKey =
      relationshipIngest other startKey' endKey') :
    relationship.type = other.type ∧ relationship.startLabel = other.startLabel ∧
      relationship.endLabel = other.endLabel ∧ startKey = startKey' ∧ endKey = endKey' ∧
      relationship.key.map Property.name = other.key.map Property.name ∧
      relationship.properties.map Property.name = other.properties.map Property.name := by
  simp only [relationshipIngest_eq, String.append_right_inj] at same
  obtain ⟨starts, startKeys, rest⟩ :=
    matchLine_append_inj hr.startLabel ho.startLabel hs hs' same
  rw [String.append_right_inj] at rest
  obtain ⟨ends, endKeys, rest⟩ := matchLine_append_inj hr.endLabel ho.endLabel he he' rest
  simp only [String.append_right_inj] at rest
  have bound (names : List String) : Word (if names.isEmpty then "" else "r") := by
    split <;> decide
  obtain ⟨-, rest⟩ := Word.mark_inj ⟨':', rfl, rfl⟩ (bound _) (bound _) rest
  have close : Breaks "]->(end)" := ⟨']', rfl, rfl⟩
  obtain ⟨types, rest⟩ := hr.type.append_inj ho.type (breaks_keyText _ close _)
    (breaks_keyText _ close _) rest
  obtain ⟨keys, rest⟩ := keyText_append_inj hr.key ho.key (c := ']') rfl (by decide) rest
  exact ⟨types, starts, ends, startKeys, endKeys, keys, setText_inj hr.others ho.others rest⟩

/-- Statements are the same exactly for entities that have the same label or type, the same
ends, the same names of keys and the same names of other properties in order. -/
theorem ingest_eq_iff :
    (∀ node other : Node, node.Worded → other.Worded →
      (nodeIngest node = nodeIngest other ↔
        node.label = other.label ∧ node.key.name = other.key.name ∧
          node.properties.map Property.name = other.properties.map Property.name)) ∧
    ∀ (relationship other : Relationship) (startKey endKey startKey' endKey' : String),
      relationship.Worded → other.Worded → Word startKey → Word endKey → Word startKey' →
        Word endKey' →
          (relationshipIngest relationship startKey endKey =
              relationshipIngest other startKey' endKey' ↔
            relationship.type = other.type ∧ relationship.startLabel = other.startLabel ∧
              relationship.endLabel = other.endLabel ∧ startKey = startKey' ∧
              endKey = endKey' ∧
              relationship.key.map Property.name = other.key.map Property.name ∧
              relationship.properties.map Property.name =
                other.properties.map Property.name) := by
  constructor
  · intro node other hn ho
    refine ⟨nodeIngest_inj hn ho, fun ⟨labels, keys, others⟩ => ?_⟩
    rw [nodeIngest_eq, nodeIngest_eq, labels, keys, others]
  · intro relationship other startKey endKey startKey' endKey' hr ho hs he hs' he'
    refine ⟨relationshipIngest_inj hr ho hs he hs' he', ?_⟩
    rintro ⟨types, starts, ends, startKeys, endKeys, keys, others⟩
    rw [relationshipIngest_eq, relationshipIngest_eq, types, starts, ends, startKeys, endKeys,
      keys, others]

/-- What an author wrote, in one year. -/
def dated : Relationship := { Relationship.wrote with properties := [.ofName "year"] }

/-- What an author wrote, once a year. -/
def yearly : Relationship := { Relationship.wrote with key := some (.ofName "year") }

/-- A property that is set is not taken for a key that is looked for. -/
theorem ingest_eq_iff_yearly :
    Node.author.Worded ∧ Node.book.Worded ∧ nodeIngest .author ≠ nodeIngest .book ∧
      dated.Worded ∧ yearly.Worded ∧
      relationshipIngest dated "Id" "isbn" ≠ relationshipIngest yearly "Id" "isbn" := by
  have author : Node.author.Worded := ⟨by decide, by decide, by decide⟩
  have book : Node.book.Worded := ⟨by decide, by decide, by decide⟩
  have properties : dated.Worded := by constructor <;> decide
  have key : yearly.Worded := by constructor <;> decide
  refine ⟨author, book, fun same => ?_, properties, key, fun same => ?_⟩
  · have labels := ((ingest_eq_iff.1 _ _ author book).1 same).1
    exact absurd labels (by decide)
  · have parts := (ingest_eq_iff.2 _ _ "Id" "isbn" "Id" "isbn" properties key (by decide)
      (by decide) (by decide) (by decide)).1 same
    exact absurd parts.2.2.2.2.2.1 (by decide)

end Statements
end Query
end PropertyGraph

import PropertyGraph.Proofs.Diagram.Redrawing

/-! Keys in diagrams. The first text in member order that ends in the mark of a key is read as
the key. The key's own text is written first and ends so, but another property can end so too,
and if its name is an index it can come before the key. -/
namespace PropertyGraph

/-- Whether the text that is written for a property beside the key ends in the mark of a key. -/
def Property.readsAsKey (property : Property) : Bool :=
  Diagram.isTagged (Diagram.textOf false property)

/-- No other property is read as the key: those that could be stand behind it. -/
def KeepsKey (key : Option Property) (others : List Property) : Prop :=
  ∀ p ∈ others, p.readsAsKey = true → ∃ k ∈ key, Members.precedes p.name k.name = false

instance (key : Option Property) (others : List Property) : Decidable (KeepsKey key others) :=
  inferInstanceAs (Decidable (∀ p ∈ others, _ → ∃ k ∈ key, _))

namespace Diagram

lemma readsAsKey_iff {property : Property} {type : String} {rest : List String}
    (split : PropertyText.segments property.type = type :: rest) :
    property.readsAsKey = true ↔
      ∃ last ∈ (rest ++ (property.description.filter (!·.isEmpty)).toList.flatMap
        PropertyText.segments).getLast?, Text.upper last = PropertyText.keyMark := by
  have segments := PropertyText.segments_format property false
  simp only [split, List.cons_append, Bool.false_eq_true, if_false, List.append_nil] at segments
  exact PropertyText.isKey_parse_iff segments

section Entities

variable {key : Option Property} {others : List Property}

lemma mem_writeProperties_none (valid : Writable none others)
    {entry : String × String} :
    entry ∈ writeProperties none others ↔ ∃ p ∈ others, textOf false p = entry := by
  rw [writeProperties_eq valid, (Members.arrange_perm _).mem_iff, textsOf]
  simp

/-- The texts of an entity with a key: those before the key's own are of properties that
precede it, and those behind it are not. -/
lemma exists_writeProperties_eq {k : Property} (valid : Writable (some k) others) :
    ∃ before after, writeProperties (some k) others = before ++ textOf true k :: after ∧
      (∀ entry, entry ∈ before ∨ entry ∈ after ↔ ∃ p ∈ others, textOf false p = entry) ∧
      (∀ entry ∈ before, Members.precedes entry.1 k.name = true) ∧
      ∀ entry ∈ after, Members.precedes entry.1 k.name = false := by
  obtain ⟨before, after, arranged, rest, earlier, later⟩ :=
    Members.exists_arrange_cons_eq (textOf true k) (others.map (textOf false))
  refine ⟨before, after, ?_, fun entry => ?_, earlier, later⟩
  · rw [writeProperties_eq valid, ← arranged]
    rfl
  · rw [← List.mem_append, ← rest, (Members.arrange_perm _).mem_iff, List.mem_map]

/-- The first text with the mark of a key is the key's own exactly if no property that reads as
a key precedes the key. -/
lemma find?_tagged_eq_key_iff {k : Property} (valid : Writable (some k) others) :
    ((writeProperties (some k) others).find? isTagged).map Prod.fst = some k.name ↔
      KeepsKey (some k) others := by
  obtain ⟨before, after, written, texts, earlier, later⟩ := exists_writeProperties_eq valid
  have own : k.name ∉ others.map Property.name := by
    have names := valid.names
    simp only [withKey, Option.toList_some, List.singleton_append, List.map_cons,
      List.nodup_cons] at names
    exact names.1
  rw [written, List.find?_append, List.find?_cons_of_pos (isTagged_key k)]
  constructor
  · intro same p member reads
    refine ⟨k, rfl, ?_⟩
    rcases (texts _).2 ⟨p, member, rfl⟩ with former | latter
    · obtain ⟨entry, first⟩ :=
        Option.isSome_iff_exists.1 (List.find?_isSome.2 ⟨_, former, reads⟩)
      obtain ⟨q, inside, made⟩ := (texts entry).1 (.inl (List.mem_of_find?_eq_some first))
      have name : q.name = entry.1 := congrArg Prod.fst made
      rw [first, Option.some_or, Option.map_some, Option.some.injEq, ← name] at same
      exact absurd (same ▸ List.mem_map_of_mem inside) own
    · exact later _ latter
  · intro keeps
    have none : before.find? isTagged = none := by
      refine List.find?_eq_none.2 fun entry former tagged => ?_
      obtain ⟨p, inside, rfl⟩ := (texts entry).1 (.inl former)
      obtain ⟨_, ⟨rfl⟩, behind⟩ := keeps p inside tagged
      have before := earlier _ former
      rw [textOf, behind] at before
      cases before
    rw [none]
    rfl

lemma find?_tagged_eq_none_iff (valid : Writable none others) :
    (writeProperties none others).find? isTagged = none ↔ KeepsKey none others := by
  rw [List.find?_eq_none]
  constructor
  · intro untagged p member reads
    exact absurd reads (untagged _ ((mem_writeProperties_none valid).2 ⟨p, member, rfl⟩))
  · intro keeps entry member tagged
    obtain ⟨p, inside, rfl⟩ := (mem_writeProperties_none valid).1 member
    obtain ⟨k, none, -⟩ := keeps p inside tagged
    cases none

/-- The name of the key, or that there is none, is read as it was written exactly if the key is
kept. -/
theorem name_key_iff (valid : Writable key others) :
    (splitTexts (writeProperties key others)).1.map Property.name = key.map Property.name ↔
      KeepsKey key others := by
  have name : (splitTexts (writeProperties key others)).1.map Property.name =
      ((writeProperties key others).find? isTagged).map Prod.fst := by
    rw [splitTexts, Option.map_map]
    rfl
  rw [name]
  cases key with
  | none => rw [← find?_tagged_eq_none_iff valid, Option.map_none, Option.map_eq_none_iff]
  | some k => exact find?_tagged_eq_key_iff valid

end Entities
section Models

variable {model : Model} {settings : Settings}

lemma name_key_redrawn {node : Node} (writable : Writable (some node.key) node.properties)
    (grid : Grid) (index : Nat) :
    (node.redrawn grid index).key.name = node.key.name ↔
      KeepsKey (some node.key) node.properties := by
  obtain ⟨key, first⟩ := exists_key_split writable
  have kept := name_key_iff writable
  rw [first, Option.map_some, Option.map_some, Option.some.injEq] at kept
  have same : (node.redrawn grid index).key = key := by simp [Node.redrawn, first]
  rw [same, kept]

lemma isSome_key_redrawn {relationship : Relationship}
    (writable : Writable relationship.key relationship.properties)
    (keyed : relationship.key.isSome = true) : relationship.redrawn.key.isSome = true := by
  obtain ⟨key, known⟩ := Option.isSome_iff_exists.1 keyed
  rw [known] at writable
  obtain ⟨first, found⟩ := exists_key_split writable
  simp [Relationship.redrawn, known, found]

/-- A model that is read from its own diagram has all its nodes and relationships again. A node
has a key of the name that it had, and a relationship too or none if it had none, exactly if no
property that reads as a key precedes the key, or stands in for one that is missing. -/
theorem keys_of_read_write (reachable : model.Reachable) (ordinary : model.OrdinaryNames)
    (positions : model.PositionsFinite) {asked : Option Json}
    (resolved : Settings.resolve asked = .ok settings)
    (finite : settings.grid.spacing.isFinite = true) :
    ∃ diagram back, (write model asked).answer = .ok diagram ∧
      (read (some diagram.toJson)).answer = .ok back ∧
      List.Forall₂ (fun (node back : Node) => back.label = node.label ∧
        (back.key.name = node.key.name ↔ KeepsKey (some node.key) node.properties))
          model.nodes back.nodes ∧
      List.Forall₂ (fun (relationship back : Relationship) =>
        back.pattern = relationship.pattern ∧
        (relationship.key.isSome = true → back.key.isSome = true) ∧
        (back.key.map Property.name = relationship.key.map Property.name ↔
          KeepsKey relationship.key relationship.properties))
          model.relationships back.relationships := by
  obtain ⟨diagram, written, read⟩ := exists_read_eq reachable ordinary positions resolved finite
  refine ⟨diagram, _, written, read, ?_, ?_⟩
  · exact forall₂_mapIdx fun node member index =>
      ⟨rfl, name_key_redrawn (writable_node ⟨model, reachable.valid⟩ ordinary member)
        settings.grid index⟩
  · refine List.forall₂_map_right_iff.2 (List.forall₂_same.2 fun relationship member => ?_)
    have writable := writable_relationship ⟨model, reachable.valid⟩ ordinary member
    exact ⟨rfl, isSome_key_redrawn writable, name_key_iff writable⟩

def describedAs (name description : String) : Property :=
  ⟨name, "STRING", none, some description, none⟩

lemma describedAs_built {name : String} (hn : Text.isBlank name = false) (description : String) :
    (describedAs name description).Built := by
  have standard : TypeTag.normalize "" = "STRING" := by decide +kernel
  exact ⟨⟨name, none, none, some description, none⟩,
    by simp [Property.build, hn, standard, describedAs]⟩

/-- Locks with a property that is described as a key. -/
def lock (kind : String) : Node :=
  ⟨"Lock", .ofName "serial", [describedAs kind "key", .ofName "2"], .empty⟩

def opens (property : Property) : Relationship :=
  ⟨"OPENS", "Lock", "Lock", none, [property], .empty⟩

def locks (kind : String) (property : Property) : Model := ⟨[lock kind], [opens property], .empty⟩

lemma locks_reachable {kind : String} {property : Property} (hk : Text.isBlank kind = false)
    (hp : property.Built)
    (node : Node.build "Lock" (.ofName "serial") [describedAs kind "key", .ofName "2"] .empty =
      .ok (lock kind))
    (relationship : Relationship.build "OPENS" "Lock" "Lock" none [property] .empty =
      .ok (opens property)) :
    (locks kind property).Reachable := by
  have two : (Property.ofName "2").Built := Property.ofName_built rfl
  have first : (lock kind).Reachable :=
    .build (Property.ofName_built rfl) (by simp [describedAs_built hk "key", two]) node
  have second : (opens property).Reachable := .build (by simp) (by simpa using hp) relationship
  have built : Model.build [lock kind] [opens property] .empty = .ok (locks kind property) := rfl
  exact .initial (.build (by simpa using first) (by simpa using second) built)

lemma locks_positionsFinite (kind : String) (property : Property) :
    (locks kind property).PositionsFinite :=
  Model.positionsFinite_of_empty (by simp [locks, lock])

/-- A property that is described as a key stays behind the key unless its name is an index. -/
theorem keys_of_read_write_locks : ∃ diagram back,
    (write (locks "kind" (.ofName "1")) none).answer = .ok diagram ∧
      (read (some diagram.toJson)).answer = .ok back ∧
      back.nodes.map (·.key.name) = ["serial"] ∧
      back.relationships.map (·.key.map Property.name) = [none] := by
  have reachable : (locks "kind" (.ofName "1")).Reachable :=
    locks_reachable rfl (Property.ofName_built rfl) rfl rfl
  have resolved : Settings.resolve none = .ok Settings.standard := by decide +kernel
  obtain ⟨diagram, back, written, read, nodes, relationships⟩ :=
    keys_of_read_write reachable (by decide +kernel) (locks_positionsFinite _ _) resolved
      (by decide +kernel)
  have keeps : KeepsKey (some (.ofName "serial")) (lock "kind").properties := by decide +kernel
  have bare : KeepsKey none [.ofName "1"] := by decide +kernel
  refine ⟨diagram, back, written, read, ?_, ?_⟩
  · obtain ⟨node, rest, ⟨-, name⟩, none, same⟩ := List.forall₂_cons_left_iff.1 nodes
    obtain rfl := List.forall₂_nil_left_iff.1 none
    rw [same, List.map_cons, name.2 keeps]
    rfl
  · obtain ⟨relationship, rest, ⟨-, -, key⟩, none, same⟩ :=
      List.forall₂_cons_left_iff.1 relationships
    obtain rfl := List.forall₂_nil_left_iff.1 none
    rw [same, List.map_cons, key.2 bare]
    rfl

/-- A property that is described as a key becomes the key if its name is an index, and also if
there is no key. -/
theorem rekeyed_of_read_write_locks : ∃ model : Model, model.Reachable ∧ model.PositionsFinite ∧
    model.nodes.map (·.key.name) = ["serial"] ∧
    model.relationships.map (·.key.map Property.name) = [none] ∧
    ∃ diagram back, (write model none).answer = .ok diagram ∧
      (read (some diagram.toJson)).answer = .ok back ∧
      back.nodes.map (·.key.name) = ["1"] ∧
      back.relationships.map (·.key.map Property.name) = [some "kind"] := by
  have computed : ((write (locks "1" (describedAs "kind" "KEY")) none).answer >>= fun diagram =>
      (read (some diagram.toJson)).answer.map fun back =>
        (back.nodes.map (·.key.name), back.relationships.map (·.key.map Property.name))) =
          .ok (["1"], [some "kind"]) := by
    decide +kernel
  obtain ⟨diagram, written, rest⟩ := Except.bind_eq_ok_iff.1 computed
  obtain ⟨back, read, keys⟩ := Except.map_eq_ok_iff.1 rest
  obtain ⟨nodes, relationships⟩ := Prod.mk.inj keys
  exact ⟨locks "1" (describedAs "kind" "KEY"),
    locks_reachable rfl (describedAs_built rfl "KEY") rfl rfl, locks_positionsFinite _ _, rfl, rfl,
    diagram, back, written, read, nodes, relationships⟩

end Models
end Diagram
end PropertyGraph

import PropertyGraph.Json.Value
import PropertyGraph.Proofs.Members

/-! Equality of JSON values, up to the order of the members of objects. -/
namespace PropertyGraph

namespace Json

/-- Values that are equal up to the order of members. -/
inductive Same : Json → Json → Prop
  | refl (value : Json) : Same value value
  | array {vs ws : List Json} (lengths : vs.length = ws.length)
      (items : ∀ (i : Nat) (v w : Json), vs[i]? = some v → ws[i]? = some w → Same v w) :
      Same (.array vs) (.array ws)
  | object {ms ns : List (String × Json)}
      (names : ∀ name, Members.get? name ms = none ↔ Members.get? name ns = none)
      (values : ∀ name v w, Members.get? name ms = some v → Members.get? name ns = some w →
        Same v w) :
      Same (.object ms) (.object ns)

/-- Members with the same names and equal values, one by one. -/
def SameMembers : List (String × Json) → List (String × Json) → Prop :=
  List.Forall₂ fun m n => m.1 = n.1 ∧ Same m.2 n.2

namespace SameMembers

variable {name : String} {v w : Json} {a b : Option Json} {ms ns : List (String × Json)}

lemma refl : (ms : List (String × Json)) → SameMembers ms ms
  | [] => .nil
  | _ :: ms => .cons ⟨rfl, .refl _⟩ (refl ms)

lemma cons (h : Same v w) (h' : SameMembers ms ns) :
    SameMembers ((name, v) :: ms) ((name, w) :: ns) := List.Forall₂.cons ⟨rfl, h⟩ h'

lemma append {ms' ns' : List (String × Json)} (h : SameMembers ms ns)
    (h' : SameMembers ms' ns') : SameMembers (ms ++ ms') (ns ++ ns') :=
  List.rel_append h h'

lemma optional (h : Option.Rel Same a b) :
    SameMembers (Json.optional name a) (Json.optional name b) := by
  cases h with
  | none => exact .nil
  | some same => exact cons same .nil

lemma optional_map {α β : Type} {f : α → Json} {g : α → β} {k : β → Json} {x : Option α}
    (h : ∀ y ∈ x, Same (f y) (k (g y))) :
    SameMembers (Json.optional name (x.map f)) (Json.optional name ((x.map g).map k)) := by
  cases x with
  | none => exact .nil
  | some y => exact cons (h y rfl) .nil

end SameMembers

namespace Same

variable {v w : Json} {vs ws : List Json} {ms ns : List (String × Json)}

theorem symm (h : Same v w) : Same w v := by
  induction h with
  | refl value => exact .refl value
  | array lengths _ ih => exact .array lengths.symm fun i a b ha hb => ih i b a hb ha
  | object names _ ih =>
    exact .object (fun name => (names name).symm) fun name a b ha hb => ih name b a hb ha

theorem trans {u : Json} (h : Same u v) (h' : Same v w) : Same u w := by
  induction h generalizing w with
  | refl value => exact h'
  | array lengths items ih =>
    cases h' with
    | refl => exact .array lengths items
    | array lengths' items' =>
      refine .array (lengths.trans lengths') fun i a c ha hc => ?_
      obtain ⟨inside, -⟩ := List.getElem?_eq_some_iff.1 hc
      have middle := List.getElem?_eq_getElem (lengths' ▸ inside)
      exact ih i a _ ha middle (items' i _ c middle hc)
  | object names values ih =>
    cases h' with
    | refl => exact .object names values
    | @object _ last names' values' =>
      refine .object (fun name => (names name).trans (names' name)) fun name a c ha hc => ?_
      obtain ⟨b, hb⟩ := Option.ne_none_iff_exists'.1 fun missing => by
        have absent := (names' name).1 missing
        rw [absent] at hc
        cases hc
      exact ih name a b ha hb (values' name b c hb hc)

lemma rel_refl (a : Option Json) : Option.Rel Same a a := by
  cases a with
  | none => exact .none
  | some v => exact .some (.refl v)

/-- Equal objects have equal members under every name. -/
lemma rel_get? (h : Same v w) (name : String) :
    Option.Rel Same (v.get? name) (w.get? name) := by
  cases h with
  | refl => exact rel_refl _
  | array => exact .none
  | @object ms ns names values =>
    change Option.Rel Same (Members.get? name ms) (Members.get? name ns)
    cases hv : Members.get? name ms with
    | none =>
      rw [(names name).1 hv]
      exact .none
    | some a =>
      cases hw : Members.get? name ns with
      | none => exact absurd ((names name).2 hw) (by simp [hv])
      | some b => exact .some (values name a b hv hw)

lemma member (h : Same v w) {name : String} {a b : Json} (ha : v.get? name = some a)
    (hb : w.get? name = some b) : Same a b := by
  have related := h.rel_get? name
  rw [ha, hb] at related
  exact Option.rel_some_some.1 related

lemma part (h : Same v w) (name : String) :
    Same ((v.get? name).getD .null) ((w.get? name).getD .null) := by
  have related := h.rel_get? name
  generalize v.get? name = a, w.get? name = b at related
  cases related with
  | none => exact .refl _
  | some same => exact same

lemma congr_get? {β : Type} {f : Option Json → β}
    (hf : ∀ {a b}, Same a b → f (some a) = f (some b)) (h : Same v w) (name : String) :
    f (v.get? name) = f (w.get? name) := by
  have related := h.rel_get? name
  generalize v.get? name = a, w.get? name = b at related
  cases related with
  | none => rfl
  | some same => exact hf same

lemma string?_eq (h : Same v w) : v.string? = w.string? := by
  cases h <;> rfl

lemma text_eq (h : Same v w) (name : String) : v.text name = w.text name :=
  congr_get? (f := fun member => (member.bind string?).getD "")
    (fun same => by simp [same.string?_eq]) h name

lemma map_member {β : Type} {f : Json → β} (hf : ∀ a b, Same a b → f a = f b) (h : Same v w)
    (name : String) : (v.get? name).map f = (w.get? name).map f :=
  congr_get? (f := Option.map f) (fun same => congrArg some (hf _ _ same)) h name

lemma map_items {β : Type} {f : Json → β} (hf : ∀ a b, Same a b → f a = f b)
    (h : Same v w) : (v.array?.getD []).map f = (w.array?.getD []).map f := by
  cases h with
  | refl => rfl
  | object => rfl
  | @array vs ws lengths items =>
    refine List.ext_getElem (by simpa [Json.array?] using lengths) fun i hv hw => ?_
    simp only [Json.array?, Option.getD_some, List.length_map] at hv hw
    simpa [Json.array?] using
      hf _ _ (items i _ _ (List.getElem?_eq_getElem hv) (List.getElem?_eq_getElem hw))

lemma map_list {β : Type} {f : Json → β} (hf : ∀ a b, Same a b → f a = f b) (h : Same v w)
    (name : String) : (v.list name).map f = (w.list name).map f :=
  congr_get? (f := fun member => ((member.bind array?).getD []).map f)
    (fun same => same.map_items hf) h name

lemma list {α β : Type} {f : α → Json} {g : α → β} {k : β → Json} {xs : List α}
    (h : ∀ x ∈ xs, Same (f x) (k (g x))) :
    Same (.array (xs.map f)) (.array ((xs.map g).map k)) := by
  refine .array (by simp) fun i a b ha hb => ?_
  simp only [List.getElem?_map, Option.map_eq_some_iff] at ha hb
  obtain ⟨x, hx, rfl⟩ := ha
  obtain ⟨y, ⟨x', hx', rfl⟩, rfl⟩ := hb
  rw [hx, Option.some.injEq] at hx'
  exact hx' ▸ h x (List.mem_of_getElem? hx)

lemma members (h : SameMembers ms ns) : Same (.object ms) (.object ns) := by
  have both : ∀ name, (Members.get? name ms = none ↔ Members.get? name ns = none) ∧
      ∀ a b, Members.get? name ms = some a → Members.get? name ns = some b → Same a b := by
    intro name
    induction h with
    | nil => exact ⟨Iff.rfl, fun a b ha => by cases ha⟩
    | @cons m n _ _ head _ ih =>
      obtain ⟨first, value⟩ := m
      obtain ⟨second, other⟩ := n
      obtain ⟨rfl, same⟩ := head
      by_cases here : name = first
      · subst here
        simpa [Members.get?] using same
      · simpa [Members.get?, Members.lookup_cons_ne _ _ here] using ih
  exact .object (fun name => (both name).1) fun name => (both name).2

/-- Objects are equal if they have equal members under every name. -/
lemma of_get? (each : ∀ name, Option.Rel Same (Members.get? name ms) (Members.get? name ns)) :
    Same (.object ms) (.object ns) := by
  refine .object (fun name => ?_) fun name a b ha hb => ?_
  · have related := each name
    generalize Members.get? name ms = a, Members.get? name ns = b at related
    cases related <;> simp
  · have related := each name
    rw [ha, hb] at related
    exact Option.rel_some_some.1 related

end Same
end Json
end PropertyGraph

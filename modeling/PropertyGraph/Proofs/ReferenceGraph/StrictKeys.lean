import PropertyGraph.Proofs.ReferenceGraph.RuleTargets

/-! Reading with declared keys only. Up to the first key that is replaced both ways of reading
take the same steps, and there the strict one stops: it refuses the label that the other one
warns of first, whatever the other one comes to later. -/
namespace PropertyGraph

def Event.replacedLabel? : Event → Option String
  | .keyReplaced label _ _ => some label
  | _ => none

/-- The message by itself tells the event. -/
lemma Event.isSome_replacedLabel? (event : Event) : event.replacedLabel?.isSome = true ↔
    event.message = "Key property not found; using first declared property" := by
  cases event <;> simp [replacedLabel?, message]

namespace Conversion

variable {α β : Type}

/-- The labels whose keys are replaced, in the order of the warnings. -/
def replacedLabels (conversion : Conversion α) : List String :=
  conversion.outcome.2.filterMap Event.replacedLabel?

lemma outcome_bind {conversion : Conversion α} {next : α → Conversion β}
    (rest : ∀ a, AddsOnly (next a)) : (conversion >>= next).outcome =
      match conversion.answer with
      | .ok a => ((next a).answer, conversion.outcome.2 ++ (next a).outcome.2)
      | .error error => (.error error, conversion.outcome.2) := by
  have steps : (conversion >>= next).outcome = _ := runFrom_bind conversion next []
  have first : conversion.runFrom [] = (conversion.answer, conversion.outcome.2) := rfl
  rw [steps, first]
  cases conversion.answer with
  | error error => rfl
  | ok a => exact rest a _

/-- The first conversion does what the second one does until that one replaces a key, and then
refuses the label instead. -/
structure Stricter (strict lenient : Conversion α) : Prop where
  addsOnly : AddsOnly strict
  addsOnly_lenient : AddsOnly lenient
  same : lenient.replacedLabels = [] → strict.outcome = lenient.outcome
  refused : ∀ label more, lenient.replacedLabels = label :: more →
    ∃ fault, strict.answer = .error (.missingKey label fault)

namespace Stricter

variable {strict lenient : Conversion α}

lemma refl (addsOnly : AddsOnly strict) (silent : strict.replacedLabels = []) :
    Stricter strict strict :=
  ⟨addsOnly, addsOnly, fun _ => rfl, fun label more warned => by simp [silent] at warned⟩

lemma same_answer (stricter : Stricter strict lenient) (silent : lenient.replacedLabels = []) :
    strict.answer = lenient.answer := congrArg Prod.fst (stricter.same silent)

lemma pure (a : α) : Stricter (pure a) (pure a) := .refl (.pure a) rfl

lemma lift (x : Except ModelError α) : Stricter (liftM x) (liftM x) :=
  .refl (.lift x) (by cases x <;> rfl)

lemma bind {next next' : α → Conversion β} (first : Stricter strict lenient)
    (rest : ∀ a, Stricter (next a) (next' a)) :
    Stricter (strict >>= next) (lenient >>= next') := by
  have adds (a : α) := (rest a).addsOnly
  have adds' (a : α) := (rest a).addsOnly_lenient
  have refuse {label : String} {more : List String}
      (warned : lenient.replacedLabels = label :: more) :
      ∃ fault, (strict >>= next).answer = .error (.missingKey label fault) := by
    obtain ⟨fault, refused⟩ := first.refused label more warned
    exact ⟨fault, by rw [answer, outcome_bind adds, refused]⟩
  cases answered : lenient.answer with
  | error error =>
    have stopped : (lenient >>= next').outcome = (.error error, lenient.outcome.2) := by
      rw [outcome_bind adds', answered]
    have labels : (lenient >>= next').replacedLabels = lenient.replacedLabels :=
      congrArg (·.2.filterMap Event.replacedLabel?) stopped
    refine ⟨first.addsOnly.bind adds, first.addsOnly_lenient.bind adds', fun silent => ?_,
      fun label more warned => refuse (labels ▸ warned)⟩
    have unwarned : lenient.replacedLabels = [] := labels ▸ silent
    rw [outcome_bind adds, (first.same_answer unwarned).trans answered, stopped,
      first.same unwarned]
  | ok a =>
    have went : (lenient >>= next').outcome =
        ((next' a).answer, lenient.outcome.2 ++ (next' a).outcome.2) := by
      rw [outcome_bind adds', answered]
    have labels : (lenient >>= next').replacedLabels =
        lenient.replacedLabels ++ (next' a).replacedLabels :=
      (congrArg (·.2.filterMap Event.replacedLabel?) went).trans List.filterMap_append
    refine ⟨first.addsOnly.bind adds, first.addsOnly_lenient.bind adds', fun silent => ?_,
      fun label more warned => ?_⟩
    · rw [labels, List.append_eq_nil_iff] at silent
      rw [outcome_bind adds, (first.same_answer silent.1).trans answered, went,
        first.same silent.1, ← (rest a).same_answer silent.2, ← (rest a).same silent.2]
    · rw [labels, List.append_eq_cons_iff] at warned
      rcases warned with ⟨before, after⟩ | ⟨others, before, -⟩
      · obtain ⟨fault, refused⟩ := (rest a).refused label more after
        have went : strict.answer = .ok a := (first.same_answer before).trans answered
        exact ⟨fault, by rw [answer, outcome_bind adds, went, ← refused]⟩
      · exact refuse before

lemma mapM {f f' : α → Conversion β} (each : ∀ x, Stricter (f x) (f' x)) (xs : List α) :
    Stricter (xs.mapM f) (xs.mapM f') := by
  induction xs with
  | nil => exact .pure []
  | cons x xs ih =>
    rw [List.mapM_cons, List.mapM_cons]
    exact (each x).bind fun y => ih.bind fun ys => .pure (y :: ys)

end Stricter
end Conversion

namespace ReferenceGraph
open Conversion (AddsOnly Stricter replacedLabels)

lemma EntityDef.stricter_chooseKey (label : EntityDef) (declared : Option String) :
    Stricter (label.chooseKey declared true) (label.chooseKey declared false) := by
  simp only [EntityDef.chooseKey]
  rcases label.properties.find? _ with _ | key
  · rcases label.properties with _ | ⟨first, others⟩
    · exact .refl (.throw _) rfl
    · refine ⟨.throw _, (AddsOnly.tell _).bind fun _ => .pure _, fun silent => ?_,
        fun token more warned => ?_⟩
      · cases silent
      · cases warned
        exact ⟨_, rfl⟩
  · exact .pure _

lemma EntityDef.stricter_toNode (bindings : Bindings) (label : EntityDef) :
    Stricter (label.toNode bindings true) (label.toNode bindings false) := by
  unfold EntityDef.toNode
  exact (label.stricter_chooseKey _).bind fun _ => (Stricter.lift _).bind fun _ =>
    (Stricter.mapM (fun _ => .lift _) _).bind fun _ => .lift _

lemma stricter_toModel (graph : ReferenceGraph) :
    Stricter (graph.toModel true) (graph.toModel false) := by
  have last (nodes relationships : Nat) (model : Model) : Stricter
      (do Conversion.tell (.referenceGraphRead nodes relationships); return model)
      (do Conversion.tell (.referenceGraphRead nodes relationships); return model) :=
    .refl ((AddsOnly.tell _).bind fun _ => .pure _) rfl
  unfold toModel
  exact (Stricter.lift _).bind fun bindings =>
    (Stricter.mapM (EntityDef.stricter_toNode bindings) _).bind fun _ =>
      (Stricter.mapM (fun _ => .lift _) _).bind fun _ => (Stricter.lift _).bind (last _ _)

/-- A whole run of the strict import against one of the other. -/
theorem stricter_read (document : Option Json) :
    Stricter (read document true) (read document false) := by
  unfold read
  exact (Stricter.lift _).bind fun json => stricter_toModel (ofJson json)

/-- Declared keys suffice for what is read without a warning, and only for that; where a model
is read with warnings, the label of the first one is refused. -/
theorem read_strict_iff (document : Option Json) (model : Model) :
    ((read document true).answer = .ok model ↔
      (read document false).answer = .ok model ∧ (read document false).replacedLabels = []) ∧
    (∀ label more, (read document false).answer = .ok model →
      (read document false).replacedLabels = label :: more →
        ∃ fault, (read document true).answer = .error (.missingKey label fault)) := by
  have stricter := stricter_read document
  refine ⟨⟨fun strict => ?_, fun ⟨lenient, silent⟩ => ?_⟩, fun label more _ warned =>
    stricter.refused label more warned⟩
  · cases warned : (read document false).replacedLabels with
    | nil => exact ⟨(stricter.same_answer warned).symm.trans strict, rfl⟩
    | cons label more =>
      obtain ⟨fault, refused⟩ := stricter.refused label more warned
      rw [refused] at strict
      cases strict
  · exact (stricter.same_answer silent).trans lenient

theorem read_strict_iff_titles : ∃ model fault,
    (read (some titles.toJson) false).answer = .ok model ∧
      (read (some titles.toJson) true).answer = .error (.missingKey "Book" fault) := by
  have answers : (read (some titles.toJson) false).answer.isOk = true := by decide +kernel
  have warned : (read (some titles.toJson) false).replacedLabels = ["Book"] := by decide +kernel
  obtain ⟨model, lenient⟩ := Except.exists_of_isOk answers
  obtain ⟨fault, refused⟩ :=
    (read_strict_iff (some titles.toJson) model).2 "Book" [] lenient warned
  exact ⟨model, fault, lenient, refused⟩

end ReferenceGraph
end PropertyGraph

import PropertyGraph.Event
import PropertyGraph.Proofs.Lists

/-! How conversions and other computations that may fail come to an answer. A sequence of
steps answers exactly when every step does, and what has been told before has no influence on
the answer of a conversion that only adds to it. -/
namespace PropertyGraph

variable {α β ε : Type}

namespace Except

theorem bind_eq_ok_iff {x : Except ε α} {f : α → Except ε β} {b : β} :
    x >>= f = .ok b ↔ ∃ a, x = .ok a ∧ f a = .ok b := by
  cases x <;> simp [bind, Except.bind]

theorem map_eq_ok_iff {x : Except ε α} {f : α → β} {b : β} :
    x.map f = .ok b ↔ ∃ a, x = .ok a ∧ f a = b := by
  cases x <;> simp [Except.map]

theorem bind_eq_error_iff {x : Except ε α} {f : α → Except ε β} {e : ε} :
    x >>= f = .error e ↔ x = .error e ∨ ∃ a, x = .ok a ∧ f a = .error e := by
  cases x <;> simp [bind, Except.bind]

theorem map_eq_error_iff {x : Except ε α} {f : α → β} {e : ε} :
    x.map f = .error e ↔ x = .error e := by
  cases x <;> simp [Except.map]

theorem exists_of_isOk {x : Except ε α} (h : x.isOk = true) : ∃ a, x = .ok a := by
  cases x with
  | ok a => exact ⟨a, rfl⟩
  | error e => cases h

theorem mapM_eq_ok_iff {f : α → Except ε β} {xs : List α} {ys : List β} :
    xs.mapM f = .ok ys ↔ List.Forall₂ (fun x y => f x = .ok y) xs ys := by
  induction xs generalizing ys with
  | nil => cases ys <;> simp [pure, Except.pure]
  | cons x xs ih =>
    simp only [List.mapM_cons, bind_eq_ok_iff, ih, List.forall₂_cons_left_iff, pure,
      Except.pure, Except.ok.injEq]
    constructor
    · rintro ⟨y, hy, ys', hys, rfl⟩
      exact ⟨y, ys', hy, hys, rfl⟩
    · rintro ⟨y, ys', hy, hys, rfl⟩
      exact ⟨y, hy, ys', hys, rfl⟩

theorem exists_of_mem_mapM {f : α → Except ε β} {xs : List α} {ys : List β}
    (mapped : xs.mapM f = .ok ys) {y : β} (member : y ∈ ys) : ∃ x ∈ xs, f x = .ok y :=
  exists_mem_of_forall₂ (mapM_eq_ok_iff.1 mapped) member

theorem forall_mem_of_mapM {f : α → Except ε β} {P : β → Prop}
    (ensures : ∀ x y, f x = .ok y → P y) {xs : List α} {ys : List β}
    (mapped : xs.mapM f = .ok ys) : ∀ y ∈ ys, P y := by
  intro y member
  obtain ⟨x, -, made⟩ := exists_of_mem_mapM mapped member
  exact ensures x y made

theorem mapM_eq_map {f : α → Except ε β} {g : α → β} {xs : List α}
    (answers : ∀ x ∈ xs, f x = .ok (g x)) : xs.mapM f = .ok (xs.map g) := by
  rw [mapM_eq_ok_iff, List.forall₂_map_right_iff, List.forall₂_same]
  exact answers

/-- What is written item by item is read back if every item is. -/
theorem mapM_map_eq {f : β → Except ε α} {g : α → β} {xs : List α}
    (undoes : ∀ x ∈ xs, f (g x) = .ok x) : (xs.map g).mapM f = .ok xs := by
  rw [mapM_eq_ok_iff, List.forall₂_map_left_iff, List.forall₂_same]
  exact undoes

theorem eq_map_of_mapM_zipIdx {f : α × Nat → Except ε β} {g : α → β} {xs : List α} {ys : List β}
    (ensures : ∀ x i y, f (x, i) = .ok y → y = g x) (mapped : xs.zipIdx.mapM f = .ok ys) :
    ys = xs.map g := by
  have related := mapM_eq_ok_iff.1 mapped
  have same : List.Forall₂ (fun entry y => (g ∘ Prod.fst) entry = y) xs.zipIdx ys :=
    related.imp fun entry y made => (ensures entry.1 entry.2 y made).symm
  rw [← List.forall₂_map_left_iff, List.forall₂_eq_eq_eq, ← List.map_map,
    List.zipIdx_map_fst] at same
  exact same.symm

theorem forall₂_of_mapM_zipIdx {f : α × Nat → Except ε β} {R : α → β → Prop} {xs : List α}
    {ys : List β} (ensures : ∀ x i y, f (x, i) = .ok y → R x y)
    (mapped : xs.zipIdx.mapM f = .ok ys) : List.Forall₂ R xs ys := by
  have related : List.Forall₂ (fun entry y => R (Prod.fst entry) y) xs.zipIdx ys :=
    (mapM_eq_ok_iff.1 mapped).imp fun entry y made => ensures entry.1 entry.2 y made
  rw [← List.forall₂_map_left_iff, List.zipIdx_map_fst] at related
  exact related

theorem mapM_zipIdx_eq_map {γ : Type} {f : α → β} {step : β × Nat → Except ε γ} {result : α → γ}
    {xs : List α} (answers : ∀ i x, xs[i]? = some x → step (f x, i) = .ok (result x)) :
    (xs.map f).zipIdx.mapM step = .ok (xs.map result) := by
  have each : ∀ entry ∈ xs.zipIdx,
      (step ∘ Prod.map f id) entry = .ok ((result ∘ Prod.fst) entry) := by
    rintro ⟨x, i⟩ member
    exact answers i x (List.mem_zipIdx_iff_getElem?.1 member)
  rw [List.zipIdx_map, List.mapM_map, mapM_eq_map each, ← List.map_map,
    List.zipIdx_map_fst]

end Except

namespace Conversion

/-- What a conversion answers and has told at the end, when some events have been told
before. -/
def runFrom (conversion : Conversion α) (log : List Event) : Except ModelError α × List Event :=
  StateT.run conversion.run log

/-- The answer of a conversion, apart from what it tells. -/
def answer (conversion : Conversion α) : Except ModelError α := conversion.outcome.1

/-- A conversion only adds to what has been told, and does not look at it. -/
def AddsOnly (conversion : Conversion α) : Prop :=
  ∀ log, conversion.runFrom log = (conversion.answer, log ++ conversion.outcome.2)

theorem runFrom_bind (conversion : Conversion α) (next : α → Conversion β) (log : List Event) :
    (conversion >>= next).runFrom log =
      match conversion.runFrom log with
      | (.ok a, mid) => (next a).runFrom mid
      | (.error e, mid) => (.error e, mid) := by
  simp only [runFrom, ExceptT.run_bind, StateT.run_bind]
  rcases (StateT.run conversion.run log : Except ModelError α × List Event) with ⟨_ | _, mid⟩ <;>
    rfl

@[simp] theorem answer_pure (a : α) : (pure a : Conversion α).answer = .ok a := rfl

@[simp] theorem answer_throw (e : ModelError) : (throw e : Conversion α).answer = .error e := rfl

@[simp] theorem answer_tell (event : Event) : (tell event).answer = .ok () := rfl

@[simp] theorem answer_lift (x : Except ModelError α) : (liftM x : Conversion α).answer = x := by
  cases x <;> rfl

theorem AddsOnly.pure (a : α) : AddsOnly (pure a : Conversion α) :=
  fun log => congrArg (Prod.mk _) (List.append_nil log).symm

theorem AddsOnly.throw (e : ModelError) : AddsOnly (throw e : Conversion α) :=
  fun log => congrArg (Prod.mk _) (List.append_nil log).symm

theorem AddsOnly.tell (event : Event) : AddsOnly (tell event) := fun _ => rfl

theorem AddsOnly.lift (x : Except ModelError α) : AddsOnly (liftM x : Conversion α) := by
  cases x with
  | ok a => exact AddsOnly.pure a
  | error e => exact AddsOnly.throw e

theorem AddsOnly.bind {conversion : Conversion α} {next : α → Conversion β}
    (first : AddsOnly conversion) (rest : ∀ a, AddsOnly (next a)) :
    AddsOnly (conversion >>= next) := by
  intro log
  have atStart : (conversion >>= next).outcome = _ := runFrom_bind conversion next []
  rw [answer, atStart, runFrom_bind, first log, first []]
  cases conversion.answer with
  | error e => simp
  | ok a => simp [rest a _]

theorem AddsOnly.mapM {f : α → Conversion β} (each : ∀ x, AddsOnly (f x)) (xs : List α) :
    AddsOnly (xs.mapM f) := by
  induction xs with
  | nil => exact AddsOnly.pure []
  | cons x xs ih =>
    rw [List.mapM_cons]
    exact (each x).bind fun y => ih.bind fun ys => AddsOnly.pure (y :: ys)

theorem answer_bind {conversion : Conversion α} {next : α → Conversion β}
    (rest : ∀ a, AddsOnly (next a)) :
    (conversion >>= next).answer = conversion.answer >>= fun a => (next a).answer := by
  have atStart : (conversion >>= next).outcome = _ := runFrom_bind conversion next []
  have known : conversion.runFrom [] = (conversion.answer, conversion.outcome.2) := rfl
  rw [answer, atStart, known]
  cases conversion.answer with
  | error e => rfl
  | ok a =>
    change ((next a).runFrom _).1 = (next a).answer
    rw [rest a]

theorem answer_mapM {f : α → Conversion β} (each : ∀ x, AddsOnly (f x)) (xs : List α) :
    (xs.mapM f).answer = xs.mapM fun x => (f x).answer := by
  induction xs with
  | nil => rfl
  | cons x xs ih =>
    rw [List.mapM_cons, List.mapM_cons, answer_bind fun y =>
      (AddsOnly.mapM each xs).bind fun ys => AddsOnly.pure (y :: ys)]
    congr 1
    funext y
    rw [answer_bind fun ys => AddsOnly.pure (y :: ys), ih]
    rfl

theorem AddsOnly.tellAll (events : List Event) : AddsOnly (events.forM Conversion.tell) := by
  induction events with
  | nil => exact AddsOnly.pure ()
  | cons event rest ih => exact (AddsOnly.tell event).bind fun _ => ih

theorem answer_tellAll (events : List Event) : (events.forM tell).answer = .ok () := by
  induction events with
  | nil => rfl
  | cons event rest ih =>
    change (tell event >>= fun _ => rest.forM tell).answer = .ok ()
    rw [answer_bind fun _ => AddsOnly.tellAll rest, answer_tell, ih]
    rfl

end Conversion
end PropertyGraph

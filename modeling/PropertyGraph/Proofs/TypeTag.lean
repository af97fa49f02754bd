import Mathlib
import PropertyGraph.Model.Property

/-! Type tags in reference graphs. Upper-casing twice is upper-casing once, for no form that
it gives has a form of its own; so a tag in normal form is kept by a reference graph that
has a tag for it, and becomes the standard one otherwise. The case table is compared with
itself run against run, and points are only listed where two runs overlap. -/
namespace PropertyGraph
namespace Text

namespace CaseRun

def holds (run : CaseRun) (code : Nat) : Bool :=
  run.first.ble code && (code.ble run.last && ((code - run.first) % run.step).beq 0)

def avoids (run : CaseRun) (first last step : Nat) : Bool :=
  last.blt run.first || (run.last.blt first ||
    (List.range' first ((last - first) / step + 1) step).all fun code => !run.holds code)

def image (run : CaseRun) (code : Nat) : Nat := (code + run.shift).toNat

lemma holds_iff {run : CaseRun} {code : Nat} :
    run.holds code = true ↔
      run.first ≤ code ∧ code ≤ run.last ∧ (code - run.first) % run.step = 0 := by
  simp [holds]

lemma holds_of_avoids {run : CaseRun} {first last step k : Nat}
    (h : run.avoids first last step = true) (hk : first + k * step ≤ last) :
    run.holds (first + k * step) = false := by
  by_contra held
  rw [Bool.not_eq_false, holds_iff] at held
  obtain ⟨above, below, aligned⟩ := held
  simp only [avoids, Bool.or_eq_true, Nat.blt_eq, List.all_eq_true] at h
  rcases h with before | behind | apart
  · omega
  · omega
  · have listed : first + k * step ∈ List.range' first ((last - first) / step + 1) step := by
      rcases Nat.eq_zero_or_pos step with rfl | positive
      · exact List.mem_range'.2 ⟨0, by simp, by simp⟩
      · have bound : k ≤ (last - first) / step := by
          rw [Nat.le_div_iff_mul_le positive]
          omega
        exact List.mem_range'.2 ⟨k, by omega, by rw [Nat.mul_comm]⟩
    have missed := apart _ listed
    have held : run.holds (first + k * step) = true := holds_iff.2 ⟨above, below, aligned⟩
    simp [held] at missed

end CaseRun

/-- Whether a code point stands in no run and has no expansion. -/
def isSettled (expansions : List (Nat × List Nat)) (runs : List CaseRun) (code : Nat) : Bool :=
  (runs.all fun run => !run.holds code) && expansions.all fun entry => !entry.1.beq code

def settles (expansions : List (Nat × List Nat)) (runs : List CaseRun) (run : CaseRun) : Bool :=
  let first := run.image run.first
  let last := run.image run.last
  decide (0 ≤ run.first + run.shift) &&
    ((runs.all fun other => other.avoids first last run.step) &&
      expansions.all fun entry => (CaseRun.mk entry.1 entry.1 1 0).avoids first last run.step)

section Tables

variable {expansions : List (Nat × List Nat)} {runs : List CaseRun} {code : Nat}

lemma exists_of_shiftIn? {shift : Int} (h : shiftIn? code runs = some shift) :
    ∃ run ∈ runs, run.holds code = true ∧ run.shift = shift := by
  induction runs with
  | nil => simp [shiftIn?] at h
  | cons run rest ih =>
    simp only [shiftIn?] at h
    split_ifs at h with before inside
    · have held : run.holds code = true := CaseRun.holds_iff.2 ⟨by omega, inside⟩
      exact ⟨run, by simp, held, by simpa using h⟩
    · obtain ⟨other, member, held, same⟩ := ih h
      exact ⟨other, by simp [member], held, same⟩

lemma shiftIn?_eq_none (h : ∀ run ∈ runs, run.holds code = false) :
    shiftIn? code runs = none := by
  cases found : shiftIn? code runs with
  | none => rfl
  | some shift =>
    obtain ⟨run, member, held, -⟩ := exists_of_shiftIn? found
    simp [h run member] at held

lemma caseForm_of_isSettled {c : Char} (h : isSettled expansions runs c.toNat = true) :
    caseForm expansions runs c = [c] := by
  simp only [isSettled, Bool.and_eq_true, List.all_eq_true, Bool.not_eq_true'] at h
  have key : expansions.lookup c.toNat = none := by
    rw [List.lookup_eq_none_iff]
    intro entry member
    have different := h.2 entry member
    rw [bne_iff_ne]
    intro same
    simp [same] at different
  rw [caseForm, key, shiftIn?_eq_none h.1]

/-- A character has an expansion, or its place in a run, or else itself for its form. -/
lemma caseForm_cases (expansions : List (Nat × List Nat)) (runs : List CaseRun) (c : Char) :
    (∃ codes, (c.toNat, codes) ∈ expansions ∧
        caseForm expansions runs c = codes.map Char.ofNat) ∨
      (∃ run ∈ runs, run.holds c.toNat = true ∧
        caseForm expansions runs c = [Char.ofNat (run.image c.toNat)]) ∨
      caseForm expansions runs c = [c] := by
  cases key : expansions.lookup c.toNat with
  | some codes =>
    obtain ⟨before, behind, split, -⟩ := List.lookup_eq_some_iff.1 key
    exact .inl ⟨codes, by simp [split], by rw [caseForm, key]⟩
  | none =>
    cases found : shiftIn? c.toNat runs with
    | some shift =>
      obtain ⟨run, member, held, rfl⟩ := exists_of_shiftIn? found
      exact .inr (.inl ⟨run, member, held, by rw [caseForm, key, found, CaseRun.image]⟩)
    | none => exact .inr (.inr (by rw [caseForm, key, found]))

lemma isSettled_image {run : CaseRun} (h : settles expansions runs run = true)
    (held : run.holds code = true) : isSettled expansions runs (run.image code) = true := by
  simp only [settles, Bool.and_eq_true, decide_eq_true_eq, List.all_eq_true] at h
  obtain ⟨positive, clear, keys⟩ := h
  obtain ⟨above, below, step⟩ := CaseRun.holds_iff.1 held
  obtain ⟨k, hk⟩ := Nat.dvd_of_mod_eq_zero step
  have place : run.image code = run.image run.first + k * run.step := by
    simp only [CaseRun.image]
    rw [Nat.mul_comm] at hk
    omega
  have inside : run.image run.first + k * run.step ≤ run.image run.last := by
    rw [← place]
    simp only [CaseRun.image]
    omega
  simp only [isSettled, Bool.and_eq_true, List.all_eq_true, Bool.not_eq_true']
  refine ⟨fun other member => ?_, fun entry member => ?_⟩
  · rw [place]
    exact CaseRun.holds_of_avoids (clear other member) inside
  · have apart := CaseRun.holds_of_avoids (keys entry member) inside
    rw [← place] at apart
    by_contra same
    have equal : entry.1 = run.image code := by simpa using same
    rw [equal] at apart
    have held : (CaseRun.mk (run.image code) (run.image code) 1 0).holds (run.image code) =
        true := CaseRun.holds_iff.2 (by simp)
    simp [held] at apart

end Tables

/-- No code point of an upper-case form has an upper-case form of its own. -/
theorem settles_upperRuns :
    (upperRuns.all fun run => settles upperExpansions upperRuns run) = true := by decide +kernel

theorem isSettled_upperExpansions :
    (upperExpansions.all fun entry => entry.2.all (isSettled upperExpansions upperRuns)) = true := by
  decide +kernel

lemma isSettled_ofNat {code : Nat} (h : isSettled upperExpansions upperRuns code = true) :
    isSettled upperExpansions upperRuns (Char.ofNat code).toNat = true := by
  by_cases valid : code.isValidChar
  · rwa [Char.toNat_ofNat, if_pos valid]
  · rw [Char.toNat_ofNat, if_neg valid]
    decide +kernel

lemma upperForm_of_mem {c d : Char} (h : d ∈ upperForm c) : upperForm d = [d] := by
  have runs := settles_upperRuns
  have expansions := isSettled_upperExpansions
  simp only [List.all_eq_true] at runs expansions
  rcases caseForm_cases upperExpansions upperRuns c with
    ⟨codes, entry, form⟩ | ⟨run, member, held, form⟩ | form
  · rw [upperForm, form] at h
    obtain ⟨code, inside, rfl⟩ := List.mem_map.1 h
    exact caseForm_of_isSettled (isSettled_ofNat (expansions _ entry code inside))
  · rw [upperForm, form, List.mem_singleton] at h
    subst h
    exact caseForm_of_isSettled (isSettled_ofNat (isSettled_image (runs run member) held))
  · rw [upperForm, form, List.mem_singleton] at h
    rw [h, upperForm, form]

/-- Upper-casing what is in upper case already changes nothing. -/
theorem upper_upper (s : String) : upper (upper s) = upper s := by
  have once : ∀ d ∈ s.toList.flatMap upperForm, upperForm d = [d] := by
    intro d hd
    obtain ⟨c, -, hc⟩ := List.mem_flatMap.1 hd
    exact upperForm_of_mem hc
  simp only [upper, String.toList_ofList]
  congr 1
  rw [List.flatMap_congr once]
  simp

end Text

namespace TypeTag

/-- The tag that is left of a tag once a reference graph has carried it. -/
def carried (tag : String) : String :=
  if tag ∈ ["STRING", "INTEGER", "FLOAT", "BOOLEAN"] then tag else "STRING"

lemma carried_mem (tag : String) : carried tag ∈ ["STRING", "INTEGER", "FLOAT", "BOOLEAN"] := by
  unfold carried
  split
  · assumption
  · decide

lemma upper_normalize (text : String) : Text.upper (normalize text) = normalize text := by
  simp only [normalize]
  split
  · decide
  · exact Text.upper_upper _

lemma lookup_exchange (tag : String) :
    (exchange.lookup tag).getD "string" = (exchange.lookup (carried tag)).getD "string" := by
  unfold carried
  split
  · rfl
  · rename_i unknown
    have absent : exchange.lookup tag = none := by
      rw [List.lookup_eq_none_iff]
      intro entry member
      rw [bne_iff_ne]
      rintro rfl
      refine unknown ?_
      simp only [exchange, List.mem_cons, List.not_mem_nil, or_false] at member
      rcases member with h | h | h | h <;> simp [h]
    rw [absent]
    rfl

/-- Carrying is all that a reference graph does to a tag in normal form. -/
theorem fromReferenceGraph_toReferenceGraph {tag : String} (upper : Text.upper tag = tag) :
    fromReferenceGraph (toReferenceGraph tag) = carried tag := by
  rw [toReferenceGraph, upper, lookup_exchange]
  have member := carried_mem tag
  simp only [List.mem_cons, List.not_mem_nil, or_false] at member
  rcases member with h | h | h | h <;> rw [h] <;> decide

lemma normalize_carried (tag : String) : normalize (carried tag) = carried tag := by
  have member := carried_mem tag
  simp only [List.mem_cons, List.not_mem_nil, or_false] at member
  rcases member with h | h | h | h <;> rw [h] <;> decide

lemma toReferenceGraph_carried {tag : String} (upper : Text.upper tag = tag) :
    toReferenceGraph (carried tag) = toReferenceGraph tag := by
  have fixed : Text.upper (carried tag) = carried tag := by
    rw [← normalize_carried, upper_normalize]
  rw [toReferenceGraph, toReferenceGraph, fixed, upper, ← lookup_exchange]

end TypeTag
end PropertyGraph

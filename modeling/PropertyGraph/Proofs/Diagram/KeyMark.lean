import PropertyGraph.Proofs.Diagram.PropertyText

/-! The mark of a key, told by its letters. A text is that of a key exactly if KEY stands behind
its last separator, in any case and with any blanks around: no other letters have these three
for their upper-case forms. -/
namespace PropertyGraph

namespace Text

def markCodes : List Nat := [0x4B, 0x45, 0x59]

/-- Only the lower-case letters, 32 points on, have one of them for their counterpart, and no
expansion is made of them alone. -/
theorem upperTables_mark :
    (upperRuns.all fun run => markCodes.all fun code =>
      !run.holds (code - run.shift).toNat || (code - run.shift).toNat.beq (code + 32)) = true ∧
    (upperExpansions.all fun entry =>
      entry.2.any fun code => !markCodes.contains (Char.ofNat code).toNat) = true := by
  decide +kernel

lemma upperForm_mark {c : Char} (marks : ∀ d ∈ upperForm c, d.toNat ∈ markCodes) :
    ∃ d, upperForm c = [d] ∧ (c.toNat = d.toNat ∨ c.toNat = d.toNat + 32) := by
  rcases caseForm_cases upperExpansions upperRuns c with
    ⟨codes, entry, form⟩ | ⟨run, member, held, form⟩ | form
  · have other := List.all_eq_true.1 upperTables_mark.2 _ entry
    obtain ⟨code, inside, unmarked⟩ := List.any_eq_true.1 other
    have marked := marks (Char.ofNat code) (by
      rw [upperForm, form]
      exact List.mem_map_of_mem inside)
    exact absurd marked (by simpa using unmarked)
  · refine ⟨_, form, .inr ?_⟩
    have marked := marks (Char.ofNat (run.image c.toNat)) (by simp [upperForm, form])
    rw [CaseRun.image, Char.toNat_ofNat] at marked
    rw [CaseRun.image, Char.toNat_ofNat]
    split at marked
    · rename_i valid
      rw [if_pos valid]
      have positive : (c.toNat + run.shift).toNat ≠ 0 := by
        intro zero
        rw [zero] at marked
        exact absurd marked (by decide)
      have apart := List.all_eq_true.1 (List.all_eq_true.1 upperTables_mark.1 run member) _ marked
      have same : ((c.toNat + run.shift).toNat - run.shift).toNat = c.toNat := by omega
      rw [same, held] at apart
      simpa using apart
    · exact absurd marked (by decide)
  · exact ⟨c, form, .inl rfl⟩

/-- What has these letters alone for its upper-case form has them already, in one case or the
other. -/
lemma forall₂_of_flatMap_upperForm {cs form : List Char}
    (marks : ∀ d ∈ form, d.toNat ∈ markCodes) (made : cs.flatMap upperForm = form) :
    List.Forall₂ (fun c d => c.toNat = d.toNat ∨ c.toNat = d.toNat + 32) cs form := by
  induction cs generalizing form with
  | nil =>
    rw [← made]
    exact .nil
  | cons c rest ih =>
    rw [List.flatMap_cons] at made
    subst made
    rw [List.forall_mem_append] at marks
    obtain ⟨d, single, near⟩ := upperForm_mark marks.1
    rw [single]
    exact .cons near (ih marks.2 rfl)

end Text

namespace Diagram.PropertyText

def keyLetters : List (List Char) := [['K', 'k'], ['E', 'e'], ['Y', 'y']]

/-- Behind the last separator of a text stands KEY, in any case and with any blanks around. -/
def EndsInKey (text : String) : Prop :=
  ∃ front back, text.toList = front ++ '|' :: back ∧ '|' ∉ back ∧
    List.Forall₂ (· ∈ ·) (Text.trimChars back) keyLetters

lemma upper_eq_keyMark_iff {cs : List Char} :
    Text.upper (String.ofList cs) = keyMark ↔ List.Forall₂ (· ∈ ·) cs keyLetters := by
  constructor
  · intro upper
    have form : cs.flatMap Text.upperForm = ['K', 'E', 'Y'] := by
      simpa [Text.upper, keyMark] using congrArg String.toList upper
    have letters : keyLetters = ['K', 'E', 'Y'].map fun d => [d, Char.ofNat (d.toNat + 32)] := by
      decide
    have marks : ∀ d ∈ ['K', 'E', 'Y'], d.toNat ∈ Text.markCodes := by simp [Text.markCodes]
    rw [letters, List.forall₂_map_right_iff]
    refine (Text.forall₂_of_flatMap_upperForm marks form).imp fun c d near => ?_
    rcases near with same | lower
    · simp [Char.toNat_inj.1 same]
    · rw [← lower, Char.ofNat_toNat]
      simp
  · intro letters
    obtain ⟨k, _, hk, others, rfl⟩ := List.forall₂_cons_right_iff.1 letters
    obtain ⟨e, _, he, last, rfl⟩ := List.forall₂_cons_right_iff.1 others
    obtain ⟨y, _, hy, none, rfl⟩ := List.forall₂_cons_right_iff.1 last
    obtain rfl := List.forall₂_nil_right_iff.1 none
    simp only [List.mem_cons, List.not_mem_nil, or_false] at hk he hy
    rcases hk with rfl | rfl <;> rcases he with rfl | rfl <;> rcases hy with rfl | rfl <;> decide

section Marks

variable {text : String} {front back : List Char}

lemma isKey_parse_of_split (split : text.toList = front ++ '|' :: back) (last : '|' ∉ back) :
    (parse text).isKey = true ↔ List.Forall₂ (· ∈ ·) (Text.trimChars back) keyLetters := by
  obtain ⟨first, others, parts⟩ :=
    List.exists_cons_of_ne_nil (Text.segments_ne_nil '|' front)
  have cut : segments text = String.ofList (Text.trimChars first) ::
      (others.map (fun segment => String.ofList (Text.trimChars segment)) ++
        [String.ofList (Text.trimChars back)]) := by
    simp [segments, split, Text.segments_append, parts, Text.segments_of_not_mem last]
  rw [isKey_parse_iff cut, List.getLast?_concat]
  simp [upper_eq_keyMark_iff]

lemma exists_last_separator (some : '|' ∈ text.toList) :
    ∃ front back, text.toList = front ++ '|' :: back ∧ '|' ∉ back := by
  obtain ⟨back, front, split, last⟩ := List.eq_append_cons_of_mem (List.mem_reverse.2 some)
  refine ⟨front.reverse, back.reverse, ?_, by simpa using last⟩
  simpa using congrArg List.reverse split

theorem isKey_parse_iff_endsInKey : (parse text).isKey = true ↔ EndsInKey text := by
  constructor
  · intro marked
    by_cases some : '|' ∈ text.toList
    · obtain ⟨front, back, split, last⟩ := exists_last_separator some
      exact ⟨front, back, split, last, (isKey_parse_of_split split last).1 marked⟩
    · have whole : segments text = [String.ofList (Text.trimChars text.toList)] := by
        simp [segments, Text.segments_of_not_mem some]
      simp [isKey_parse_iff whole] at marked
  · rintro ⟨front, back, split, last, letters⟩
    exact (isKey_parse_of_split split last).2 letters

end Marks
end Diagram.PropertyText
end PropertyGraph

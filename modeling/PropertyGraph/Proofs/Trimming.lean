import PropertyGraph.Proofs.TypeTag

/-! Blanks at the ends of texts. Upper-casing neither makes nor removes one, so a type tag in
normal form has none. -/
namespace PropertyGraph
namespace Text

section Trimming

variable {c : Char} {cs : List Char}

lemma trimChars_cons_blank (blank : isBlankChar c = true) (cs : List Char) :
    trimChars (c :: cs) = trimChars cs := by
  rw [trimChars, List.dropWhile_cons_of_pos blank, trimChars]

lemma trimChars_append_blank (blank : isBlankChar c = true) (cs : List Char) :
    trimChars (cs ++ [c]) = trimChars cs := by
  unfold trimChars
  rw [List.dropWhile_append]
  split
  · rename_i none
    rw [List.isEmpty_iff.1 none, List.dropWhile_cons_of_pos blank]
    rfl
  · rw [List.reverse_append, List.reverse_singleton, List.singleton_append,
      List.dropWhile_cons_of_pos blank]

lemma mem_of_mem_trimChars (h : c ∈ trimChars cs) : c ∈ cs := by
  have inside := (List.dropWhile_sublist _).subset (List.mem_reverse.1 h)
  exact (List.dropWhile_sublist _).subset (List.mem_reverse.1 inside)

def Trimmed (cs : List Char) : Prop :=
  (∀ c ∈ cs.head?, isBlankChar c = false) ∧ ∀ c ∈ cs.getLast?, isBlankChar c = false

lemma dropWhile_of_head (h : ∀ c ∈ cs.head?, isBlankChar c = false) :
    cs.dropWhile isBlankChar = cs := by
  cases cs with
  | nil => rfl
  | cons c rest => exact List.dropWhile_cons_of_neg (by simpa using h c rfl)

lemma Trimmed.trimChars_eq (trimmed : Trimmed cs) : trimChars cs = cs := by
  rw [trimChars, dropWhile_of_head trimmed.1, dropWhile_of_head, List.reverse_reverse]
  rw [List.head?_reverse]
  exact trimmed.2

lemma head?_dropWhile (cs : List Char) :
    ∀ c ∈ (cs.dropWhile isBlankChar).head?, isBlankChar c = false := by
  intro c first
  have stopped := List.head?_dropWhile_not isBlankChar cs
  rw [Option.mem_def.1 first] at stopped
  simpa using stopped

lemma trimmed_trimChars (cs : List Char) : Trimmed (trimChars cs) := by
  constructor
  · intro c first
    obtain ⟨rest, kept⟩ : ∃ rest, cs.dropWhile isBlankChar = trimChars cs ++ rest := by
      obtain ⟨tail, split⟩ := List.dropWhile_suffix isBlankChar
        (l := (cs.dropWhile isBlankChar).reverse)
      refine ⟨tail.reverse, ?_⟩
      rw [trimChars, ← List.reverse_append, split, List.reverse_reverse]
    refine head?_dropWhile cs c ?_
    rw [kept, List.head?_append, Option.mem_def.1 first]
    rfl
  · rw [trimChars, List.getLast?_reverse]
    exact head?_dropWhile _

end Trimming

section Upper

def blankCodes : List Nat :=
  [9, 10, 11, 12, 13, 0x20, 0xA0, 0x1680, 0x2000, 0x2001, 0x2002, 0x2003, 0x2004, 0x2005, 0x2006,
    0x2007, 0x2008, 0x2009, 0x200A, 0x2028, 0x2029, 0x202F, 0x205F, 0x3000, 0xFEFF]

lemma isBlankChar_iff (c : Char) : isBlankChar c = true ↔ c.toNat ∈ blankCodes := by
  simp only [isBlankChar, blankCodes, Bool.or_eq_true, Bool.and_eq_true, decide_eq_true_eq,
    List.mem_cons, List.not_mem_nil, or_false]
  omega

/-- Code points that upper-casing makes of no others: those of blanks, and that of the bar. -/
def unmadeCodes : List Nat := 0x7C :: blankCodes

theorem upperRuns_spare : (upperRuns.all fun run =>
    unmadeCodes.all fun code => !run.holds (code - run.shift).toNat) = true := by
  decide +kernel

theorem upperExpansions_spare : (upperExpansions.all fun entry =>
    !entry.2.isEmpty &&
      entry.2.all fun code => !unmadeCodes.contains (Char.ofNat code).toNat) = true := by
  decide +kernel

lemma image_not_unmade {run : CaseRun} {code : Nat} (member : run ∈ upperRuns)
    (held : run.holds code = true) :
    (Char.ofNat (run.image code)).toNat ∉ unmadeCodes := by
  intro unmade
  rw [CaseRun.image, Char.toNat_ofNat] at unmade
  split at unmade
  · have apart := upperRuns_spare
    simp only [List.all_eq_true, Bool.not_eq_true'] at apart
    have different := apart run member _ unmade
    have positive : (code + run.shift).toNat ≠ 0 := by
      intro zero
      rw [zero] at unmade
      exact absurd unmade (by decide)
    have same : ((code + run.shift).toNat - run.shift).toNat = code := by omega
    rw [same, held] at different
    cases different
  · exact absurd unmade (by decide)

/-- A character that upper-casing makes of no other comes from itself only. -/
lemma upperForm_spares (c : Char) :
    upperForm c ≠ [] ∧ ∀ d ∈ upperForm c, d.toNat ∈ unmadeCodes → d = c := by
  rcases caseForm_cases upperExpansions upperRuns c with
    ⟨codes, entry, form⟩ | ⟨run, member, held, form⟩ | form
  · have apart := upperExpansions_spare
    simp only [List.all_eq_true, Bool.and_eq_true, Bool.not_eq_true'] at apart
    obtain ⟨some, each⟩ := apart _ entry
    rw [upperForm, form]
    refine ⟨by simpa using some, fun d member unmade => ?_⟩
    obtain ⟨code, inside, rfl⟩ := List.mem_map.1 member
    exact absurd (List.contains_iff_mem.2 unmade) (by simpa using each code inside)
  · rw [upperForm, form]
    refine ⟨by simp, fun d single unmade => ?_⟩
    rw [List.mem_singleton.1 single] at unmade
    exact absurd unmade (image_not_unmade member held)
  · rw [upperForm, form]
    exact ⟨by simp, fun d single _ => List.mem_singleton.1 single⟩

lemma upperForm_not_blank {c : Char} (h : isBlankChar c = false) :
    upperForm c ≠ [] ∧ ∀ d ∈ upperForm c, isBlankChar d = false := by
  obtain ⟨some, spares⟩ := upperForm_spares c
  refine ⟨some, fun d member => ?_⟩
  by_contra blank
  rw [Bool.not_eq_false] at blank
  have same := spares d member (List.mem_cons_of_mem _ ((isBlankChar_iff d).1 blank))
  rw [← same, blank] at h
  cases h

lemma head?_flatMap_upperForm {cs : List Char}
    (h : ∀ c ∈ cs.head?, isBlankChar c = false) :
    ∀ d ∈ (cs.flatMap upperForm).head?, isBlankChar d = false := by
  cases cs with
  | nil => simp
  | cons c rest =>
    obtain ⟨some, each⟩ := upperForm_not_blank (h c rfl)
    intro d first
    rw [List.flatMap_cons, List.head?_append_of_ne_nil _ some] at first
    exact each d (List.mem_of_mem_head? first)

lemma getLast?_flatMap_upperForm {cs : List Char}
    (h : ∀ c ∈ cs.getLast?, isBlankChar c = false) :
    ∀ d ∈ (cs.flatMap upperForm).getLast?, isBlankChar d = false := by
  rcases cs.eq_nil_or_concat' with rfl | ⟨rest, c, rfl⟩
  · simp
  · obtain ⟨some, each⟩ := upperForm_not_blank (h c (by simp))
    intro d last
    rw [List.flatMap_append, List.flatMap_singleton, List.getLast?_append_of_ne_nil _ some] at last
    exact each d (List.mem_of_mem_getLast? last)

lemma bar_not_mem_flatMap_upperForm {cs : List Char} (absent : '|' ∉ cs) :
    '|' ∉ cs.flatMap upperForm := by
  intro made
  obtain ⟨c, member, bar⟩ := List.mem_flatMap.1 made
  rw [← (upperForm_spares c).2 '|' bar (by decide)] at member
  exact absent member

lemma Trimmed.upper {cs : List Char} (trimmed : Trimmed cs) :
    Trimmed (cs.flatMap upperForm) :=
  ⟨head?_flatMap_upperForm trimmed.1, getLast?_flatMap_upperForm trimmed.2⟩

end Upper
end Text

namespace TypeTag

/-- A type tag in normal form says something, with no blanks at its ends. -/
theorem trimmed_normalize (text : String) :
    normalize text ≠ "" ∧ Text.Trimmed (normalize text).toList := by
  have trimmed : Text.Trimmed (Text.trim text).toList := by
    rw [Text.trim, String.toList_ofList]
    exact Text.trimmed_trimChars _
  simp only [normalize]
  split
  · have ends : Text.isBlankChar 'S' = false ∧ Text.isBlankChar 'G' = false := by decide
    exact ⟨by decide, by simpa [standard] using ends.1, by simpa [standard] using ends.2⟩
  · rename_i some
    refine ⟨fun none => some ?_, ?_⟩
    · cases cs : (Text.trim text).toList with
      | nil => simpa using cs
      | cons c rest =>
        rw [cs] at trimmed
        have first := (Text.upperForm_not_blank (trimmed.1 c rfl)).1
        simp [Text.upper, cs, first] at none
    · rw [Text.upper, String.toList_ofList]
      exact trimmed.upper

theorem bar_not_mem_normalize {text : String} (absent : '|' ∉ text.toList) :
    '|' ∉ (normalize text).toList := by
  have trimmed : '|' ∉ (Text.trim text).toList := by
    rw [Text.trim, String.toList_ofList]
    exact fun kept => absent (Text.mem_of_mem_trimChars kept)
  simp only [normalize]
  split
  · decide
  · rw [Text.upper, String.toList_ofList]
    exact Text.bar_not_mem_flatMap_upperForm trimmed

lemma trim_normalize (text : String) : Text.trim (normalize text) = normalize text := by
  rw [Text.trim, (trimmed_normalize text).2.trimChars_eq, String.ofList_toList]

/-- A type tag in normal form stands for itself. -/
theorem normalize_eq_self (text : String) : normalize (normalize text) = normalize text := by
  have some := (trimmed_normalize text).1
  conv_lhs => rw [normalize]
  simp only [trim_normalize, upper_normalize]
  exact if_neg (by simpa using some)

end TypeTag
end PropertyGraph

import Mathlib
import PropertyGraph.Text.Basic

/-! Words in texts. A word ends where a character comes that no word has, so a text that puts
words between fixed marks says which words they are. A list of lines, each behind a separator, is
read off line by line up to a mark that is not the beginning of another one. -/
namespace PropertyGraph.Text

/-- A letter from A to Z in either case, a digit, or an underscore. -/
def isWordChar (c : Char) : Bool := c.isAlphanum || c = '_'

def Word (text : String) : Prop := ∀ c ∈ text.toList, isWordChar c = true

/-- A text that does not go on with a word before it, and is not empty. -/
def Breaks (text : String) : Prop := ∃ c ∈ text.toList.head?, isWordChar c = false

instance (text : String) : Decidable (Word text) :=
  decidable_of_iff (text.toList.all isWordChar = true) List.all_eq_true

variable {mark s t x y : String}

lemma Breaks.head?_append (breaks : Breaks mark) (rest : String) :
    (mark ++ rest).toList.head? = mark.toList.head? := by
  obtain ⟨c, first, -⟩ := breaks
  rw [String.toList_append, List.head?_append, Option.mem_def.1 first, Option.some_or]

lemma Breaks.append (breaks : Breaks mark) (rest : String) : Breaks (mark ++ rest) := by
  rw [Breaks, breaks.head?_append]
  exact breaks

lemma Breaks.append_ne {mark' : String} (breaks : Breaks mark) (breaks' : Breaks mark')
    (apart : mark.toList.head? ≠ mark'.toList.head?) (x y : String) : mark ++ x ≠ mark' ++ y := by
  intro same
  rw [← breaks.head?_append x, same, breaks'.head?_append] at apart
  exact apart rfl

lemma takeWhile_of_breaks (word : Word s) (breaks : Breaks x) :
    (s ++ x).toList.takeWhile isWordChar = s.toList := by
  obtain ⟨c, first, outside⟩ := breaks
  obtain ⟨rest, split⟩ := List.head?_eq_some_iff.1 first
  rw [String.toList_append, split, List.takeWhile_append_of_pos word,
    List.takeWhile_cons_of_neg (by simp [outside]), List.append_nil]

theorem Word.append_inj (hs : Word s) (ht : Word t) (hx : Breaks x) (hy : Breaks y)
    (same : s ++ x = t ++ y) : s = t ∧ x = y := by
  have words := congrArg (fun text => text.toList.takeWhile isWordChar) same
  simp only [takeWhile_of_breaks hs hx, takeWhile_of_breaks ht hy, String.toList_inj] at words
  subst words
  exact ⟨rfl, by simpa using same⟩

lemma Word.append_ne {mark' : String} (word : Word s) (breaks : Breaks mark)
    (breaks' : Breaks mark') (apart : mark.toList.head? ≠ mark'.toList.head?) (x y : String) :
    s ++ (mark ++ x) ≠ mark' ++ y := by
  intro same
  have none : Word "" := by simp [Word]
  have rest := word.append_inj none (breaks.append x) (breaks'.append y) (by simpa using same)
  exact breaks.append_ne breaks' apart x y rest.2

lemma Word.mark_inj (breaks : Breaks mark) (hs : Word s) (ht : Word t)
    (same : s ++ (mark ++ x) = t ++ (mark ++ y)) : s = t ∧ x = y := by
  obtain ⟨words, rest⟩ := hs.append_inj ht (breaks.append x) (breaks.append y) same
  exact ⟨words, by simpa using rest⟩

section Lists

/-- A text that goes on neither with a word before it nor with a blank. -/
def Closes (text : String) : Prop := ∃ c ∈ text.toList.head?, isWordChar c = false ∧ c ≠ ' '

lemma Closes.breaks (closes : Closes mark) : Breaks mark := by
  obtain ⟨c, first, outside, -⟩ := closes
  exact ⟨c, first, outside⟩

lemma Closes.append (closes : Closes mark) (rest : String) : Closes (mark ++ rest) := by
  rw [Closes, closes.breaks.head?_append]
  exact closes

lemma join_eq (separator first : String) (others : List String) :
    join separator (first :: others) = first ++ String.join (others.map (separator ++ ·)) := by
  induction others generalizing first with
  | nil => simp [join]
  | cons second rest ih =>
    have step : join separator (first :: second :: rest) =
        first ++ separator ++ join separator (second :: rest) := String.intercalate_cons_cons
    rw [step, ih, List.map_cons, String.join_cons]
    simp only [String.append_assoc]

variable {α : Type} {P : α → Prop} {R : α → α → Prop} {line : α → String} {xs ys : List α}
  {separator : String}

lemma closes_join (separates : Closes separator) (ends : Closes mark) (xs : List α) (x : String) :
    Closes (String.join (xs.map (separator ++ line ·)) ++ (mark ++ x)) := by
  cases xs with
  | nil => simpa using ends.append x
  | cons a rest =>
    rw [List.map_cons, String.join_cons, String.append_assoc, String.append_assoc]
    exact separates.append _

/-- Lines are read off one after the other, up to a mark that is not the beginning of one. -/
theorem join_append_inj (separates : Closes separator) (ends : Closes mark)
    (reads : ∀ a b x y, P a → P b → Closes x → Closes y → line a ++ x = line b ++ y →
      R a b ∧ x = y)
    (apart : ∀ a x y, P a → separator ++ (line a ++ x) ≠ mark ++ y)
    (hx : ∀ a ∈ xs, P a) (hy : ∀ b ∈ ys, P b)
    (same : String.join (xs.map (separator ++ line ·)) ++ (mark ++ x) =
      String.join (ys.map (separator ++ line ·)) ++ (mark ++ y)) :
    List.Forall₂ R xs ys ∧ x = y := by
  induction xs generalizing ys with
  | nil =>
    cases ys with
    | nil => exact ⟨.nil, by simpa using same⟩
    | cons b rest =>
      simp only [List.map_nil, List.map_cons, String.join_nil, String.join_cons,
        String.empty_append, String.append_assoc] at same
      exact absurd same.symm (apart b _ _ (hy b (by simp)))
  | cons a rest ih =>
    rw [List.forall_mem_cons] at hx
    cases ys with
    | nil =>
      simp only [List.map_nil, List.map_cons, String.join_nil, String.join_cons,
        String.empty_append, String.append_assoc] at same
      exact absurd same (apart a _ _ hx.1)
    | cons b rest' =>
      rw [List.forall_mem_cons] at hy
      simp only [List.map_cons, String.join_cons, String.append_assoc,
        String.append_right_inj] at same
      obtain ⟨heads, later⟩ := reads a b _ _ hx.1 hy.1 (closes_join separates ends rest x)
        (closes_join separates ends rest' y) same
      obtain ⟨others, behind⟩ := ih hx.2 hy.2 later
      exact ⟨.cons heads others, behind⟩

end Lists
end PropertyGraph.Text

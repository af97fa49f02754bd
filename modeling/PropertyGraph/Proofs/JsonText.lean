import PropertyGraph.Json.Printer
import PropertyGraph.Proofs.Members
import PropertyGraph.Proofs.Numeral

/-! The text of a value is read as that value: every text with its escapes, every finite number,
lists and objects of any depth, on one line or over many. Only values as a program holds them
come back: two members of one name would become one, and index names would move to the front. -/
namespace PropertyGraph.Json

/-- A value as a program holds it. Its numbers are finite, and in each of its objects the
members have different names and stand in the order of their names. -/
inductive Tidy : Json → Prop
  | null : Tidy .null
  | bool (b : Bool) : Tidy (.bool b)
  | number {x : Binary64} (finite : x.isFinite = true) : Tidy (.number x)
  | string (s : String) : Tidy (.string s)
  | array {vs : List Json} (items : ∀ v ∈ vs, Tidy v) : Tidy (.array vs)
  | object {ms : List (String × Json)} (distinct : (ms.map Prod.fst).Nodup)
      (ordered : Members.InOrder (ms.map Prod.fst)) (values : ∀ m ∈ ms, Tidy m.2) :
      Tidy (.object ms)

instance (names : List String) : Decidable (Members.InOrder names) :=
  inferInstanceAs (Decidable (names.Pairwise _))

namespace Tidy

lemma number_iff {x : Binary64} : Tidy (.number x) ↔ x.isFinite = true :=
  ⟨fun | .number finite => finite, .number⟩

lemma array_iff {vs : List Json} : Tidy (.array vs) ↔ ∀ v ∈ vs, Tidy v :=
  ⟨fun | .array items => items, .array⟩

lemma object_iff {ms : List (String × Json)} : Tidy (.object ms) ↔
    ((ms.map Prod.fst).Nodup ∧ Members.InOrder (ms.map Prod.fst)) ∧ ∀ m ∈ ms, Tidy m.2 :=
  ⟨fun | .object distinct ordered values => ⟨⟨distinct, ordered⟩, values⟩,
    fun ⟨⟨distinct, ordered⟩, values⟩ => .object distinct ordered values⟩

mutual

def dec : (v : Json) → Decidable v.Tidy
  | .null => isTrue .null
  | .bool b => isTrue (.bool b)
  | .number _ => decidable_of_iff _ number_iff.symm
  | .string s => isTrue (.string s)
  | .array vs =>
    have := decItems vs
    decidable_of_iff _ array_iff.symm
  | .object ms =>
    have := decMembers ms
    decidable_of_iff _ object_iff.symm

def decItems : (vs : List Json) → Decidable (∀ v ∈ vs, v.Tidy)
  | [] => isTrue (List.forall_mem_nil _)
  | v :: vs =>
    have := dec v
    have := decItems vs
    decidable_of_iff _ List.forall_mem_cons.symm

def decMembers : (ms : List (String × Json)) → Decidable (∀ m ∈ ms, m.2.Tidy)
  | [] => isTrue (List.forall_mem_nil _)
  | (_, v) :: ms =>
    have : Decidable v.Tidy := dec v
    have := decMembers ms
    decidable_of_iff _ List.forall_mem_cons.symm

end

instance (v : Json) : Decidable v.Tidy := dec v

end Tidy

namespace Reader

def Blank (cs : List Char) : Prop := ∀ c ∈ cs, c = ' ' ∨ c = '\n' ∨ c = '\r' ∨ c = '\t'

section Blanks

variable {bs rest : List Char}

lemma skipBlanks_append (blank : Blank bs) (rest : List Char) :
    skipBlanks (bs ++ rest) = skipBlanks rest :=
  List.dropWhile_append_of_pos fun c inside => by simpa [or_assoc] using blank c inside

lemma skipBlanks_cons {c : Char} (visible : ¬ Blank [c]) (rest : List Char) :
    skipBlanks (c :: rest) = c :: rest := by
  simpa [skipBlanks, Blank, and_assoc] using visible

lemma next?_append (blank : Blank bs) {c : Char} (visible : ¬ Blank [c]) (rest : List Char) :
    next? (bs ++ c :: rest) = some (c, rest) := by
  rw [next?, skipBlanks_append blank, skipBlanks_cons visible]

lemma next?_cons {c : Char} (visible : ¬ Blank [c]) (rest : List Char) :
    next? (c :: rest) = some (c, rest) := by
  rw [next?, skipBlanks_cons visible]

lemma endsNumber_cons {c : Char} (plain : EndsNumber [c]) (rest : List Char) :
    EndsNumber (c :: rest) := plain

lemma endsNumber_append (blank : Blank bs) {c : Char} (plain : EndsNumber [c]) (rest : List Char) :
    EndsNumber (bs ++ c :: rest) := by
  cases bs with
  | nil => exact plain
  | cons b bs =>
    intro first same
    obtain rfl : b = first := by simpa using same
    rcases blank b List.mem_cons_self with rfl | rfl | rfl | rfl <;> decide

end Blanks

section Texts

lemma hexValue?_hexDigit : ∀ n < 16, hexValue? (hexDigit n) = some n := by decide

lemma unicodeEscape?_of_control {c : Char} (control : c.toNat < 32) (rest : List Char) :
    unicodeEscape? ('0' :: '0' :: hexDigit (c.toNat / 16) :: hexDigit (c.toNat % 16) :: rest) =
      some (c, rest) := by
  have zero : hexValue? '0' = some 0 := by decide
  have high := hexValue?_hexDigit (c.toNat / 16) (by omega)
  have low := hexValue?_hexDigit (c.toNat % 16) (by omega)
  have code : c.toNat / 16 * 16 + c.toNat % 16 = c.toNat := by omega
  have small : ¬ 55296 ≤ c.toNat := by omega
  have small' : ¬ 56320 ≤ c.toNat := by omega
  simp [unicodeEscape?, hexUnit?, zero, high, low, code, small, small']

lemma stringBody?_escapeChar (fuel : Nat) (c : Char) (rest : List Char) :
    stringBody? (fuel + 1) (escapeChar c ++ rest) =
      (stringBody? fuel rest).map fun answer => (c :: answer.1, answer.2) := by
  have short {d : Char} {cs : List Char} (read : escape? cs = some (d, rest)) :
      stringBody? (fuel + 1) ('\\' :: cs) =
        (stringBody? fuel rest).map fun answer => (d :: answer.1, answer.2) := by
    simp [stringBody?, read, Option.map_eq_bind]
  unfold escapeChar
  split_ifs with quote slash line carriage tab back form control
  · subst quote
    exact short rfl
  · subst slash
    exact short rfl
  · subst line
    exact short rfl
  · subst carriage
    exact short rfl
  · subst tab
    exact short rfl
  · subst back
    exact short rfl
  · subst form
    exact short rfl
  · exact short (unicodeEscape?_of_control control rest)
  · simp [stringBody?, quote, slash, control, Option.map_eq_bind]

lemma length_le_escaped (cs : List Char) : cs.length ≤ (cs.flatMap escapeChar).length := by
  induction cs with
  | nil => simp
  | cons c cs ih =>
    have some : 0 < (escapeChar c).length := by
      unfold escapeChar
      split_ifs <;> simp
    rw [List.flatMap_cons, List.length_append, List.length_cons]
    omega

/-- A text is read from its escaped characters, up to the quote behind them. -/
theorem string?_escaped (s : String) (rest : List Char) :
    string? (s.toList.flatMap escapeChar ++ '"' :: rest) = some (s, rest) := by
  have body (cs : List Char) : ∀ fuel > cs.length,
      stringBody? fuel (cs.flatMap escapeChar ++ '"' :: rest) = some (cs, rest) := by
    induction cs with
    | nil =>
      intro fuel enough
      cases fuel with
      | zero => simp at enough
      | succ fuel => simp [stringBody?]
    | cons c cs ih =>
      intro fuel enough
      cases fuel with
      | zero => simp at enough
      | succ fuel =>
        rw [List.flatMap_cons, List.append_assoc, stringBody?_escapeChar,
          ih fuel (by simpa using enough)]
        rfl
  have long := length_le_escaped s.toList
  rw [string?, body _ _ (by rw [List.length_append, List.length_cons]; omega)]
  simp

end Texts

end Reader

/-- Nothing but blanks stands between the parts of a value, and a colon behind names. -/
structure Style.Plain (style : Style) : Prop where
  gap (depth : Nat) : Reader.Blank (style.gap depth)
  colon : ∃ bs, style.colon = ':' :: bs ∧ Reader.Blank bs

lemma Style.plain_compact : compact.Plain :=
  ⟨fun _ => by simp [compact, Reader.Blank], [], rfl, by simp [Reader.Blank]⟩

lemma Style.plain_indented : indented.Plain := by
  refine ⟨fun depth c inside => ?_, [' '], rfl, by simp [Reader.Blank]⟩
  rcases List.mem_cons.1 inside with rfl | blank
  · exact Or.inr (Or.inl rfl)
  · exact Or.inl (List.eq_of_mem_replicate blank)

namespace Reader

section Values

variable {style : Style} {v : Json} {bs rest : List Char}

/-- The text of a value is read back, blanks in front of it and fuel in proportion to it. -/
def Reads (style : Style) (v : Json) : Prop :=
  ∀ (depth fuel : Nat) (bs rest : List Char), Blank bs → EndsNumber rest →
    2 * (chars style depth v).length ≤ fuel →
      value fuel (bs ++ (chars style depth v ++ rest)) = .ok (v, rest)

lemma scalar?_number {c : Char} (first : c = '-' ∨ c.isDigit = true) (cs : List Char) :
    scalar? (c :: cs) = (number? (c :: cs)).map fun answer => (.number answer.1, answer.2) := by
  unfold scalar?
  split
  all_goals first
    | rfl
    | (rename_i h; cases h; simp at first)

lemma first_number {c : Char} (first : c = '-' ∨ c.isDigit = true) :
    ¬ Blank [c] ∧ c ≠ ']' ∧ c ≠ '[' ∧ c ≠ '{' := by
  refine ⟨fun blank => ?_, ?_, ?_, ?_⟩
  · rcases blank c List.mem_cons_self with rfl | rfl | rfl | rfl <;> simp at first
  all_goals
    rintro rfl
    simp at first

lemma exists_cons_chars (tidy : v.Tidy) (style : Style) (depth : Nat) :
    ∃ c cs, chars style depth v = c :: cs ∧ ¬ Blank [c] ∧ c ≠ ']' := by
  cases tidy with
  | null => exact ⟨'n', _, by rw [chars], by simp [Blank], by decide⟩
  | bool b => cases b <;> exact ⟨_, _, by rw [chars], by simp [Blank], by decide⟩
  | number finite =>
    obtain ⟨-, c, cs, text, first⟩ := number?_toChars finite
      (show EndsNumber [] by simp [EndsNumber])
    obtain ⟨visible, more, -⟩ := first_number first
    exact ⟨c, cs, by rw [chars, numberChars, if_pos finite, ← text, List.append_nil], visible, more⟩
  | string s => exact ⟨'"', _, by rw [chars, stringChars]; rfl, by simp [Blank], by decide⟩
  | @array vs =>
    cases vs with
    | nil => exact ⟨'[', _, by rw [chars], by simp [Blank], by decide⟩
    | cons => exact ⟨'[', _, by rw [chars]; rfl, by simp [Blank], by decide⟩
  | @object ms =>
    cases ms with
    | nil => exact ⟨'{', _, by rw [chars], by simp [Blank], by decide⟩
    | cons => exact ⟨'{', _, by rw [chars]; rfl, by simp [Blank], by decide⟩

lemma value_scalar (blank : Blank bs) {c : Char} {cs : List Char} {answer : Json × List Char}
    (visible : ¬ Blank [c]) (list : c ≠ '[') (object : c ≠ '{')
    (read : scalar? (c :: cs) = some answer) (fuel : Nat) :
    value (fuel + 1) (bs ++ c :: cs) = .ok answer := by
  rw [value, skipBlanks_append blank, skipBlanks_cons visible]
  split
  · rename_i h
    cases h
    exact absurd rfl list
  · rename_i h
    cases h
    exact absurd rfl object
  · rw [read]
    rfl

lemma value_list (blank : Blank bs) {first : Char} {cs : List Char}
    (next : next? rest = some (first, cs)) (more : first ≠ ']') (fuel : Nat) :
    value (fuel + 1) (bs ++ '[' :: rest) =
      (items fuel rest).map fun answer => (.array answer.1, answer.2) := by
  rw [value, skipBlanks_append blank, skipBlanks_cons (by simp [Blank])]
  simp only [next]
  split
  · rename_i h
    cases h
    exact absurd rfl more
  · rfl

lemma value_object (blank : Blank bs) {first : Char} {cs : List Char}
    (next : next? rest = some (first, cs)) (more : first ≠ '}') (fuel : Nat) :
    value (fuel + 1) (bs ++ '{' :: rest) =
      (members fuel rest).map fun answer => (ofEntries answer.1, answer.2) := by
  rw [value, skipBlanks_append blank, skipBlanks_cons (by simp [Blank])]
  simp only [next]
  split
  · rename_i h
    cases h
    exact absurd rfl more
  · rfl

section Steps

variable {fuel : Nat} {cs cs' cs'' : List Char} {n : String} {vs : List Json}

lemma items_last (read : value fuel cs = .ok (v, cs')) (next : next? cs' = some (']', cs'')) :
    items (fuel + 1) cs = .ok ([v], cs'') := by
  simp only [items, read, bind, Except.bind, next]
  rfl

lemma items_cons (read : value fuel cs = .ok (v, cs')) (next : next? cs' = some (',', cs''))
    (others : items fuel cs'' = .ok (vs, rest)) : items (fuel + 1) cs = .ok (v :: vs, rest) := by
  simp only [items, read, bind, Except.bind, next, others]
  rfl

lemma members_step (plain : style.Plain) (reads : Reads style v) (depth : Nat) (blank : Blank bs)
    (ends : EndsNumber cs) (enough : 2 * (chars style depth v).length ≤ fuel) :
    (next? cs = some ('}', cs') → members (fuel + 1) (bs ++ (stringChars n ++ (style.colon ++
      (chars style depth v ++ cs)))) = .ok ([(n, v)], cs')) ∧
    ∀ ms rest, next? cs = some (',', cs') → members fuel cs' = .ok (ms, rest) →
      members (fuel + 1) (bs ++ (stringChars n ++ (style.colon ++
        (chars style depth v ++ cs)))) = .ok ((n, v) :: ms, rest) := by
  obtain ⟨spaces, colon, spaced⟩ := plain.colon
  have quote : next? (bs ++ (stringChars n ++ (style.colon ++ (chars style depth v ++ cs)))) =
      some ('"', n.toList.flatMap escapeChar ++
        '"' :: (style.colon ++ (chars style depth v ++ cs))) := by
    simpa [stringChars] using next?_append blank (c := '"') (by simp [Blank]) _
  have behind : next? (style.colon ++ (chars style depth v ++ cs)) =
      some (':', spaces ++ (chars style depth v ++ cs)) := by
    rw [colon]
    exact next?_cons (by simp [Blank]) _
  constructor
  · intro next
    simp only [members, quote, string?_escaped, orStop, bind, Except.bind, behind,
      reads depth fuel spaces cs spaced ends enough, next]
    rfl
  · intro ms rest next others
    simp only [members, quote, string?_escaped, orStop, bind, Except.bind, behind,
      reads depth fuel spaces cs spaced ends enough, next, others]
    rfl

end Steps

lemma items_chars (plain : style.Plain) (depth outer : Nat) (rest : List Char) (vs : List Json) :
    ∀ v fuel bs, Blank bs → (∀ item ∈ v :: vs, Reads style item) →
      2 * (chars style depth v ++ itemChars style depth vs).length < fuel →
      items fuel (bs ++ (chars style depth v ++
        (itemChars style depth vs ++ (style.gap outer ++ ']' :: rest)))) = .ok (v :: vs, rest) := by
  induction vs with
  | nil =>
    intro v fuel bs blank reads enough
    obtain ⟨fuel, rfl⟩ : ∃ less, fuel = less + 1 := ⟨fuel - 1, by omega⟩
    have ends : EndsNumber (style.gap outer ++ ']' :: rest) :=
      endsNumber_append (plain.gap outer) (by simp [EndsNumber]) rest
    rw [itemChars, List.append_nil] at enough
    exact items_last (reads v List.mem_cons_self depth fuel bs _ blank ends (by omega))
      (next?_append (plain.gap outer) (by simp [Blank]) rest)
  | cons w vs ih =>
    intro v fuel bs blank reads enough
    obtain ⟨fuel, rfl⟩ : ∃ less, fuel = less + 1 := ⟨fuel - 1, by omega⟩
    simp only [itemChars, List.length_append, List.length_cons] at enough
    have others := ih w fuel _ (plain.gap depth)
      (fun item inside => reads item (List.mem_cons_of_mem _ inside))
      (by rw [List.length_append]; omega)
    simp only [itemChars, List.cons_append, List.append_assoc]
    refine items_cons (reads v List.mem_cons_self depth fuel bs _ blank ?_ (by omega))
      (next?_cons (by simp [Blank]) _) others
    exact endsNumber_cons (by simp [EndsNumber]) _

lemma members_chars (plain : style.Plain) (depth outer : Nat) (rest : List Char)
    (ms : List (String × Json)) :
    ∀ n v fuel bs, Blank bs → (∀ member ∈ (n, v) :: ms, Reads style member.2) →
      2 * (chars style depth v ++ memberChars style depth ms).length < fuel →
      members fuel (bs ++ (stringChars n ++ (style.colon ++ (chars style depth v ++
        (memberChars style depth ms ++ (style.gap outer ++ '}' :: rest)))))) =
          .ok ((n, v) :: ms, rest) := by
  induction ms with
  | nil =>
    intro n v fuel bs blank reads enough
    obtain ⟨fuel, rfl⟩ : ∃ less, fuel = less + 1 := ⟨fuel - 1, by omega⟩
    have ends : EndsNumber (style.gap outer ++ '}' :: rest) :=
      endsNumber_append (plain.gap outer) (by simp [EndsNumber]) rest
    rw [memberChars, List.append_nil] at enough
    have value : Reads style v := reads (n, v) List.mem_cons_self
    exact (members_step plain value depth blank ends (by omega)).1
      (next?_append (plain.gap outer) (by simp [Blank]) rest)
  | cons member ms ih =>
    obtain ⟨m, w⟩ := member
    intro n v fuel bs blank reads enough
    obtain ⟨fuel, rfl⟩ : ∃ less, fuel = less + 1 := ⟨fuel - 1, by omega⟩
    simp only [memberChars, List.length_append, List.length_cons] at enough
    have others := ih m w fuel _ (plain.gap depth)
      (fun item inside => reads item (List.mem_cons_of_mem _ inside))
      (by rw [List.length_append]; omega)
    have value : Reads style v := reads (n, v) List.mem_cons_self
    simp only [memberChars, List.cons_append, List.append_assoc]
    exact (members_step plain value depth blank (endsNumber_cons (by simp [EndsNumber]) _)
      (by omega)).2 _ _ (next?_cons (by simp [Blank]) _) others

/-- A text takes fuel for one step at least, since it is not empty. -/
lemma reads_of_step (tidy : v.Tidy)
    (step : ∀ (depth fuel : Nat) (bs rest : List Char), Blank bs → EndsNumber rest →
      2 * (chars style depth v).length ≤ fuel + 1 →
        value (fuel + 1) (bs ++ (chars style depth v ++ rest)) = .ok (v, rest)) :
    Reads style v := by
  intro depth fuel bs rest blank ends enough
  obtain ⟨c, cs, text, -⟩ := exists_cons_chars tidy style depth
  cases fuel with
  | zero => simp [text] at enough
  | succ fuel => exact step depth fuel bs rest blank ends enough

/-- Every value as a program holds it is read from its text. -/
theorem reads_of_tidy (plain : style.Plain) (tidy : v.Tidy) : Reads style v := by
  induction tidy with
  | null =>
    exact reads_of_step .null fun depth fuel bs rest blank _ _ =>
      value_scalar blank (by simp [Blank]) (by decide) (by decide) rfl fuel
  | bool b =>
    refine reads_of_step (.bool b) fun depth fuel bs rest blank _ _ => ?_
    cases b <;> exact value_scalar blank (by simp [Blank]) (by decide) (by decide) rfl fuel
  | number finite =>
    refine reads_of_step (.number finite) fun depth fuel bs rest blank ends _ => ?_
    obtain ⟨read, c, cs, text, first⟩ := number?_toChars finite ends
    obtain ⟨visible, -, list, object⟩ := first_number first
    rw [chars, numberChars, if_pos finite, text]
    refine value_scalar blank visible list object ?_ fuel
    rw [scalar?_number first, ← text, read]
    rfl
  | string s =>
    refine reads_of_step (.string s) fun depth fuel bs rest blank _ _ => ?_
    simp only [chars, stringChars, List.cons_append, List.append_assoc, List.nil_append]
    refine value_scalar blank (by simp [Blank]) (by decide) (by decide) ?_ fuel
    rw [scalar?, string?_escaped]
    rfl
  | @array vs items ih =>
    refine reads_of_step (.array items) fun depth fuel bs rest blank _ enough => ?_
    cases vs with
    | nil => simp [chars, value, skipBlanks_append blank, skipBlanks_cons, next?_cons, Blank]
    | cons v vs =>
      simp only [chars, List.length_append, List.length_cons] at enough
      have read := items_chars plain (depth + 1) depth rest vs v fuel _ (plain.gap (depth + 1)) ih
        (by rw [List.length_append]; omega)
      obtain ⟨c, cs, text, visible, more⟩ :=
        exists_cons_chars (items v List.mem_cons_self) style (depth + 1)
      have next := next?_append (plain.gap (depth + 1)) visible
        (cs ++ (itemChars style (depth + 1) vs ++ (style.gap depth ++ ']' :: rest)))
      rw [← List.cons_append, ← text] at next
      simp only [chars, List.cons_append, List.append_assoc, List.nil_append]
      rw [value_list blank next more, read]
      rfl
  | @object ms distinct ordered values ih =>
    refine reads_of_step (.object distinct ordered values) ?_
    intro depth fuel bs rest blank _ enough
    cases ms with
    | nil => simp [chars, value, skipBlanks_append blank, skipBlanks_cons, next?_cons, Blank]
    | cons member ms =>
      obtain ⟨n, v⟩ := member
      simp only [chars, List.length_append, List.length_cons] at enough
      have read := members_chars plain (depth + 1) depth rest ms n v fuel _
        (plain.gap (depth + 1)) ih (by rw [List.length_append]; omega)
      have next : next? (style.gap (depth + 1) ++ (stringChars n ++ (style.colon ++
          (chars style (depth + 1) v ++ (memberChars style (depth + 1) ms ++
            (style.gap depth ++ '}' :: rest)))))) = some ('"', _) :=
        next?_append (plain.gap (depth + 1)) (by simp [Blank]) _
      have whole : ofEntries ((n, v) :: ms) = .object ((n, v) :: ms) := by
        rw [ofEntries, Members.ofEntries, Members.merge_of_nodup distinct,
          Members.arrange_eq_self_iff.2 ordered]
      simp only [chars, List.cons_append, List.append_assoc, List.nil_append]
      rw [value_object blank next (by decide), read]
      simp only [Except.map, whole]

end Values

end Reader

/-- Reading takes back writing, in every style of nothing but blanks. -/
theorem document_chars {style : Style} (plain : style.Plain) {v : Json} (tidy : v.Tidy) :
    Reader.document (v.chars style 0) = .ok v := by
  have read := Reader.reads_of_tidy plain tidy 0 (2 * (v.chars style 0).length + 1) [] []
    (by simp [Reader.Blank]) (by simp [Reader.EndsNumber]) (by omega)
  rw [List.nil_append, List.append_nil] at read
  simp [Reader.document, read, bind, Except.bind, Reader.skipBlanks]
  rfl

theorem parse_compactText {v : Json} (tidy : v.Tidy) : parse v.compactText = .ok v := by
  simpa [parse, compactText] using document_chars Style.plain_compact tidy

theorem parse_indentedText {v : Json} (tidy : v.Tidy) : parse v.indentedText = .ok v := by
  simpa [parse, indentedText] using document_chars Style.plain_indented tidy

end PropertyGraph.Json

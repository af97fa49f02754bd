import PropertyGraph.Diagram.PropertyText
import PropertyGraph.Proofs.Trimming

/-! Property texts that are written and taken apart again. A text that is put together with
separators has the segments of its parts, so the type comes first, then the segments of the
description, and the mark of a key last. -/
namespace PropertyGraph

namespace Text

variable {separator c : Char} {cs : List Char}

lemma segments_ne_nil (separator : Char) (cs : List Char) : segments separator cs ≠ [] := by
  cases cs with
  | nil => simp [segments]
  | cons c rest =>
    rw [segments]
    split
    · simp
    · split <;> simp

lemma segments_cons_of_ne (different : c ≠ separator) {first : List Char}
    {others : List (List Char)} (rest : segments separator cs = first :: others) :
    segments separator (c :: cs) = (c :: first) :: others := by
  rw [segments, if_neg different, rest]

lemma segments_of_not_mem (absent : separator ∉ cs) : segments separator cs = [cs] := by
  induction cs with
  | nil => rfl
  | cons c rest ih =>
    rw [List.mem_cons, not_or] at absent
    exact segments_cons_of_ne (Ne.symm absent.1) (ih absent.2)

lemma separator_not_mem {segment : List Char} (member : segment ∈ segments separator cs) :
    separator ∉ segment := by
  induction cs generalizing segment with
  | nil => simp_all [segments]
  | cons c rest ih =>
    by_cases same : c = separator
    · rw [segments, if_pos same] at member
      rcases List.mem_cons.1 member with rfl | later
      · simp
      · exact ih later
    · obtain ⟨first, others, split⟩ := List.exists_cons_of_ne_nil (segments_ne_nil separator rest)
      rw [segments_cons_of_ne same split] at member
      rcases List.mem_cons.1 member with rfl | later
      · have kept : separator ∉ first := ih (by simp [split])
        simpa [Ne.symm same] using kept
      · exact ih (by simp [split, later])

lemma segments_append (before after : List Char) :
    segments separator (before ++ separator :: after) =
      segments separator before ++ segments separator after := by
  induction before with
  | nil => simp [segments]
  | cons c rest ih =>
    by_cases same : c = separator
    · simp [segments, same, ih]
    · obtain ⟨first, others, split⟩ := List.exists_cons_of_ne_nil (segments_ne_nil separator rest)
      rw [List.cons_append, segments_cons_of_ne same split]
      rw [split] at ih
      exact segments_cons_of_ne same ih

lemma segments_concat (different : c ≠ separator) (cs : List Char) :
    ∃ others last, segments separator cs = others ++ [last] ∧
      segments separator (cs ++ [c]) = others ++ [last ++ [c]] := by
  induction cs with
  | nil => exact ⟨[], [], rfl, segments_cons_of_ne different rfl⟩
  | cons d rest ih =>
    obtain ⟨others, last, split, grown⟩ := ih
    by_cases same : d = separator
    · exact ⟨[] :: others, last, by simp [segments, same, split], by simp [segments, same, grown]⟩
    · cases others with
      | nil => exact ⟨[], d :: last, segments_cons_of_ne same split, segments_cons_of_ne same grown⟩
      | cons first others =>
        exact ⟨(d :: first) :: others, last, segments_cons_of_ne same split,
          segments_cons_of_ne same grown⟩

lemma map_trim_segments_cons (blank : isBlankChar c = true) (different : c ≠ separator)
    (cs : List Char) :
    (segments separator (c :: cs)).map trimChars = (segments separator cs).map trimChars := by
  obtain ⟨first, others, split⟩ := List.exists_cons_of_ne_nil (segments_ne_nil separator cs)
  rw [segments_cons_of_ne different split, split, List.map_cons, List.map_cons,
    trimChars_cons_blank blank]

lemma map_trim_segments_concat (blank : isBlankChar c = true) (different : c ≠ separator)
    (cs : List Char) :
    (segments separator (cs ++ [c])).map trimChars = (segments separator cs).map trimChars := by
  obtain ⟨others, last, split, grown⟩ := segments_concat different cs
  simp [split, grown, trimChars_append_blank blank]

end Text

namespace Diagram.PropertyText

section Segments

lemma segments_nonempty (text : String) : segments text ≠ [] := by
  simp [segments, Text.segments_ne_nil]

lemma plain_of_mem_segments (text : String) {segment : String}
    (member : segment ∈ segments text) :
    '|' ∉ segment.toList ∧ Text.Trimmed segment.toList := by
  obtain ⟨cs, inside, rfl⟩ := List.mem_map.1 member
  rw [String.toList_ofList]
  exact ⟨fun kept => Text.separator_not_mem inside (Text.mem_of_mem_trimChars kept),
    Text.trimmed_trimChars cs⟩

lemma segments_append_separator (before after : String) :
    segments (before ++ separator ++ after) = segments before ++ segments after := by
  have chars : (before ++ separator ++ after).toList =
      (before.toList ++ [' ']) ++ '|' :: (' ' :: after.toList) := by
    simp [separator]
  have blank : Text.isBlankChar ' ' = true := by decide
  have different : ' ' ≠ '|' := by decide
  have left := Text.map_trim_segments_concat blank different before.toList
  have right := Text.map_trim_segments_cons blank different after.toList
  have trimmed (cs : List Char) : (Text.segments '|' cs).map
      (fun segment => String.ofList (Text.trimChars segment)) =
        ((Text.segments '|' cs).map Text.trimChars).map String.ofList := by
    rw [List.map_map]
    rfl
  simp only [segments, trimmed, chars, Text.segments_append, List.map_append, left, right]

lemma segments_join {texts : List String} (some : texts ≠ []) :
    segments (Text.join separator texts) = texts.flatMap segments := by
  induction texts with
  | nil => exact absurd rfl some
  | cons text rest ih =>
    cases rest with
    | nil => simp [Text.join]
    | cons next others =>
      have split : Text.join separator (text :: next :: others) =
          text ++ separator ++ Text.join separator (next :: others) :=
        String.intercalate_cons_cons
      rw [split, segments_append_separator, ih (by simp), ← List.flatMap_cons]

lemma segments_of_plain {text : String} (plain : '|' ∉ text.toList)
    (trimmed : Text.Trimmed text.toList) : segments text = [text] := by
  simp [segments, Text.segments_of_not_mem plain, trimmed.trimChars_eq]

end Segments

section Joining

variable {texts : List String}

lemma join_ne_empty {first : String} (some : first ≠ "") (rest : List String) :
    Text.join separator (first :: rest) ≠ "" := by
  intro none
  have length := congrArg String.length none
  have positive : first.length ≠ 0 := by simpa using some
  cases rest with
  | nil => simp [Text.join, some] at none
  | cons next others =>
    rw [Text.join, String.intercalate_cons_cons] at length
    simp only [String.length_append, String.length_empty] at length
    omega

lemma joined?_append (texts rest : List String) :
    joined? ((joined? texts).toList ++ rest) = joined? (texts ++ rest) := by
  cases kept : texts.filter (!·.isEmpty) with
  | nil => simp [joined?, kept]
  | cons first others =>
    have some : first ≠ "" := by
      have member : first ∈ texts.filter (!·.isEmpty) := by simp [kept]
      simpa using (List.mem_filter.1 member).2
    have whole := join_ne_empty some others
    have joined : joined? texts = Option.some (Text.join separator (first :: others)) := by
      simp [joined?, kept]
    have again : Text.join separator
        (Text.join separator (first :: others) :: rest.filter (!·.isEmpty)) =
          Text.join separator (first :: others ++ rest.filter (!·.isEmpty)) := by
      unfold Text.join
      cases more : rest.filter (!·.isEmpty) with
      | nil => simp
      | cons next last =>
        rw [String.intercalate_cons_of_ne_nil (by simp),
          String.intercalate_append_of_ne_nil (by simp) (by simp)]
    rw [joined]
    simp [joined?, kept, whole, again]

lemma joined?_of_ne_empty (some : texts ≠ []) (each : ∀ text ∈ texts, text ≠ "") :
    joined? texts = Option.some (Text.join separator texts) := by
  have kept : texts.filter (!·.isEmpty) = texts := List.filter_eq_self.2 (by simpa using each)
  simp [joined?, kept, some]

end Joining

section Parsing

variable {text type : String} {rest : List String}

lemma type_parse (split : segments text = type :: rest) : (parse text).type = type := by
  simp only [parse, split]
  cases rest.getLast? with
  | none => rfl
  | some last => by_cases marked : Text.upper last = keyMark <;> simp [marked]

lemma isKey_parse_iff (split : segments text = type :: rest) :
    (parse text).isKey = true ↔ ∃ last ∈ rest.getLast?, Text.upper last = keyMark := by
  simp only [parse, split]
  cases rest.getLast? with
  | none => simp [isKey]
  | some last => by_cases marked : Text.upper last = keyMark <;> simp [isKey, marked]

lemma description_key (split : segments text = type :: rest) (marked : (parse text).isKey = true) :
    (parse text).description = joined? rest.dropLast := by
  obtain ⟨last, ends, reads⟩ := (isKey_parse_iff split).1 marked
  rw [parse, split]
  simp [Option.mem_def.1 ends, reads]

/-- A description takes the mark of a key back. -/
lemma description_plain (split : segments text = type :: rest) :
    joined? ((parse text).description.toList ++ (parse text).keyTag.toList) = joined? rest := by
  rw [parse, split]
  rcases rest.eq_nil_or_concat' with rfl | ⟨others, last, rfl⟩
  · rfl
  · by_cases marked : Text.upper last = keyMark
    · simp [marked, joined?_append]
    · have again := joined?_append (others ++ [last]) []
      simp only [List.append_nil] at again
      simp [marked, again]

end Parsing

/-- The segments of what is written for a property. -/
lemma segments_format (property : Property) (isKey : Bool) :
    segments (format property isKey) =
      segments property.type ++
        (property.description.filter (!·.isEmpty)).toList.flatMap segments ++
          if isKey then [keyMark] else [] := by
  have mark : segments keyMark = [keyMark] := by decide
  rw [format, segments_join (by simp)]
  cases isKey <;> simp [mark]

end Diagram.PropertyText
end PropertyGraph

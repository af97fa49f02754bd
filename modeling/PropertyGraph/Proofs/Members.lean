import PropertyGraph.Proofs.Lists

/-! The order in which an object has its members. It does not depend on the values, and a
member that is given first stands behind exactly the index names that precede its own. A loop
that gathers values under names leaves the names in the order in which they come up. -/
namespace PropertyGraph

section Sorting

variable {α β : Type} {le : α → α → Bool}

lemma insertBy_map {le' : β → β → Bool} {f : α → β} (same : ∀ a b, le' (f a) (f b) = le a b)
    (x : α) (xs : List α) : insertBy le' (f x) (xs.map f) = (insertBy le x xs).map f := by
  induction xs with
  | nil => rfl
  | cons y ys ih =>
    rw [List.map_cons, insertBy, insertBy, same, ih]
    split <;> rfl

lemma sortBy_map {le' : β → β → Bool} {f : α → β} (same : ∀ a b, le' (f a) (f b) = le a b)
    (xs : List α) : sortBy le' (xs.map f) = (sortBy le xs).map f := by
  induction xs with
  | nil => rfl
  | cons x xs ih =>
    change insertBy le' (f x) (sortBy le' (xs.map f)) = (insertBy le x (sortBy le xs)).map f
    rw [ih, insertBy_map same]

lemma sortBy_eq_self {xs : List α} (sorted : xs.Pairwise (le · ·)) : sortBy le xs = xs := by
  induction xs with
  | nil => rfl
  | cons x xs ih =>
    obtain ⟨first, rest⟩ := List.pairwise_cons.1 sorted
    change insertBy le x (sortBy le xs) = x :: xs
    rw [ih rest]
    cases xs with
    | nil => rfl
    | cons y ys => rw [insertBy, if_pos (first y List.mem_cons_self)]

lemma exists_insertBy_eq (trans : ∀ a b c, le a b → le b c → le a c) (x : α) {xs : List α}
    (sorted : xs.Pairwise (le · ·)) :
    ∃ before after, insertBy le x xs = before ++ x :: after ∧ xs = before ++ after ∧
      (∀ y ∈ before, le x y = false) ∧ ∀ y ∈ after, le x y = true := by
  induction xs with
  | nil => exact ⟨[], [], rfl, rfl, by simp, by simp⟩
  | cons y ys ih =>
    obtain ⟨first, rest⟩ := List.pairwise_cons.1 sorted
    cases follows : le x y with
    | true =>
      refine ⟨[], y :: ys, by simp [insertBy, follows], rfl, by simp, fun z member => ?_⟩
      rcases List.mem_cons.1 member with rfl | later
      · exact follows
      · exact trans x y z follows (first z later)
    | false =>
      obtain ⟨before, after, inserted, split, smaller, greater⟩ := ih rest
      exact ⟨y :: before, after, by simp [insertBy, follows, inserted], by simp [split],
        by simpa [follows] using smaller, greater⟩

end Sorting

namespace Members

variable {α β : Type}

/-- Whether a member of the one name stands before a member of the other wherever they are
given: index names stand before greater ones and before all other names. -/
def precedes (name other : String) : Bool :=
  match arrayIndex? name, arrayIndex? other with
  | some n, some m => n < m
  | some _, none => true
  | none, _ => false

lemma put_of_notMem {name : String} {members : List (String × α)}
    (fresh : name ∉ members.map Prod.fst) (value : α) :
    put name value members = members ++ [(name, value)] := by
  induction members with
  | nil => rfl
  | cons member rest ih =>
    obtain ⟨n, v⟩ := member
    simp only [List.map_cons, List.mem_cons, not_or] at fresh
    rw [put, if_neg (Ne.symm fresh.1), ih fresh.2, List.cons_append]

lemma merge_of_nodup {entries : List (String × α)} (distinct : (entries.map Prod.fst).Nodup) :
    merge entries = entries := by
  induction entries using List.reverseRecOn with
  | nil => rfl
  | append_singleton before entry ih =>
    rw [List.map_append, List.nodup_append] at distinct
    obtain ⟨former, -, apart⟩ := distinct
    have fresh : entry.1 ∉ before.map Prod.fst :=
      fun taken => apart _ taken _ (by simp) rfl
    have merged := ih former
    unfold merge at merged
    rw [merge, List.foldl_append, merged]
    exact put_of_notMem fresh entry.2

lemma mem_of_lookup {value : α} {members : List (String × α)} (name : String)
    (found : members.lookup name = some value) : (name, value) ∈ members := by
  obtain ⟨before, after, rfl, -⟩ := List.lookup_eq_some_iff.1 found
  simp

def indexLe (a b : String × α) : Bool := (arrayIndex? a.1).getD 0 ≤ (arrayIndex? b.1).getD 0

lemma indexLe_trans (a b c : String × α) (first : indexLe a b) (second : indexLe b c) :
    indexLe a c := by
  simp only [indexLe, decide_eq_true_eq] at *
  omega

lemma indexLe_total (a b : String × α) : indexLe a b ∨ indexLe b a := by
  simp only [indexLe, decide_eq_true_eq]
  omega

lemma arrange_eq (members : List (String × α)) :
    arrange members = sortBy indexLe (members.filter (isIndex ·.1)) ++
      members.filter (!isIndex ·.1) := rfl

lemma arrange_perm (members : List (String × α)) : (arrange members).Perm members := by
  rw [arrange_eq]
  exact ((sortBy_perm _ _).append_right _).trans (List.filter_append_perm _ members)

lemma arrange_map (f : α → β) (members : List (String × α)) :
    arrange (members.map fun member => (member.1, f member.2)) =
      (arrange members).map fun member => (member.1, f member.2) := by
  have same (a b : String × α) : indexLe (a.1, f a.2) (b.1, f b.2) = indexLe a b := rfl
  simp only [arrange_eq, List.map_append, List.filter_map, sortBy_map same, Function.comp_def]

lemma arrange_arrange (members : List (String × α)) :
    arrange (arrange members) = arrange members := by
  have indexes : ∀ member ∈ sortBy indexLe (members.filter (isIndex ·.1)),
      isIndex member.1 = true :=
    fun member inside => (List.mem_filter.1 (mem_sortBy.1 inside)).2
  have first : (arrange members).filter (isIndex ·.1) =
      sortBy indexLe (members.filter (isIndex ·.1)) := by
    rw [arrange_eq, List.filter_append, List.filter_eq_self.2 indexes, List.filter_filter]
    simp
  have last : (arrange members).filter (!isIndex ·.1) = members.filter (!isIndex ·.1) := by
    rw [arrange_eq, List.filter_append, List.filter_eq_nil_iff.2 (by simpa using indexes),
      List.filter_filter]
    simp
  rw [arrange_eq (arrange members), first, last,
    sortBy_eq_self (pairwise_sortBy indexLe_trans indexLe_total _), arrange_eq]

/-- A member that is given first stands behind those that precede it, and before the others. -/
theorem exists_arrange_cons_eq (member : String × α) (rest : List (String × α)) :
    ∃ before after, arrange (member :: rest) = before ++ member :: after ∧
      arrange rest = before ++ after ∧ (∀ other ∈ before, precedes other.1 member.1 = true) ∧
      ∀ other ∈ after, precedes other.1 member.1 = false := by
  have sorted := pairwise_sortBy indexLe_trans indexLe_total (rest.filter (isIndex ·.1))
  have indexes : ∀ other ∈ sortBy indexLe (rest.filter (isIndex ·.1)),
      isIndex other.1 = true :=
    fun other inside => (List.mem_filter.1 (mem_sortBy.1 inside)).2
  have others : ∀ other ∈ rest.filter (!isIndex ·.1), arrayIndex? other.1 = none := by
    intro other inside
    simpa [isIndex] using (List.mem_filter.1 inside).2
  cases number : arrayIndex? member.1 with
  | none =>
    have isOther : isIndex member.1 = false := by simp [isIndex, number]
    refine ⟨sortBy indexLe (rest.filter (isIndex ·.1)), rest.filter (!isIndex ·.1), ?_, rfl,
      fun other inside => ?_, fun other inside => ?_⟩
    · simp [arrange_eq, isOther]
    · obtain ⟨n, hn⟩ := Option.isSome_iff_exists.1 (indexes other inside)
      simp [precedes, hn, number]
    · simp [precedes, others other inside]
  | some m =>
    have isFirst : isIndex member.1 = true := by simp [isIndex, number]
    obtain ⟨before, after, inserted, split, smaller, greater⟩ :=
      exists_insertBy_eq indexLe_trans member sorted
    rw [split] at indexes
    refine ⟨before, after ++ rest.filter (!isIndex ·.1), ?_, ?_, fun other inside => ?_,
      fun other inside => ?_⟩
    · have filtered : (member :: rest).filter (isIndex ·.1) =
          member :: rest.filter (isIndex ·.1) := List.filter_cons_of_pos isFirst
      have dropped : (member :: rest).filter (!isIndex ·.1) = rest.filter (!isIndex ·.1) :=
        List.filter_cons_of_neg (by simp [isFirst])
      rw [arrange_eq, filtered, dropped]
      change insertBy indexLe member (sortBy indexLe _) ++ _ = _
      rw [inserted, List.append_assoc, List.cons_append]
    · rw [arrange_eq, split, List.append_assoc]
    · obtain ⟨n, hn⟩ := Option.isSome_iff_exists.1 (indexes other (by simp [inside]))
      have less := smaller other inside
      simp only [indexLe, number, hn, Option.getD_some, decide_eq_false_iff_not, not_le] at less
      simp [precedes, hn, number, less]
    · rcases List.mem_append.1 inside with later | plain
      · obtain ⟨n, hn⟩ := Option.isSome_iff_exists.1 (indexes other (by simp [later]))
        have more := greater other later
        simp only [indexLe, number, hn, Option.getD_some, decide_eq_true_eq] at more
        simp [precedes, hn, number, more]
      · simp [precedes, others other plain]

/-- Names in which none stands behind one that it precedes. -/
def InOrder (names : List String) : Prop := names.Pairwise fun a b => precedes b a = false

lemma precedes_asymm {name other : String} (before : precedes name other = true) :
    precedes other name = false := by
  unfold precedes at *
  cases first : arrayIndex? name with
  | none => simp [first] at before
  | some n =>
    cases second : arrayIndex? other with
    | none => rfl
    | some m =>
      simp only [first, second, decide_eq_true_eq] at before
      simpa using before.le

lemma precedes_of_not_index {name : String} (plain : isIndex name = false) (other : String) :
    precedes name other = false := by
  have none : arrayIndex? name = none := by simpa [isIndex] using plain
  simp [precedes, none]

lemma inOrder_of_not_index {names : List String} (plain : ∀ name ∈ names, isIndex name = false) :
    InOrder names := by
  rw [InOrder, List.pairwise_iff_forall_sublist]
  exact fun sublist => precedes_of_not_index (plain _ (sublist.subset (by simp))) _

lemma inOrder_arrange (members : List (String × α)) :
    InOrder ((arrange members).map Prod.fst) := by
  induction members with
  | nil => exact .nil
  | cons member rest ih =>
    obtain ⟨before, after, arranged, split, earlier, later⟩ := exists_arrange_cons_eq member rest
    rw [split, InOrder, List.map_append, List.pairwise_append] at ih
    rw [arranged, InOrder, List.map_append, List.map_cons, List.pairwise_append,
      List.pairwise_cons]
    refine ⟨ih.1, ⟨by simpa using fun name value => later (name, value), ih.2.1⟩,
      fun name former other latter => ?_⟩
    rcases List.mem_cons.1 latter with rfl | behind
    · obtain ⟨entry, inside, rfl⟩ := List.mem_map.1 former
      exact precedes_asymm (earlier entry inside)
    · exact ih.2.2 name former other behind

/-- Members stay where they are given exactly if none stands behind one that it precedes. -/
theorem arrange_eq_self_iff {members : List (String × α)} :
    arrange members = members ↔ InOrder (members.map Prod.fst) := by
  constructor
  · intro same
    exact same ▸ inOrder_arrange members
  · intro ordered
    induction members with
    | nil => rfl
    | cons member rest ih =>
      rw [InOrder, List.map_cons, List.pairwise_cons] at ordered
      obtain ⟨before, after, arranged, split, earlier, -⟩ := exists_arrange_cons_eq member rest
      rw [ih ordered.2] at split
      cases before with
      | nil => rw [arranged, split, List.nil_append, List.nil_append]
      | cons first others =>
        have precedes := earlier first List.mem_cons_self
        rw [ordered.1 first.1 (by simp [split])] at precedes
        cases precedes

section Lookups

variable {name : String} {le : String × α → String × α → Bool}

lemma lookup_head {entry : String × α} (same : name = entry.1) (rest : List (String × α)) :
    (entry :: rest).lookup name = some entry.2 := by
  obtain ⟨other, v⟩ := entry
  subst same
  exact List.lookup_cons_self

lemma lookup_insertBy (own : ∀ a b : String × α, a.1 = b.1 → le a b = true)
    (entry : String × α) (entries : List (String × α)) :
    (insertBy le entry entries).lookup name = (entry :: entries).lookup name := by
  induction entries with
  | nil => rfl
  | cons other rest ih =>
    rw [insertBy]
    split
    · rfl
    · rename_i after
      have different : entry.1 ≠ other.1 := fun same => after (own _ _ same)
      by_cases first : name = other.1
      · have last : name ≠ entry.1 := fun same => different (same ▸ first)
        rw [lookup_cons_ne entry.2 _ last]
        rw [lookup_head first, lookup_head first]
      · rw [lookup_cons_ne other.2 _ first, ih]
        by_cases last : name = entry.1
        · rw [lookup_head last, lookup_head last]
        · rw [lookup_cons_ne entry.2 _ last, lookup_cons_ne entry.2 _ last,
            lookup_cons_ne other.2 _ first]

lemma lookup_sortBy (own : ∀ a b : String × α, a.1 = b.1 → le a b = true)
    (entries : List (String × α)) : (sortBy le entries).lookup name = entries.lookup name := by
  induction entries with
  | nil => rfl
  | cons entry rest ih =>
    change (insertBy le entry (sortBy le rest)).lookup name = _
    rw [lookup_insertBy own]
    by_cases first : name = entry.1
    · rw [lookup_head first, lookup_head first]
    · rw [lookup_cons_ne entry.2 _ first, lookup_cons_ne entry.2 _ first, ih]

lemma lookup_filter_name (keep : String → Bool) (entries : List (String × α)) :
    (entries.filter (keep ·.1)).lookup name =
      if keep name then entries.lookup name else none := by
  induction entries with
  | nil => simp
  | cons entry rest ih =>
    by_cases first : name = entry.1
    · subst first
      by_cases kept : keep entry.1 = true
      · rw [List.filter_cons_of_pos (by simpa using kept), if_pos kept, lookup_head rfl,
          lookup_head rfl]
      · rw [List.filter_cons_of_neg (by simpa using kept), ih]
        simp [kept]
    · rw [lookup_cons_ne entry.2 _ first, List.filter_cons]
      split
      · rw [lookup_cons_ne entry.2 _ first, ih]
      · exact ih

lemma get?_map (f : α → β) (members : List (String × α)) :
    get? name (members.map fun member => (member.1, f member.2)) =
      (get? name members).map f := by
  induction members with
  | nil => rfl
  | cons member rest ih =>
    rw [List.map_cons, get?_cons, get?_cons, ih]
    split <;> rfl

lemma get?_arrange (members : List (String × α)) :
    get? name (arrange members) = get? name members := by
  have own (a b : String × α) (same : a.1 = b.1) : indexLe a b = true := by
    simp [indexLe, same]
  rw [get?, arrange_eq, List.lookup_append, lookup_sortBy own, lookup_filter_name isIndex,
    lookup_filter_name (!isIndex ·)]
  cases isIndex name <;> simp [get?]

end Lookups

section Assignments

variable {name : String} {member : String × α} {members : List (String × α)}

lemma mem_assign : member ∈ assign members ↔ member ∈ members ∧ member.1 ≠ prototype := by
  rw [assign, (arrange_perm _).mem_iff, List.mem_filter, bne_iff_ne]

lemma nodup_assign (distinct : (members.map Prod.fst).Nodup) :
    ((assign members).map Prod.fst).Nodup := by
  rw [assign, ((arrange_perm _).map _).nodup_iff]
  exact distinct.sublist (List.filter_sublist.map _)

lemma assign_eq_arrange (ordinary : ∀ member ∈ members, member.1 ≠ prototype) :
    assign members = arrange members := by
  rw [assign, List.filter_eq_self.2 fun member inside => bne_iff_ne.2 (ordinary member inside)]

lemma assign_assign (members : List (String × α)) : assign (assign members) = assign members := by
  rw [assign_eq_arrange fun member inside => (mem_assign.1 inside).2, assign, arrange_arrange]

lemma assign_map (f : α → β) (members : List (String × α)) :
    assign (members.map fun member => (member.1, f member.2)) =
      (assign members).map fun member => (member.1, f member.2) := by
  rw [assign, assign, List.filter_map, arrange_map]
  rfl

/-- Members stay where they are assigned exactly if they stand in order, none of them under the
name of a prototype. -/
lemma assign_eq_self_iff : assign members = members ↔
    InOrder (members.map Prod.fst) ∧ ∀ member ∈ members, member.1 ≠ prototype := by
  constructor
  · intro same
    have ordinary : ∀ member ∈ members, member.1 ≠ prototype := by
      intro member inside
      rw [← same] at inside
      exact (mem_assign.1 inside).2
    rw [assign_eq_arrange ordinary, arrange_eq_self_iff] at same
    exact ⟨same, ordinary⟩
  · rintro ⟨ordered, ordinary⟩
    rw [assign_eq_arrange ordinary, arrange_eq_self_iff.2 ordered]

/-- A member that is assigned is there unless it has the name of a prototype. -/
lemma get?_assign (members : List (String × α)) :
    get? name (assign members) = if name = prototype then none else get? name members := by
  rw [assign, get?_arrange, get?, lookup_filter_name (· != prototype)]
  by_cases h : name = prototype <;> simp [h, get?]

end Assignments

section Loops

variable {α β : Type}

lemma get?_map_keys (f : String → α) (keys : List String) (name : String) :
    get? name (keys.map fun key => (key, f key)) = if name ∈ keys then some (f name) else none := by
  induction keys with
  | nil => rfl
  | cons key keys ih =>
    rw [List.map_cons, get?_cons, ih]
    by_cases here : name = key <;> simp [here]

lemma put_map_keys {f g : String → α} {name : String} {keys : List String} (distinct : keys.Nodup)
    (others : ∀ key, key ≠ name → f key = g key) :
    put name (g name) (keys.map fun key => (key, f key)) =
      (if name ∈ keys then keys else keys ++ [name]).map fun key => (key, g key) := by
  induction keys with
  | nil => rfl
  | cons key keys ih =>
    rw [List.nodup_cons] at distinct
    rw [List.map_cons, put]
    by_cases here : key = name
    · subst here
      have rest : ∀ other ∈ keys, (other, f other) = (other, g other) := fun other inside =>
        congrArg _ (others other fun same => distinct.1 (same ▸ inside))
      simp [List.map_congr_left rest]
    · have member : name ∈ key :: keys ↔ name ∈ keys := by simp [Ne.symm here]
      rw [if_neg here, ih distinct.2, others key here]
      simp only [member]
      split <;> rfl

/-- A loop that brings the value under each item's name up to date. The names stand in the order
in which they come up, and the value under a name is that of the items with the name. -/
theorem foldl_put (name : β → String) (update : α → β → α) (start : α) (xs : List β) :
    xs.foldl (fun members x =>
        put (name x) (update ((get? (name x) members).getD start) x) members) [] =
      (xs.map name).eraseDups.map fun key =>
        (key, (xs.filter (name · = key)).foldl update start) := by
  induction xs using List.reverseRecOn with
  | nil => rfl
  | append_singleton xs x ih =>
    have prior : (get? (name x) ((xs.map name).eraseDups.map fun key =>
        (key, (xs.filter (name · = key)).foldl update start))).getD start =
          (xs.filter (name · = name x)).foldl update start := by
      rw [get?_map_keys]
      split
      · rfl
      · rename_i fresh
        rw [List.mem_eraseDups, List.mem_map] at fresh
        rw [List.filter_eq_nil_iff.2 fun y inside same =>
          fresh ⟨y, inside, of_decide_eq_true same⟩]
        rfl
    have last : update ((xs.filter (name · = name x)).foldl update start) x =
        ((xs ++ [x]).filter (name · = name x)).foldl update start := by
      simp [List.filter_append]
    have others (key : String) (other : key ≠ name x) :
        (xs.filter (name · = key)).foldl update start =
          ((xs ++ [x]).filter (name · = key)).foldl update start := by
      simp [List.filter_append, Ne.symm other]
    rw [List.foldl_append, ih]
    simp only [List.foldl_cons, List.foldl_nil]
    rw [prior, last, put_map_keys (nodup_eraseDups _) others, List.map_append,
      List.map_singleton, eraseDups_concat]
    simp only [List.mem_eraseDups]

end Loops
end Members
end PropertyGraph

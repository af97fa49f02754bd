import Mathlib
import PropertyGraph.Json.Members

/-! Lists whose items correspond one by one, lists whose items have names of their own, items at
their positions, items that are put in the place of others, and lists without their
repetitions. -/
namespace PropertyGraph

section Correspondence

variable {α β γ : Type} {R : α → β → Prop} {xs : List α} {ys : List β}

lemma forall₂_getElem? (related : List.Forall₂ R xs ys) {i : Nat} {x : α}
    (here : xs[i]? = some x) : ∃ y, ys[i]? = some y ∧ R x y := by
  induction related generalizing i with
  | nil => simp at here
  | @cons a b _ _ head _ ih =>
    cases i with
    | zero =>
      cases here
      exact ⟨b, rfl, head⟩
    | succ i => exact ih here

lemma exists_mem_of_forall₂ (related : List.Forall₂ R xs ys) {y : β} (member : y ∈ ys) :
    ∃ x ∈ xs, R x y := by
  obtain ⟨i, here⟩ := List.mem_iff_getElem?.1 member
  obtain ⟨x, there, holds⟩ := forall₂_getElem? related.flip here
  exact ⟨x, List.mem_of_getElem? there, holds⟩

lemma map_eq_map_of_forall₂ {f : α → γ} {g : β → γ} (ensures : ∀ x y, R x y → g y = f x)
    (related : List.Forall₂ R xs ys) : ys.map g = xs.map f := by
  induction related with
  | nil => rfl
  | cons head _ ih => rw [List.map_cons, List.map_cons, ensures _ _ head, ih]

lemma mapIdx_eq_mapIdx_of_forall₂ {f : Nat → α → γ} {g : Nat → β → γ}
    (ensures : ∀ i x y, R x y → g i y = f i x) (related : List.Forall₂ R xs ys) :
    ys.mapIdx g = xs.mapIdx f := by
  induction related generalizing f g with
  | nil => rfl
  | cons head _ ih =>
    rw [List.mapIdx_cons, List.mapIdx_cons, ensures 0 _ _ head,
      ih fun i => ensures (i + 1)]

lemma exists_forall₂_iff : (∃ ys, List.Forall₂ R xs ys) ↔ ∀ x ∈ xs, ∃ y, R x y := by
  induction xs with
  | nil => simp
  | cons x xs ih => simp [List.forall₂_cons_left_iff, ← ih]

lemma forall₂_iff_of_mem {S : α → β → Prop} (same : ∀ x ∈ xs, ∀ y, R x y ↔ S x y) :
    List.Forall₂ R xs ys ↔ List.Forall₂ S xs ys := by
  induction xs generalizing ys with
  | nil => simp
  | cons x xs ih =>
    rw [List.forall_mem_cons] at same
    simp only [List.forall₂_cons_left_iff, same.1, ih same.2]

lemma forall₂_trans {S : β → γ → Prop} {T : α → γ → Prop}
    (links : ∀ x y z, R x y → S y z → T x z) {zs : List γ}
    (first : List.Forall₂ R xs ys) (second : List.Forall₂ S ys zs) : List.Forall₂ T xs zs := by
  induction first generalizing zs with
  | nil => simpa using second
  | cons head _ ih =>
    obtain ⟨z, zs, next, rest, rfl⟩ := List.forall₂_cons_left_iff.1 second
    exact .cons (links _ _ _ head next) (ih rest)

lemma forall₂_mapIdx {f : Nat → α → β} (each : ∀ x ∈ xs, ∀ i, R x (f i x)) :
    List.Forall₂ R xs (xs.mapIdx f) := by
  induction xs generalizing f with
  | nil => exact .nil
  | cons x xs ih =>
    rw [List.forall_mem_cons] at each
    rw [List.mapIdx_cons]
    exact .cons (each.1 0) (ih fun y member i => each.2 y member (i + 1))

lemma exists_mapM {f g : α → Option β}
    (same : ∀ x ∈ xs, ∃ y, f x = some y ∧ g x = some y) :
    ∃ ys, xs.mapM f = some ys ∧ xs.mapM g = some ys := by
  induction xs with
  | nil => exact ⟨[], rfl, rfl⟩
  | cons x xs ih =>
    rw [List.forall_mem_cons] at same
    obtain ⟨⟨y, hf, hg⟩, rest⟩ := same
    obtain ⟨ys, hfs, hgs⟩ := ih rest
    exact ⟨y :: ys, by simp [hf, hfs], by simp [hg, hgs]⟩

end Correspondence

section Names

variable {α β : Type} {xs : List α}

lemma find?_of_mem [DecidableEq β] {f : α → β} (distinct : (xs.map f).Nodup) {x : α}
    (member : x ∈ xs) {wanted : β} (same : f x = wanted) :
    xs.find? (fun y => f y = wanted) = some x := by
  induction xs with
  | nil => cases member
  | cons y ys ih =>
    rw [List.map_cons, List.nodup_cons] at distinct
    rcases List.mem_cons.1 member with rfl | later
    · simp [same]
    · have different : f y ≠ wanted := by
        rintro rfl
        exact distinct.1 (same ▸ List.mem_map_of_mem later)
      simpa [different] using ih distinct.2 later

lemma eraseP_eq_filter_of_nodup [DecidableEq β] {f : α → β}
    (distinct : (xs.map f).Nodup) (wanted : β) :
    xs.eraseP (f · = wanted) = xs.filter (f · ≠ wanted) := by
  induction xs with
  | nil => rfl
  | cons x xs ih =>
    rw [List.map_cons, List.nodup_cons] at distinct
    by_cases here : f x = wanted
    · have others : ∀ y ∈ xs, f y ≠ wanted := by
        rintro y member rfl
        exact distinct.1 (here ▸ List.mem_map_of_mem member)
      rw [List.eraseP_cons_of_pos (by simpa using here),
        List.filter_cons_of_neg (by simpa using here)]
      exact (List.filter_eq_self.2 (by simpa using others)).symm
    · rw [List.eraseP_cons_of_neg (by simpa using here),
        List.filter_cons_of_pos (by simpa using here), ih distinct.2]

lemma lookup_of_mem {f : α → String} {g : α → β} (distinct : (xs.map f).Nodup) {x : α}
    (member : x ∈ xs) : (xs.map fun y => (f y, g y)).lookup (f x) = some (g x) := by
  rw [Members.lookup_map, find?_of_mem distinct member rfl, Option.map_some]

lemma lookup_reverse_map (f : α → String) (g : α → β) (xs : List α) (name : String) :
    (xs.map fun x => (f x, g x)).reverse.lookup name =
      ((xs.filter (f · = name)).getLast?).map g := by
  rw [← List.map_reverse, Members.lookup_map, ← List.head?_filter, List.filter_reverse,
    List.head?_reverse]

lemma exists_of_lookup_reverse {f : α → String} {g : α → β} {name : String} {y : β}
    (known : (xs.map fun x => (f x, g x)).reverse.lookup name = some y) : ∃ x ∈ xs, g x = y := by
  rw [lookup_reverse_map] at known
  obtain ⟨x, last, same⟩ := Option.map_eq_some_iff.1 known
  exact ⟨x, (List.mem_filter.1 (List.mem_of_getLast? last)).1, same⟩

lemma lookup_reverse_of_mem {f : α → String} {g : α → β} (distinct : (xs.map f).Nodup) {x : α}
    (member : x ∈ xs) :
    (xs.map fun y => (f y, g y)).reverse.lookup (f x) = some (g x) := by
  rw [← List.map_reverse]
  exact lookup_of_mem (by simpa using distinct) (by simpa using member)

lemma nodup_append_cons_iff (old : List α) (x : α) (new : List α) :
    (old ++ x :: new).Nodup ↔ (old ++ [x]).Nodup ∧ (old ++ [x] ++ new).Nodup := by
  rw [← List.append_cons]
  exact ⟨fun all => ⟨(List.nodup_append.1 (List.append_cons .. ▸ all)).1, all⟩, And.right⟩

lemma not_mem_take (distinct : xs.Nodup) {i : Nat} {x : α} (here : xs[i]? = some x) :
    x ∉ xs.take i := by
  intro before
  obtain ⟨inside, rfl⟩ := List.getElem?_eq_some_iff.1 here
  obtain ⟨j, hj, there⟩ := List.mem_iff_getElem.1 before
  rw [List.getElem_take] at there
  have same := (List.Nodup.getElem_inj_iff distinct).1 there
  rw [List.length_take] at hj
  omega

lemma nodup_of_not_mem_take {ids : List String}
    (fresh : ∀ (i : Nat) id, ids[i]? = some id → id ∉ ids.take i) : ids.Nodup := by
  refine List.pairwise_iff_getElem.2 fun i j hi hj before same => ?_
  have earlier : ids[i] ∈ ids.take j := List.mem_take_iff_getElem.2 ⟨i, by omega, rfl⟩
  exact fresh j ids[j] (List.getElem?_eq_getElem hj) (same ▸ earlier)

lemma nodup_iff_forall_zipIdx {f : α → String} :
    (∀ entry ∈ xs.zipIdx, f entry.1 ∉ (xs.take entry.2).map f) ↔ (xs.map f).Nodup := by
  constructor
  · intro fresh
    refine nodup_of_not_mem_take fun i id here => ?_
    rw [List.getElem?_map] at here
    obtain ⟨x, there, rfl⟩ := Option.map_eq_some_iff.1 here
    rw [← List.map_take]
    exact fresh (x, i) (List.mem_zipIdx_iff_getElem?.2 there)
  · rintro distinct ⟨x, i⟩ member
    have here := List.mem_zipIdx_iff_getElem?.1 member
    rw [List.map_take]
    exact not_mem_take distinct (by rw [List.getElem?_map, here, Option.map_some])

lemma nodup_names_filterMap {f : String × α → Option (String × β)}
    (keeps : ∀ a b, f a = some b → b.1 = a.1) {entries : List (String × α)}
    (distinct : (entries.map Prod.fst).Nodup) : ((entries.filterMap f).map Prod.fst).Nodup := by
  rw [List.Nodup, List.pairwise_map] at distinct ⊢
  refine distinct.filterMap f fun a a' different b made b' made' => ?_
  rwa [keeps a b made, keeps a' b' made']

end Names

section Positions

variable {α β : Type} {xs : List α}

lemma index_at {index : α → Nat} {n i : Nat} {x : α}
    (indexes : xs.map index = List.range n) (here : xs[i]? = some x) : index x = i := by
  have same : (List.range n)[i]? = some (index x) := by
    rw [← indexes, List.getElem?_map, here]
    rfl
  obtain ⟨_, value⟩ := List.getElem?_eq_some_iff.1 same
  simpa using value.symm

lemma flatMap_at {i : Nat} {x : α} (here : xs[i]? = some x) (f : α → List β) :
    xs.flatMap f = (xs.take i).flatMap f ++ (f x ++ (xs.drop (i + 1)).flatMap f) := by
  obtain ⟨inside, rfl⟩ := List.getElem?_eq_some_iff.1 here
  rw [← List.flatMap_cons, List.getElem_cons_drop, ← List.flatMap_append, List.take_append_drop]

end Positions

section Replacing

variable {α β : Type} [DecidableEq β] {f : α → β} {xs : List α} {x y : α} {wanted : β}

lemma not_mem_of_nodup_concat {x : α} (distinct : (xs ++ [x]).Nodup) : x ∉ xs :=
  (List.nodup_cons.1 (List.nodup_append_comm.1 distinct)).1

lemma eraseP_concat_of_not_mem (fresh : f x ∉ xs.map f) :
    (xs ++ [x]).eraseP (f · = f x) = xs := by
  have others : ∀ y ∈ xs, ¬ (decide (f y = f x)) = true := by
    intro y member same
    exact fresh (of_decide_eq_true same ▸ List.mem_map_of_mem member)
  rw [List.eraseP_append_right _ others]
  simp

lemma find?_map_ite (found : xs.find? (f · = wanted) = some y) (named : f x = wanted) :
    (xs.map fun z => if f z = wanted then x else z).find? (f · = wanted) = some x := by
  induction xs with
  | nil => cases found
  | cons head tail ih =>
    by_cases here : f head = wanted
    · simp [here, named]
    · simp only [List.find?_cons, here, decide_false] at found
      simpa [here] using ih found

lemma map_ite_map_ite (named : f x = wanted) :
    (xs.map fun z => if f z = wanted then x else z).map
        (fun z => if f z = wanted then y else z) =
      xs.map fun z => if f z = wanted then y else z := by
  rw [List.map_map]
  refine List.map_congr_left fun z _ => ?_
  by_cases here : f z = wanted <;> simp [here, named]

lemma map_ite_eq_self (distinct : (xs.map f).Nodup) (found : xs.find? (f · = wanted) = some x) :
    (xs.map fun z => if f z = wanted then x else z) = xs := by
  refine (List.map_congr_left fun z member => ?_).trans (List.map_id xs)
  split_ifs with named
  · have same := find?_of_mem distinct member named
    exact Option.some.inj (found.symm.trans same)
  · rfl

lemma foldl_erase_filter [DecidableEq α] (distinct : xs.Nodup)
    (p : α → Bool) : (xs.filter p).foldl List.erase xs = xs.filter (!p ·) := by
  rw [← List.diff_eq_foldl, distinct.sdiff_eq_filter]
  refine List.filter_congr fun x member => ?_
  simp [member]

lemma map_ite_eq_modify (distinct : (xs.map f).Nodup)
    (found : xs.find? (f · = wanted) = some x) (change : α → α) :
    xs.map (fun y => if f y = wanted then change x else y) =
      xs.modify (xs.findIdx (f · = wanted)) change := by
  induction xs with
  | nil => cases found
  | cons head tail ih =>
    rw [List.map_cons, List.nodup_cons] at distinct
    by_cases here : f head = wanted
    · have others : ∀ y ∈ tail, f y ≠ wanted := fun y hy same =>
        distinct.1 (List.mem_map.2 ⟨y, hy, by rw [same, here]⟩)
      rw [List.find?_cons_of_pos (by simpa using here), Option.some.injEq] at found
      subst found
      simp [List.findIdx_cons, here, List.map_congr_left fun y hy => if_neg (others y hy)]
    · rw [List.find?_cons_of_neg (by simpa using here)] at found
      simp [List.findIdx_cons, here, ih distinct.2 found]

end Replacing

section Repetitions

variable {α β : Type}

lemma eraseDupsBy_concat (r : α → α → Bool) (xs : List α) (x : α) :
    (xs ++ [x]).eraseDupsBy r =
      if (xs.eraseDupsBy r).any (r x) then xs.eraseDupsBy r else xs.eraseDupsBy r ++ [x] := by
  have loop (kept : List α) : List.eraseDupsBy.loop r (xs ++ [x]) kept =
      if (List.eraseDupsBy.loop r xs kept).any (r x) then List.eraseDupsBy.loop r xs kept
      else List.eraseDupsBy.loop r xs kept ++ [x] := by
    induction xs generalizing kept with
    | nil => cases again : kept.any (r x) <;> simp [List.eraseDupsBy.loop, again]
    | cons y ys ih =>
      rw [List.cons_append, List.eraseDupsBy.loop, List.eraseDupsBy.loop]
      split <;> exact ih _
  exact loop []

lemma eraseDups_concat [DecidableEq α] (xs : List α) (x : α) :
    (xs ++ [x]).eraseDups = if x ∈ xs then xs.eraseDups else xs.eraseDups ++ [x] := by
  rw [List.eraseDups, eraseDupsBy_concat]
  refine if_congr ?_ rfl rfl
  change xs.eraseDups.any (x == ·) = true ↔ _
  simp [List.mem_eraseDups]

lemma map_eraseDupsBy [DecidableEq β] (name : α → β) (xs : List α) :
    (xs.eraseDupsBy (name · == name ·)).map name = (xs.map name).eraseDups := by
  induction xs using List.reverseRecOn with
  | nil => rfl
  | append_singleton xs x ih =>
    have again : (xs.eraseDupsBy (name · == name ·)).any (fun y => name x == name y) = true ↔
        name x ∈ xs.map name := by
      rw [← List.mem_eraseDups, ← ih]
      simp only [List.any_eq_true, beq_iff_eq, List.mem_map, @eq_comm _ (name x)]
    rw [eraseDupsBy_concat, List.map_append, List.map_singleton, eraseDups_concat, ← ih]
    by_cases known : name x ∈ xs.map name
    · rw [if_pos (again.2 known), if_pos known]
    · rw [if_neg (mt again.1 known), if_neg known, List.map_append, List.map_singleton]

/-- The first item of a kind is not lost with the repetitions, which are of one kind. -/
lemma find?_eraseDupsBy {r : α → α → Bool} {p : α → Bool}
    (respects : ∀ x y, r x y = true → p x = p y) (xs : List α) :
    (xs.eraseDupsBy r).find? p = xs.find? p := by
  induction xs using List.reverseRecOn with
  | nil => rfl
  | append_singleton xs x ih =>
    rw [eraseDupsBy_concat, List.find?_append, ← ih]
    split
    · rename_i again
      obtain ⟨y, kept, same⟩ := List.any_eq_true.1 again
      by_cases kind : p x = true
      · have found : ((xs.eraseDupsBy r).find? p).isSome :=
          List.find?_isSome.2 ⟨y, kept, respects x y same ▸ kind⟩
        rw [Option.or_of_isSome found]
      · simp [kind]
    · rw [List.find?_append]

lemma find?_eraseDups [DecidableEq α] (p : α → Bool) (xs : List α) :
    xs.eraseDups.find? p = xs.find? p :=
  find?_eraseDupsBy (fun x y same => by rw [eq_of_beq same]) xs

/-- Without repetitions, items stand in the order in which they come up. -/
lemma pairwise_idxOf_eraseDups [DecidableEq α] (xs : List α) :
    xs.eraseDups.Pairwise fun a b => xs.idxOf a < xs.idxOf b := by
  induction xs using List.reverseRecOn with
  | nil => exact .nil
  | append_singleton xs x ih =>
    have old {a : α} (kept : a ∈ xs.eraseDups) : (xs ++ [x]).idxOf a = xs.idxOf a :=
      List.idxOf_append_of_mem (List.mem_eraseDups.1 kept)
    have before : xs.eraseDups.Pairwise fun a b => (xs ++ [x]).idxOf a < (xs ++ [x]).idxOf b :=
      ih.imp_of_mem fun ha hb less => by rwa [old ha, old hb]
    rw [eraseDups_concat]
    split
    · exact before
    · rename_i fresh
      refine List.pairwise_append.2 ⟨before, List.pairwise_singleton _ _, fun a kept b last => ?_⟩
      rw [List.mem_singleton.1 last, old kept, List.idxOf_append_of_notMem fresh]
      exact Nat.lt_of_lt_of_le (List.idxOf_lt_length_iff.2 (List.mem_eraseDups.1 kept))
        (Nat.le_add_right _ _)

lemma nodup_eraseDups [DecidableEq α] (xs : List α) : xs.eraseDups.Nodup :=
  (pairwise_idxOf_eraseDups xs).imp fun before same => by simp [same] at before

lemma find?_eq_some_iff_idxOf [DecidableEq α] {p : α → Bool} {xs : List α} {x : α} :
    xs.find? p = some x ↔
      x ∈ xs ∧ p x = true ∧ ∀ y ∈ xs, p y = true → xs.idxOf x ≤ xs.idxOf y := by
  induction xs with
  | nil => simp
  | cons head tail ih =>
    rw [List.find?_cons]
    cases wanted : p head with
    | true =>
      simp only [Option.some.injEq]
      constructor
      · rintro rfl
        exact ⟨List.mem_cons_self, wanted, by simp⟩
      · rintro ⟨-, -, earliest⟩
        have first := earliest head List.mem_cons_self wanted
        by_contra different
        simp [different] at first
    | false =>
      have skip (y : α) (kind : p y = true) : (head :: tail).idxOf y = tail.idxOf y + 1 := by
        have different : head ≠ y := by
          rintro rfl
          simp [wanted] at kind
        exact List.idxOf_cons_ne tail different
      simp only [ih]
      constructor
      · rintro ⟨member, kind, earliest⟩
        refine ⟨List.mem_cons_of_mem _ member, kind, fun y listed also => ?_⟩
        rcases List.mem_cons.1 listed with rfl | later
        · simp [wanted] at also
        · rw [skip x kind, skip y also]
          exact Nat.succ_le_succ (earliest y later also)
      · rintro ⟨member, kind, earliest⟩
        refine ⟨?_, kind, fun y later also => ?_⟩
        · rcases List.mem_cons.1 member with rfl | later
          · simp [wanted] at kind
          · exact later
        · have before := earliest y (List.mem_cons_of_mem _ later) also
          rw [skip x kind, skip y also] at before
          exact Nat.le_of_succ_le_succ before

end Repetitions
end PropertyGraph

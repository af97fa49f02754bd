import PropertyGraph.Proofs.ReferenceGraph.FreshIds

/-! How long it takes to find a fresh id. The search has no limit of its own: it tries number
after number until an id is free. It ends all the same, for every number that it passes over has
an id of its own that is taken, and only so many are. -/
namespace PropertyGraph.ReferenceGraph.Ids

/-- From a number on so many numbers are tried, the last of which has an id that is free. -/
inductive Tries (ids : Ids) : Nat → Nat → Nat → Prop
  | found {number : Nat} (free : ids.isTaken (freshId number) = false) :
      Tries ids number 1 number
  | next {number tries last : Nat} (taken : ids.isTaken (freshId number) = true)
      (later : Tries ids (number + 1) tries last) : Tries ids number (tries + 1) last

variable {ids : Ids} {number tries last : Nat}

/-- What is free depends on the ids that are taken, not on the next number. -/
lemma nextFree_iff : NextFree { ids with next := number } last ↔
    number ≤ last ∧ ids.isTaken (freshId last) = false ∧
      ∀ earlier, number ≤ earlier → earlier < last → ids.isTaken (freshId earlier) = true :=
  ⟨fun next => ⟨next.reached, next.free, next.passed⟩,
    fun ⟨reached, free, passed⟩ => ⟨reached, free, passed⟩⟩

lemma Tries.nextFree (search : ids.Tries number tries last) :
    NextFree { ids with next := number } last ∧ number + tries = last + 1 := by
  rw [nextFree_iff]
  induction search with
  | found free => exact ⟨⟨le_rfl, free, fun earlier reached before => by omega⟩, rfl⟩
  | next taken _ ih =>
    obtain ⟨⟨reached, free, passed⟩, count⟩ := ih
    refine ⟨⟨by omega, free, fun earlier above before => ?_⟩, by omega⟩
    rcases Nat.eq_or_lt_of_le above with rfl | behind
    · exact taken
    · exact passed earlier behind before

lemma tries_of_nextFree (next : NextFree { ids with next := number } last)
    (count : number + tries = last + 1) : ids.Tries number tries last := by
  rw [nextFree_iff] at next
  obtain ⟨reached, free, passed⟩ := next
  induction tries generalizing number with
  | zero => omega
  | succ tries ih =>
    rcases Nat.eq_or_lt_of_le reached with rfl | before
    · obtain rfl : tries = 0 := by omega
      exact .found free
    · exact .next (passed number le_rfl before)
        (ih (by omega) before fun earlier behind => passed earlier (by omega))

/-- A search has one outcome: the first free number, and as many tries as it takes to get there. -/
theorem tries_iff : ids.Tries number tries last ↔
    NextFree { ids with next := number } last ∧ number + tries = last + 1 :=
  ⟨Tries.nextFree, fun ⟨next, count⟩ => tries_of_nextFree next count⟩

lemma mem_of_isTaken {id : String} (taken : ids.isTaken id = true) :
    id ∈ ids.reserved.toFinset ∪ ids.used.toFinset := by
  simpa [isTaken] using taken

theorem NextFree.passed_le (next : ids.NextFree number) :
    number - ids.next ≤ (ids.reserved.toFinset ∪ ids.used.toFinset).card := by
  have inside : ∀ earlier ∈ Finset.Ico ids.next number,
      freshId earlier ∈ ids.reserved.toFinset ∪ ids.used.toFinset := by
    intro earlier between
    obtain ⟨reached, before⟩ := Finset.mem_Ico.1 between
    exact mem_of_isTaken (next.passed earlier reached before)
  calc number - ids.next
      = (Finset.Ico ids.next number).card := (Nat.card_Ico _ _).symm
    _ ≤ (ids.reserved.toFinset ∪ ids.used.toFinset).card :=
        Finset.card_le_card_of_injOn freshId inside freshId_injective.injOn

lemma NextFree.isLeast (next : ids.NextFree number) :
    IsLeast {n | ids.next ≤ n ∧ freshId n ∉ ids.reserved ∧ freshId n ∉ ids.used} number := by
  refine ⟨⟨next.reached, isTaken_eq_false_iff.1 next.free⟩, ?_⟩
  rintro n ⟨reached, unused⟩
  by_contra before
  have taken := next.passed n reached (not_le.1 before)
  rw [isTaken_eq_false_iff.2 unused] at taken
  cases taken

/-- Whatever is reserved and has been given out, the search for a fresh id ends, and in one way
only. It makes no more tries than there are ids taken and one more, its outcome is the first
number from the next one on whose id is free, and the next number is the one behind it. -/
theorem exists_tries_fresh (ids : Ids) : ∃ tries number,
    (∀ tries' number', ids.Tries ids.next tries' number' ↔ tries' = tries ∧ number' = number) ∧
      tries ≤ ids.reserved.toFinset.card + ids.used.toFinset.card + 1 ∧
      IsLeast {n | ids.next ≤ n ∧ freshId n ∉ ids.reserved ∧ freshId n ∉ ids.used} number ∧
      ids.fresh = (freshId number, ⟨ids.reserved, freshId number :: ids.used, number + 1⟩) := by
  obtain ⟨number, next, fresh⟩ := ids.exists_fresh_eq
  have reached := next.reached
  refine ⟨number + 1 - ids.next, number, fun tries' number' => ?_, ?_, next.isLeast, fresh⟩
  · rw [tries_iff]
    constructor
    · rintro ⟨next', count⟩
      obtain rfl : number' = number := next'.unique next
      exact ⟨by omega, rfl⟩
    · rintro ⟨rfl, rfl⟩
      exact ⟨next, by omega⟩
  · have passed := next.passed_le
    have union := Finset.card_union_le ids.reserved.toFinset ids.used.toFinset
    omega

/-- As many tries are made as the bound allows if all that is taken stands in the way. -/
example : Tries ⟨["p:0", "p:2"], ["p:1"], 0⟩ 0 (2 + 1 + 1) 3 :=
  .next rfl (.next rfl (.next rfl (.found rfl)))

end PropertyGraph.ReferenceGraph.Ids

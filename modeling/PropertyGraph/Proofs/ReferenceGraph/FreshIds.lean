import PropertyGraph.Proofs.ReferenceGraph.Numbering

/-! Ids for requests in any order. A fresh id has the first free number from the next one on,
and an id that is stored is given out once. So no two answers are the same, in whatever order
ids are asked for, and whether or not the stored ones are reserved or look like fresh ones. -/
namespace PropertyGraph.ReferenceGraph.Ids

section Fresh

variable {ids : Ids} {m n : Nat}

/-- The first number from the next one on whose id is neither reserved nor given out. -/
structure NextFree (ids : Ids) (number : Nat) : Prop where
  reached : ids.next ≤ number
  free : ids.isTaken (freshId number) = false
  passed : ∀ earlier, ids.next ≤ earlier → earlier < number →
    ids.isTaken (freshId earlier) = true

lemma NextFree.unique (first : ids.NextFree m) (second : ids.NextFree n) : m = n := by
  have le {m n : Nat} (first : ids.NextFree m) (second : ids.NextFree n) : m ≤ n := by
    by_contra later
    have taken := first.passed n second.reached (by omega)
    rw [second.free] at taken
    cases taken
  exact le_antisymm (le first second) (le second first)

lemma firstFree_passed (ids : Ids) (tries number : Nat) :
    number ≤ ids.firstFree tries number ∧
      ∀ earlier, number ≤ earlier → earlier < ids.firstFree tries number →
        ids.isTaken (freshId earlier) = true := by
  induction tries generalizing number with
  | zero => exact ⟨le_rfl, fun earlier reached before => absurd before (not_lt.2 reached)⟩
  | succ tries ih =>
    rw [firstFree]
    split_ifs with taken
    · obtain ⟨behind, passed⟩ := ih (number + 1)
      refine ⟨by omega, fun earlier reached before => ?_⟩
      rcases Nat.eq_or_lt_of_le reached with rfl | later
      · exact taken
      · exact passed earlier later before
    · exact ⟨le_rfl, fun earlier reached before => absurd before (not_lt.2 reached)⟩

/-- A fresh id has the first free number, and the next one to try is the one behind it. -/
theorem exists_fresh_eq (ids : Ids) : ∃ number, ids.NextFree number ∧
    ids.fresh = (freshId number, ⟨ids.reserved, freshId number :: ids.used, number + 1⟩) := by
  obtain ⟨reached, passed⟩ :=
    ids.firstFree_passed (ids.reserved.length + ids.used.length) ids.next
  exact ⟨_, ⟨reached, ids.fresh_not_taken, passed⟩, rfl⟩

theorem NextFree.fresh_eq (next : ids.NextFree n) :
    ids.fresh = (freshId n, ⟨ids.reserved, freshId n :: ids.used, n + 1⟩) := by
  obtain ⟨number, found, made⟩ := ids.exists_fresh_eq
  rw [made, found.unique next]

end Fresh

/-- The answers other than the id stored for their request. -/
def madeUp (requests : List Request) (answers : List String) : List String :=
  ((requests.zip answers).filter fun entry => entry.1.storedId? ≠ some entry.2).map Prod.snd

/-- Answers to requests in turn: no two are the same, a stored id is the answer exactly if it
has not been one before, and all others are fresh ones that are not reserved, with numbers that
only grow. -/
structure Serves (reserved : List String) (requests : List Request) (answers : List String) :
    Prop where
  count : answers.length = requests.length
  distinct : answers.Nodup
  kept : ∀ (i : Nat) request id, requests[i]? = some request → request.storedId? = some id →
    (answers[i]? = some id ↔ id ∉ answers.take i)
  fresh : ∃ numbers : List Nat, madeUp requests answers = numbers.map freshId ∧
    numbers.Pairwise (· < ·) ∧ ∀ n ∈ numbers, freshId n ∉ reserved

section Requests

variable {ids : Ids} {request : Request} {requests : List Request}

/-- An answer is the stored id if that has not been given out, and a fresh one otherwise. -/
lemma answer_cases (ids : Ids) (request : Request) :
    (∃ id, request.storedId? = some id ∧ id ∉ ids.used ∧
        ids.answer request = (id, { ids with used := id :: ids.used })) ∨
      (∀ id ∈ request.storedId?, id ∈ ids.used) ∧ ids.answer request = ids.fresh := by
  cases request with
  | fresh => exact .inr ⟨by simp [Request.storedId?], rfl⟩
  | of property =>
    cases stored : property.storedId? with
    | none => exact .inr ⟨by simp [Request.storedId?, stored], by simp [answer, take, stored]⟩
    | some id =>
      by_cases used : id ∈ ids.used
      · exact .inr ⟨by simpa [Request.storedId?, stored], by simp [answer, take, stored, used]⟩
      · exact .inl ⟨id, stored, used, take_of_stored stored used⟩

lemma hands_answer (ids : Ids) (request : Request) :
    ids.Hands [(ids.answer request).1] (ids.answer request).2 := by
  cases request with
  | of property => exact .take ids property
  | fresh =>
    exact ⟨rfl, by simpa [answer] using ids.fresh_ne_empty, by simp,
      by simpa [answer] using ids.fresh_not_used⟩

lemma hands_answerAll (ids : Ids) (requests : List Request) :
    ids.Hands (ids.answerAll requests).1 (ids.answerAll requests).2 := by
  induction requests generalizing ids with
  | nil => exact .nil ids
  | cons request rest ih => exact (ids.hands_answer request).append (ih _)

lemma length_answerAll (ids : Ids) (requests : List Request) :
    (ids.answerAll requests).1.length = requests.length := by
  induction requests generalizing ids with
  | nil => rfl
  | cons request rest ih => simp [answerAll, ih]

lemma kept_answerAll (ids : Ids) {i : Nat} {id : String} (here : requests[i]? = some request)
    (stored : request.storedId? = some id) :
    (ids.answerAll requests).1[i]? = some id ↔
      id ∉ (ids.answerAll requests).1.take i ∧ id ∉ ids.used := by
  induction requests generalizing ids i with
  | nil => simp at here
  | cons first rest ih =>
    cases i with
    | zero =>
      cases here
      rcases ids.answer_cases request with ⟨own, same, unused, given⟩ | ⟨used, given⟩
      · obtain rfl := Option.some.inj (stored.symm.trans same)
        simp [answerAll, given, unused]
      · have taken : id ∈ ids.used := used id stored
        have other : ids.fresh.1 ≠ id := fun same => ids.fresh_not_used (same ▸ taken)
        simp [answerAll, given, taken, other]
    | succ i =>
      have later := ih (ids.answer first).2 here
      rw [(ids.hands_answer first).used] at later
      simp only [answerAll, List.getElem?_cons_succ, List.take_succ_cons, later]
      simp only [List.reverse_singleton, List.singleton_append, List.mem_cons, not_or]
      tauto

lemma fresh_answerAll (ids : Ids) (requests : List Request) :
    ∃ numbers : List Nat,
      madeUp requests (ids.answerAll requests).1 = numbers.map freshId ∧
        numbers.Pairwise (· < ·) ∧
          ∀ n ∈ numbers, ids.next ≤ n ∧ freshId n ∉ ids.reserved := by
  induction requests generalizing ids with
  | nil => exact ⟨[], rfl, .nil, by simp⟩
  | cons request rest ih =>
    rcases ids.answer_cases request with ⟨id, stored, -, given⟩ | ⟨used, given⟩
    · obtain ⟨numbers, others, grow, each⟩ := ih (ids.answer request).2
      rw [given] at others each
      exact ⟨numbers, by simpa [madeUp, answerAll, given, stored] using others, grow, each⟩
    · obtain ⟨number, next, made⟩ := ids.exists_fresh_eq
      obtain ⟨numbers, others, grow, each⟩ := ih (ids.answer request).2
      rw [given, made] at others each
      have unused := ids.fresh_not_used
      have free := ids.fresh_not_reserved
      rw [made] at unused free
      have own : request.storedId? ≠ some (freshId number) := fun stored =>
        unused (used _ stored)
      have behind : ∀ n ∈ numbers, number < n := fun n later => (each n later).1
      refine ⟨number :: numbers, ?_, List.pairwise_cons.2 ⟨behind, grow⟩,
        List.forall_mem_cons.2 ⟨⟨next.reached, free⟩, fun n later => ⟨?_, (each n later).2⟩⟩⟩
      · simpa [madeUp, answerAll, given, made, own] using others
      · exact next.reached.trans (behind n later).le

/-- Whatever is reserved and whatever is asked for in whatever order, the ids given out are
all different, stored ones come first, and the numbers of the others grow. -/
theorem serves_answerAll (reserved : List String) (requests : List Request) :
    Serves reserved requests ((start reserved).answerAll requests).1 := by
  have hands := (start reserved).hands_answerAll requests
  obtain ⟨numbers, others, grow, each⟩ := (start reserved).fresh_answerAll requests
  refine ⟨(start reserved).length_answerAll requests, hands.distinct, fun i request id here
    stored => ?_, numbers, others, grow, fun n member => (each n member).2⟩
  rw [(start reserved).kept_answerAll here stored]
  simp [start]

/-- An unreserved id that looks like a fresh one is given out once, whoever comes first. -/
example :
    let stored (id : String) : Request := .of ⟨"title", "STRING", none, none, some ⟨some id, none⟩⟩
    ((start ["p:1"]).answerAll [.fresh, stored "p:0", stored "p:3", .fresh, stored "p:1"]).1 =
      ["p:0", "p:2", "p:3", "p:4", "p:1"] := by
  decide +kernel

end Requests
end PropertyGraph.ReferenceGraph.Ids

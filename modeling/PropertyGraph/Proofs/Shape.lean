import PropertyGraph.Proofs.Members
import PropertyGraph.Shape.Basic

/-! What comes out of a check. The path only stands before the places of the issues, so a
value that passes somewhere passes everywhere and is rebuilt alike. Objects written in the
order of their shape pass member by member. -/
namespace PropertyGraph

def Issue.under (path : List String) (issue : Issue) : Issue :=
  ⟨path ++ issue.path, issue.message⟩

namespace Outcome

def under (path : List String) (outcome : Outcome) : Outcome :=
  ⟨outcome.value, outcome.issues.map (Issue.under path)⟩

variable (path rest : List String)

@[simp] lemma under_value (outcome : Outcome) : (outcome.under path).value = outcome.value := rfl

@[simp] lemma under_accept (value : Json) : (accept value).under path = accept value := rfl

@[simp] lemma under_refuse (fault : Fault) :
    (refuse rest fault).under path = refuse (path ++ rest) fault := rfl

@[simp] lemma under_report (value : Json) (faults : List Fault) :
    (report rest value faults).under path = report (path ++ rest) value faults := by
  simp [report, under, Issue.under]

@[simp] lemma under_mismatch (expected : String) (value : Option Json) :
    (mismatch rest expected value).under path = mismatch (path ++ rest) expected value := by
  cases value <;> rfl

end Outcome

namespace Shape

lemma gatherItems_under (path : List String) (outcomes : List Outcome) (faults : List Issue) :
    (gatherItems outcomes faults).under path =
      gatherItems (outcomes.map (Outcome.under path)) (faults.map (Issue.under path)) := by
  simp [gatherItems, Outcome.under, List.filterMap_map, List.flatMap_map, List.map_flatMap,
    Function.comp_def]

lemma gatherMembers_under (path : List String) (outcomes : List (String × Outcome))
    (kept : List (String × Json)) :
    (gatherMembers outcomes kept).under path =
      gatherMembers (outcomes.map fun entry => (entry.1, entry.2.under path)) kept := by
  simp [gatherMembers, Outcome.under, List.filterMap_map, List.flatMap_map, List.map_flatMap,
    Function.comp_def]

mutual

/-- A path before the place of a check only stands before the places of its issues. -/
theorem check_under (path rest : List String) (value : Option Json) :
    (shape : Shape) → check (path ++ rest) value shape = (check rest value shape).under path
  | .anything => by simp [check, Outcome.under]
  | .text nonEmpty => by
    simp only [check]
    split <;> simp
  | .flag => by
    simp only [check]
    split <;> simp
  | .number rule => by
    simp only [check]
    split
    · split <;> simp
    · simp
  | .choice choices => by
    simp only [check]
    split
    · split <;> simp
    · simp
  | .list nonEmpty item => by
    simp only [check]
    split
    · rename_i items
      have each (i : Nat) (v : Json) := check_under path (rest ++ [toString i]) (some v) item
      have faults : (if (nonEmpty && items.isEmpty) = true
          then [(⟨path ++ rest, Fault.emptyList.message⟩ : Issue)] else []) =
          (if (nonEmpty && items.isEmpty) = true
            then [(⟨rest, Fault.emptyList.message⟩ : Issue)] else []).map (Issue.under path) := by
        split <;> rfl
      simp only [gatherItems_under, List.mapIdx_eq_zipIdx_map, List.map_map, List.append_assoc,
        each, faults, Function.comp_def]
    · simp
  | .dictionary item => by
    simp only [check]
    split
    · have each (name : String) (v : Json) := check_under path (rest ++ [name]) (some v) item
      simp only [gatherMembers_under, List.map_map, List.append_assoc, each, Function.comp_def]
    · simp
  | .object shapes keepsUnknown => by
    simp only [check]
    split
    · simp only [gatherMembers_under, checkMembers_under path rest _ shapes]
    · simp
  | .optional shape => by
    cases value with
    | none => simp [check, Outcome.under]
    | some v => simpa only [check] using check_under path rest (some v) shape
  | .nullable shape => by
    simp only [check]
    split
    · simp
    · exact check_under path rest _ shape
  | .withDefault shape default => by
    simpa only [check] using check_under path rest (some (value.getD default)) shape

theorem checkMembers_under (path rest : List String) (members : List (String × Json)) :
    (shapes : List (String × Shape)) →
      checkMembers (path ++ rest) members shapes =
        (checkMembers rest members shapes).map fun entry => (entry.1, entry.2.under path)
  | [] => rfl
  | (name, shape) :: shapes => by
    have head := check_under path (rest ++ [name]) (Members.get? name members) shape
    simp only [checkMembers, List.map_cons, List.append_assoc, head,
      checkMembers_under path rest members shapes]

end

lemma isSome_of_no_issues (path : List String) (value : Json) :
    (shape : Shape) → (check path (some value) shape).issues = [] →
      (check path (some value) shape).value.isSome
  | .anything => fun _ => rfl
  | .text nonEmpty => by
    cases value <;> simp [check, Outcome.mismatch, Outcome.refuse, Outcome.report]
  | .flag => by
    cases value <;> simp [check, Outcome.mismatch, Outcome.refuse, Outcome.accept]
  | .number rule => by
    cases value with
    | number x =>
      by_cases hx : x.isNaN = true <;>
        simp [check, hx, Outcome.mismatch, Outcome.refuse, Outcome.report]
    | _ => simp [check, Outcome.mismatch, Outcome.refuse]
  | .choice choices => by
    cases value with
    | string s =>
      by_cases hs : s ∈ choices <;> simp [check, hs, Outcome.accept, Outcome.refuse]
    | _ => simp [check, Outcome.mismatch, Outcome.refuse]
  | .list nonEmpty item => by
    cases value <;> simp [check, Outcome.mismatch, Outcome.refuse, gatherItems]
  | .dictionary item => by
    cases value <;> simp [check, Outcome.mismatch, Outcome.refuse, gatherMembers]
  | .object shapes keepsUnknown => by
    cases value <;> simp [check, Outcome.mismatch, Outcome.refuse, gatherMembers]
  | .optional shape => by
    simpa only [check] using isSome_of_no_issues path value shape
  | .nullable shape => by
    cases value with
    | null => simp [check, Outcome.accept]
    | _ => simpa only [check] using isSome_of_no_issues path _ shape
  | .withDefault shape default => by
    simpa only [check] using isSome_of_no_issues path _ shape

/-- Wherever the value stands it passes and is rebuilt as the result. -/
def Yields (shape : Shape) (value result : Json) : Prop :=
  ∀ path, check path (some value) shape = .accept result

/-- The value as a check rebuilds it. -/
def rebuild (shape : Shape) (value : Json) : Json :=
  (check [] (some value) shape).value.getD .null

/-- A value that passes somewhere passes everywhere. -/
theorem yields_rebuild {shape : Shape} {path : List String} {value : Json}
    (passes : (check path (some value) shape).issues = []) :
    shape.Yields value (shape.rebuild value) := by
  have same (place : List String) :
      check place (some value) shape = (check [] (some value) shape).under place := by
    simpa using check_under place [] (some value) shape
  have clean : (check [] (some value) shape).issues = [] := by
    simpa [same path, Outcome.under] using passes
  have present := isSome_of_no_issues [] value shape clean
  obtain ⟨result, found⟩ := Option.isSome_iff_exists.1 present
  intro place
  rw [same place, Outcome.under, clean, rebuild, found]
  rfl

lemma Yields.parse {shape : Shape} {value result : Json} (h : shape.Yields value result) :
    shape.parse (some value) = .ok result := by
  simp [Shape.parse, h [], Outcome.accept]

lemma Yields.rebuild_eq {shape : Shape} {value result : Json} (h : shape.Yields value result) :
    shape.rebuild value = result := by
  simp [rebuild, h [], Outcome.accept]

lemma yields_of_parse {shape : Shape} {value result : Json}
    (parsed : shape.parse (some value) = .ok result) : shape.Yields value result := by
  have clean : (check [] (some value) shape).issues = [] := by
    by_contra dirty
    simp [Shape.parse, dirty] at parsed
  have h := yields_rebuild clean
  rw [h.parse, Except.ok.injEq] at parsed
  exact parsed ▸ h

lemma yields_anyText (s : String) : anyText.Yields (.string s) (.string s) := fun _ => by
  simp [anyText, check, Outcome.report, Outcome.accept]

lemma yields_someText {s : String} (hs : s ≠ "") : someText.Yields (.string s) (.string s) :=
  fun _ => by simp [someText, check, Outcome.report, Outcome.accept, hs]

lemma yields_flag (b : Bool) : flag.Yields (.bool b) (.bool b) := fun _ => by simp [check]

lemma yields_choice {choices : List String} {s : String} (hs : s ∈ choices) :
    (Shape.choice choices).Yields (.string s) (.string s) := fun _ => by simp [check, hs]

lemma yields_anyNumber {x : Binary64} (hx : x.isNaN = false) :
    (Shape.number .any).Yields (.number x) (.number x) := fun _ => by
  simp [check, hx, NumberRule.faults, Outcome.report, Outcome.accept]

lemma yields_null (shape : Shape) : (nullable shape).Yields .null .null := fun _ => by simp [check]

lemma Yields.nullable {shape : Shape} {members : List (String × Json)} {result : Json}
    (h : shape.Yields (.object members) result) :
    (nullable shape).Yields (.object members) result := fun path => by
  simpa only [check] using h path

lemma Yields.optional {shape : Shape} {value result : Json} (h : shape.Yields value result) :
    (Shape.optional shape).Yields value result := fun path => by
  simpa only [check] using h path

lemma Yields.of_optional {shape : Shape} {value result : Json}
    (h : (Shape.optional shape).Yields value result) : shape.Yields value result := fun path => by
  simpa only [check] using h path

lemma values_accept (values : List Json) :
    (values.map Outcome.accept).filterMap Outcome.value = values := by
  rw [List.filterMap_map]
  exact List.filterMap_some

lemma gatherItems_accept (values : List Json) :
    gatherItems (values.map Outcome.accept) [] = .accept (.array values) := by
  have issues : (values.map Outcome.accept).flatMap Outcome.issues = [] := by
    rw [List.flatMap_map]
    exact List.flatMap_eq_nil_iff.2 fun _ _ => rfl
  simp only [gatherItems, values_accept, issues, List.append_nil]
  rfl

lemma gatherMembers_accept (members : List (String × Json)) :
    gatherMembers (members.map fun entry => (entry.1, .accept entry.2)) [] =
      .accept (.object (Members.assign members)) := by
  have issues : (members.map fun entry => (entry.1, Outcome.accept entry.2)).flatMap
      (·.2.issues) = [] := by
    rw [List.flatMap_map]
    exact List.flatMap_eq_nil_iff.2 fun _ _ => rfl
  have rebuilt : (members.map fun entry => (entry.1, Outcome.accept entry.2)).filterMap
      (fun entry => entry.2.value.map fun v => (entry.1, v)) = members := by
    rw [List.filterMap_map]
    exact List.filterMap_some
  simp only [gatherMembers, rebuilt, issues, List.append_nil]
  rfl

lemma yields_list {α : Type} {item : Shape} {f g : α → Json} {xs : List α}
    (h : ∀ x ∈ xs, item.Yields (f x) (g x)) :
    (listOf item).Yields (.array (xs.map f)) (.array (xs.map g)) := fun path => by
  have items : (xs.map f).mapIdx (fun i v => check (path ++ [toString i]) (some v) item) =
      (xs.map g).map Outcome.accept := by
    refine List.ext_getElem (by simp) fun i hi _ => ?_
    have inside : i < xs.length := by simpa using hi
    simpa using h xs[i] (List.getElem_mem inside) _
  simp only [listOf, check, items, Bool.false_and, Bool.false_eq_true, if_false]
  exact gatherItems_accept _

lemma yields_entries {α : Type} {item : Shape} {f g : α → Json} {entries : List (String × α)}
    (h : ∀ entry ∈ entries, item.Yields (f entry.2) (g entry.2)) :
    (dictionary item).Yields (.object (entries.map fun entry => (entry.1, f entry.2)))
      (.object (Members.assign (entries.map fun entry => (entry.1, g entry.2)))) := fun path => by
  have each : (entries.map fun entry => (entry.1, f entry.2)).map
      (fun entry => (entry.1, check (path ++ [entry.1]) (some entry.2) item)) =
        (entries.map fun entry => (entry.1, g entry.2)).map fun entry =>
          (entry.1, Outcome.accept entry.2) := by
    rw [List.map_map, List.map_map]
    exact List.map_congr_left fun entry member => congrArg (Prod.mk _) (h entry member _)
  simp only [check, each, gatherMembers_accept]

lemma yields_dictionary (members : List (String × Json)) :
    (dictionary .anything).Yields (.object members) (.object (Members.assign members)) := by
  have each : ∀ entry ∈ members, Shape.anything.Yields (id entry.2) (id entry.2) :=
    fun _ _ _ => rfl
  simpa using yields_entries each

/-- Every name has one shape, and none is that of a prototype. -/
def WellNamed (shapes : List (String × Shape)) : Prop :=
  (Members.prototype :: shapes.map Prod.fst).Nodup

instance (shapes : List (String × Shape)) : Decidable (WellNamed shapes) :=
  inferInstanceAs (Decidable (List.Nodup _))

lemma WellNamed.nodup {shapes : List (String × Shape)} (named : WellNamed shapes) :
    (shapes.map Prod.fst).Nodup :=
  (List.nodup_cons.1 named).2

lemma WellNamed.ordinary {shapes : List (String × Shape)} (named : WellNamed shapes)
    {name : String} (known : name ∈ shapes.map Prod.fst) : name ≠ Members.prototype :=
  fun same => (List.nodup_cons.1 named).1 (same ▸ known)

/-- Members that stand in the order of their shapes, none of them unknown, and what they
are rebuilt as. -/
inductive Writes :
    List (String × Shape) → List (String × Json) → List (String × Json) → Prop
  | nil : Writes [] [] []
  | member {name : String} {shape : Shape} {v w : Json} {shapes : List (String × Shape)}
      {vs ws : List (String × Json)} (h : shape.Yields v w) (rest : Writes shapes vs ws) :
      Writes ((name, shape) :: shapes) ((name, v) :: vs) ((name, w) :: ws)
  | absent {name : String} {shape : Shape} {shapes : List (String × Shape)}
      {vs ws : List (String × Json)} (rest : Writes shapes vs ws) :
      Writes ((name, .optional shape) :: shapes) vs ws

namespace Writes

variable {shapes : List (String × Shape)} {vs ws : List (String × Json)}

lemma optional {α : Type} {name : String} {shape : Shape} {f g : α → Json} {a : Option α}
    (h : ∀ x ∈ a, shape.Yields (f x) (g x)) (rest : Writes shapes vs ws) :
    Writes ((name, .optional shape) :: shapes) (Json.optional name (a.map f) ++ vs)
      (Json.optional name (a.map g) ++ ws) := by
  cases a with
  | none => exact .absent rest
  | some x => exact .member (h x rfl).optional rest

lemma optional_last {α : Type} {name : String} {shape : Shape} {f g : α → Json}
    {a : Option α} (h : ∀ x ∈ a, shape.Yields (f x) (g x)) :
    Writes [(name, .optional shape)] (Json.optional name (a.map f))
      (Json.optional name (a.map g)) := by
  simpa using optional h .nil

lemma names_sublist (h : Writes shapes vs ws) :
    (vs.map Prod.fst).Sublist (shapes.map Prod.fst) ∧
      (ws.map Prod.fst).Sublist (shapes.map Prod.fst) := by
  induction h with
  | nil => simp
  | member _ _ ih => exact ⟨ih.1.cons_cons _, ih.2.cons_cons _⟩
  | absent _ ih => exact ⟨ih.1.cons _, ih.2.cons _⟩

lemma checkMembers_eq (h : Writes shapes vs ws) (distinct : (shapes.map Prod.fst).Nodup)
    {members : List (String × Json)}
    (agree : ∀ name ∈ shapes.map Prod.fst, Members.get? name members = vs.lookup name)
    (path : List String) :
    (checkMembers path members shapes).flatMap (·.2.issues) = [] ∧
      (checkMembers path members shapes).filterMap
        (fun entry => entry.2.value.map fun v => (entry.1, v)) = ws := by
  induction h with
  | nil => simp [checkMembers]
  | @member name shape v w shapes vs ws hv rest ih =>
    rw [List.map_cons, List.nodup_cons] at distinct
    have here : Members.get? name members = some v := by simpa using agree name (by simp)
    have others : ∀ other ∈ shapes.map Prod.fst,
        Members.get? other members = vs.lookup other := by
      intro other member
      have different : other ≠ name := fun same => distinct.1 (same ▸ member)
      rw [agree other (by simp [member]), Members.lookup_cons_ne _ _ different]
    obtain ⟨issues, rebuilt⟩ := ih distinct.2 others
    simp [checkMembers, here, hv _, Outcome.accept, issues, rebuilt]
  | @absent name shape shapes vs ws rest ih =>
    rw [List.map_cons, List.nodup_cons] at distinct
    have missing : name ∉ vs.map Prod.fst := fun member =>
      distinct.1 (rest.names_sublist.1.subset member)
    have here : Members.get? name members = none := by
      rw [agree name (by simp), List.lookup_eq_none_iff]
      intro entry member
      simpa using fun same : name = entry.1 => missing (List.mem_map.2 ⟨entry, member, same.symm⟩)
    obtain ⟨issues, rebuilt⟩ := ih distinct.2 fun other member => agree other (by simp [member])
    simp [checkMembers, here, check, issues, rebuilt]

end Writes

/-- An object whose known members are those of a list in the order of its shape is rebuilt
member by member, if nothing else in it is kept. -/
theorem yields_object_of_agree {shapes : List (String × Shape)} {keepsUnknown : Bool}
    {members vs ws : List (String × Json)} (h : Writes shapes vs ws) (named : WellNamed shapes)
    (plain : ∀ name ∈ shapes.map Prod.fst, Members.isIndex name = false)
    (agree : ∀ name ∈ shapes.map Prod.fst, Members.get? name members = Members.get? name vs)
    (known : keepsUnknown = true → ∀ entry ∈ members, entry.1 ∈ shapes.map Prod.fst) :
    (Shape.object shapes keepsUnknown).Yields (.object members) (.object ws) := fun path => by
  obtain ⟨issues, rebuilt⟩ := h.checkMembers_eq named.nodup agree path
  have kept : (if keepsUnknown = true
      then members.filter fun entry => !(shapes.map Prod.fst).contains entry.1 else []) = [] := by
    split
    · rename_i keeps
      simp only [List.filter_eq_nil_iff, Bool.not_eq_true, Bool.not_eq_false',
        List.contains_iff_mem]
      exact known keeps
    · rfl
  have listed : ∀ name ∈ ws.map Prod.fst, name ∈ shapes.map Prod.fst :=
    fun name member => h.names_sublist.2.subset member
  have order : Members.assign ws = ws := Members.assign_eq_self_iff.2
    ⟨Members.inOrder_of_not_index fun name member => plain name (listed name member),
      fun entry member => named.ordinary (listed _ (List.mem_map_of_mem member))⟩
  simp only [check, gatherMembers, issues, rebuilt, kept, List.append_nil, order]
  rfl

/-- An object that is written in the order of its shape is rebuilt member by member. -/
theorem yields_object {shapes : List (String × Shape)} {keepsUnknown : Bool}
    {vs ws : List (String × Json)} (h : Writes shapes vs ws) (named : WellNamed shapes)
    (plain : ∀ name ∈ shapes.map Prod.fst, Members.isIndex name = false) :
    (Shape.object shapes keepsUnknown).Yields (.object vs) (.object ws) :=
  yields_object_of_agree h named plain (fun _ _ => rfl) fun _ _ member =>
    h.names_sublist.1.subset (List.mem_map_of_mem member)

section Passing

variable {path : List String} {shapes : List (String × Shape)} {keepsUnknown : Bool}
  {members : List (String × Json)} {name : String} {shape : Shape}

lemma check_of_mem (known : (name, shape) ∈ shapes) :
    (name, check (path ++ [name]) (Members.get? name members) shape) ∈
      checkMembers path members shapes := by
  induction shapes with
  | nil => cases known
  | cons head rest ih =>
    rcases List.mem_cons.1 known with rfl | later
    · exact List.mem_cons_self
    · exact List.mem_cons_of_mem _ (ih later)

lemma names_checkMembers : (checkMembers path members shapes).map Prod.fst = shapes.map Prod.fst := by
  induction shapes with
  | nil => rfl
  | cons head rest ih => simp [checkMembers, ih]

lemma member_issues_eq_nil
    (clean : (check path (some (.object members)) (.object shapes keepsUnknown)).issues = [])
    (known : (name, shape) ∈ shapes) :
    (check (path ++ [name]) (Members.get? name members) shape).issues = [] := by
  simp only [check, gatherMembers, List.flatMap_eq_nil_iff] at clean
  exact clean _ (check_of_mem known)

lemma item_yields {nonEmpty : Bool} {item : Shape} {items : List Json}
    (clean : (check path (some (.array items)) (.list nonEmpty item)).issues = []) :
    ∀ v ∈ items, item.Yields v (item.rebuild v) := by
  intro v member
  obtain ⟨i, inside, rfl⟩ := List.mem_iff_getElem.1 member
  simp only [check, gatherItems, List.append_eq_nil_iff, List.flatMap_eq_nil_iff] at clean
  have listed : check (path ++ [toString i]) (some items[i]) item ∈
      items.mapIdx fun i v => check (path ++ [toString i]) (some v) item :=
    List.mem_mapIdx.2 ⟨i, inside, rfl⟩
  exact yields_rebuild (clean.2 _ listed)

theorem list_rebuilt {nonEmpty : Bool} {item : Shape} {value result : Json}
    (h : (Shape.list nonEmpty item).Yields value result) :
    ∃ items, value = .array items ∧ result = .array (items.map item.rebuild) ∧
      ∀ v ∈ items, item.Yields v (item.rebuild v) := by
  have checked := h []
  cases value with
  | array items =>
    have clean : (check [] (some (.array items)) (.list nonEmpty item)).issues = [] := by
      rw [checked]
      rfl
    have each := item_yields clean
    refine ⟨items, rfl, ?_, each⟩
    have outcomes : items.mapIdx (fun i v => check ([] ++ [toString i]) (some v) item) =
        (items.map item.rebuild).map Outcome.accept := by
      refine List.ext_getElem (by simp) fun i hi _ => ?_
      have inside : i < items.length := by simpa using hi
      simpa using each items[i] (List.getElem_mem inside) _
    have values := congrArg Outcome.value checked
    simp only [check, outcomes, gatherItems, values_accept] at values
    exact (Option.some.inj values).symm
  | _ => simp [check, Outcome.mismatch, Outcome.refuse, Outcome.accept] at checked

lemma lookup_rebuilt {entries : List (String × Outcome)} {outcome : Outcome}
    (distinct : (entries.map Prod.fst).Nodup) (listed : (name, outcome) ∈ entries) :
    (entries.filterMap fun entry => entry.2.value.map fun v => (entry.1, v)).lookup name =
      outcome.value := by
  induction entries with
  | nil => cases listed
  | cons entry rest ih =>
    obtain ⟨other, found⟩ := entry
    rw [List.map_cons, List.nodup_cons] at distinct
    rcases List.mem_cons.1 listed with same | later
    · cases same
      cases value : outcome.value with
      | some v => simp [value]
      | none =>
        simp only [List.filterMap_cons, value, Option.map_none]
        rw [List.lookup_eq_none_iff]
        intro member inside
        obtain ⟨source, there, made⟩ := List.mem_filterMap.1 inside
        obtain ⟨v, -, rfl⟩ := Option.map_eq_some_iff.1 made
        rw [bne_iff_ne]
        intro same
        have inRest : source.1 ∈ rest.map Prod.fst := List.mem_map_of_mem there
        exact distinct.1 (same ▸ inRest)
    · have different : name ≠ other := by
        rintro rfl
        exact distinct.1 (List.mem_map.2 ⟨_, later, rfl⟩)
      rw [List.filterMap_cons]
      cases found.value with
      | none => exact ih distinct.2 later
      | some v => rw [← ih distinct.2 later]; exact Members.lookup_cons_ne v _ different

theorem get?_rebuilt {result : Json}
    (h : (Shape.object shapes keepsUnknown).Yields (.object members) result)
    (named : WellNamed shapes) (known : (name, shape) ∈ shapes) :
    result.get? name = (check [name] (Members.get? name members) shape).value := by
  have built := h []
  simp only [check, gatherMembers, Outcome.accept, Outcome.mk.injEq, Option.some.injEq] at built
  have listed : (name, check ([] ++ [name]) (Members.get? name members) shape) ∈
      checkMembers [] members shapes := check_of_mem known
  have outcome := lookup_rebuilt (names_checkMembers ▸ named.nodup) listed
  have kept : (if keepsUnknown = true
      then members.filter fun entry => !(shapes.map Prod.fst).contains entry.1
      else []).lookup name = none := by
    rw [List.lookup_eq_none_iff]
    intro entry inside
    rw [bne_iff_ne]
    rintro rfl
    split at inside
    · have unknown := (List.mem_filter.1 inside).2
      have listed : entry.1 ∈ shapes.map Prod.fst := List.mem_map.2 ⟨_, known, rfl⟩
      rw [List.contains_iff_mem.2 listed] at unknown
      cases unknown
    · cases inside
  have ordinary : name ≠ Members.prototype := named.ordinary (List.mem_map.2 ⟨_, known, rfl⟩)
  rw [← built.1]
  show Members.get? name (Members.assign _) = _
  rw [Members.get?_assign, if_neg ordinary, Members.get?, List.lookup_append, outcome, kept,
    Option.or_none]
  rfl

lemma exists_members {value result : Json}
    (h : (Shape.object shapes keepsUnknown).Yields value result) :
    ∃ members, value = .object members := by
  have checked := h []
  cases value with
  | object members => exact ⟨members, rfl⟩
  | _ => simp [check, Outcome.mismatch, Outcome.refuse, Outcome.accept] at checked

lemma exists_rebuilt {value result : Json}
    (h : (Shape.object shapes keepsUnknown).Yields value result) :
    ∃ rebuilt, result = .object rebuilt := by
  obtain ⟨members, rfl⟩ := exists_members h
  have checked := h []
  simp only [check, gatherMembers, Outcome.accept, Outcome.mk.injEq, Option.some.injEq] at checked
  exact ⟨_, checked.1.symm⟩

/-- A known member of an accepted object passes its own check, which says what it is
rebuilt as. -/
theorem member_rebuilt {value result : Json}
    (h : (Shape.object shapes keepsUnknown).Yields value result)
    (named : WellNamed shapes) (known : (name, shape) ∈ shapes) :
    (check [name] (value.get? name) shape).issues = [] ∧
      result.get? name = (check [name] (value.get? name) shape).value := by
  obtain ⟨members, rfl⟩ := exists_members h
  have clean : (check [] (some (.object members)) (.object shapes keepsUnknown)).issues = [] := by
    rw [h []]
    rfl
  exact ⟨member_issues_eq_nil clean known, get?_rebuilt h named known⟩

lemma given_rebuilt {value result given : Json}
    (h : (Shape.object shapes keepsUnknown).Yields value result)
    (named : WellNamed shapes) (known : (name, shape) ∈ shapes)
    (present : value.get? name = some given) :
    shape.Yields given (shape.rebuild given) ∧
      result.get? name = some (shape.rebuild given) := by
  obtain ⟨clean, made⟩ := member_rebuilt h named known
  rw [present] at clean made
  have passes := yields_rebuild clean
  rw [passes [name]] at made
  exact ⟨passes, made⟩

lemma get?_unknown {value result : Json}
    (h : (Shape.object shapes keepsUnknown).Yields value result)
    (unknown : name ∉ shapes.map Prod.fst) :
    result.get? name =
      if keepsUnknown = true ∧ name ≠ Members.prototype then value.get? name else none := by
  obtain ⟨members, rfl⟩ := exists_members h
  have built := h []
  simp only [check, gatherMembers, Outcome.accept, Outcome.mk.injEq, Option.some.injEq] at built
  have rebuilt : ((checkMembers [] members shapes).filterMap fun entry =>
      entry.2.value.map fun v => (entry.1, v)).lookup name = none := by
    rw [List.lookup_eq_none_iff]
    intro entry inside
    obtain ⟨source, there, made⟩ := List.mem_filterMap.1 inside
    obtain ⟨v, -, rfl⟩ := Option.map_eq_some_iff.1 made
    have listed : source.1 ∈ (checkMembers [] members shapes).map Prod.fst :=
      List.mem_map_of_mem there
    rw [names_checkMembers] at listed
    rw [bne_iff_ne]
    rintro rfl
    exact unknown listed
  rw [← built.1, Json.get?_object, Members.get?_assign, Members.get?, List.lookup_append, rebuilt,
    Option.none_or]
  by_cases ordinary : name = Members.prototype
  · simp [ordinary]
  · cases keepsUnknown with
    | false => simp [ordinary]
    | true =>
      rw [if_pos rfl, Members.lookup_filter_name fun name => !(shapes.map Prod.fst).contains name]
      simp [ordinary, unknown, Members.get?]

end Passing

end Shape
end PropertyGraph

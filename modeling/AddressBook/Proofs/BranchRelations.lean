import AddressBook.Proofs.BranchAnswers

/-!
# Two evaluations, branch by branch

Two evaluations of one filter, whether they differ in the evaluator or in the
mailbox, are compared by what their branches bring.  A relation between results
that combining keeps (`Filter.Test.Keeps`), or one between whole runs
(`Filter.Test.KeepsRuns`), passes from the listings and searches to the
prop-filters and to the filter.
-/

namespace AddressBook

/-- Combining by the test keeps a relation that holds branch by branch. -/
def Filter.Test.Keeps (test : Filter.Test)
    (related : List AddressObject → List AddressObject → Prop) : Prop :=
  ∀ {α : Type} {branches : List α} {f g : α → List AddressObject},
    (∀ branch ∈ branches, related (f branch) (g branch)) →
      related (test.combine (branches.map f)) (test.combine (branches.map g))

/-- Combining keeps a relation between runs, which also looks at what happened
in the branches. -/
def Filter.Test.KeepsRuns (test : Filter.Test)
    (related : Traced Step (List AddressObject) →
      Traced Step (List AddressObject) → Prop) : Prop :=
  ∀ {α : Type} {branches : List α} {f g : α → Traced Step (List AddressObject)},
    (∀ branch ∈ branches, related (f branch) (g branch)) →
      related ((Traced.collect (branches.map f)).map test.combine)
        ((Traced.collect (branches.map g)).map test.combine)

theorem Filter.Test.Keeps.runs {test : Filter.Test}
    {related : List AddressObject → List AddressObject → Prop}
    (hkeeps : test.Keeps related) :
    test.KeepsRuns fun first second => related first.value second.value := by
  intro α branches f g hbranches
  simp only [Traced.value_map, Traced.value_collect, List.map_map]
  exact hkeeps hbranches

/-- With every branch a smaller list, the intersection is smaller as well: it
asks of a contact that every branch brings it. -/
theorem keeps_ids_subset (test : Filter.Test) :
    test.Keeps fun first second =>
      first.map AddressObject.id ⊆ second.map AddressObject.id := by
  intro α branches f g hbranches id hid
  cases test with
  | anyOf =>
      rw [mem_ids_combine_anyOf] at hid ⊢
      obtain ⟨list, hlist, hmem⟩ := hid
      obtain ⟨branch, hbranch, rfl⟩ := List.mem_map.mp hlist
      exact ⟨g branch, List.mem_map_of_mem hbranch,
        hbranches branch hbranch hmem⟩
  | allOf =>
      rw [mem_ids_combine_allOf] at hid ⊢
      obtain ⟨hsome, hall⟩ := hid
      constructor
      · rw [ne_eq, List.map_eq_nil_iff] at hsome ⊢
        exact hsome
      · intro list hlist
        obtain ⟨branch, hbranch, rfl⟩ := List.mem_map.mp hlist
        exact hbranches branch hbranch (hall _ (List.mem_map_of_mem hbranch))

/-- The numbers that a combination brings, found from the numbers that its
branches bring. -/
def Filter.Test.combineIds : Filter.Test → List (List UInt32) → List UInt32
  | anyOf, lists => keepFirst id lists.flatten
  | allOf, [] => []
  | allOf, first :: rest =>
      keepFirst id (first.filter fun k => rest.all fun ids => ids.any (· == k))

theorem ids_combine (test : Filter.Test) (lists : List (List AddressObject)) :
    (test.combine lists).map AddressObject.id =
      test.combineIds (lists.map (·.map AddressObject.id)) := by
  cases test with
  | anyOf =>
      unfold Filter.Test.combine Filter.Test.combineIds
      rw [map_keepFirst, List.map_flatten]
  | allOf =>
      cases lists with
      | nil => rfl
      | cons first rest =>
          -- whether the other branches bring an object is asked of its number
          -- alone
          have hselect : (fun object : AddressObject =>
                rest.all fun list => list.any (·.id == object.id)) =
              (fun k => (rest.map (·.map AddressObject.id)).all fun ids =>
                ids.any (· == k)) ∘
                AddressObject.id := by
            funext object
            simp [List.all_map, List.any_map, Function.comp_def]
          unfold Filter.Test.combine
          rw [map_keepFirst, hselect, ← List.filter_map]
          rfl

theorem keeps_same_ids (test : Filter.Test) :
    test.Keeps fun first second =>
      first.map AddressObject.id = second.map AddressObject.id := by
  intro α branches f g hbranches
  rw [ids_combine, ids_combine, List.map_map, List.map_map]
  congr 1
  apply List.map_congr_left
  intro branch hbranch
  exact hbranches branch hbranch

theorem keeps_eq (test : Filter.Test) : test.Keeps Eq := by
  intro α branches f g hbranches
  rw [List.map_congr_left hbranches]

/-- A combination brings none but objects of its branches, so what holds of all
of those holds of all that it brings. -/
theorem keeps_forall (test : Filter.Test) (good : AddressObject → Prop) :
    test.Keeps fun first _ => ∀ object ∈ first, good object := by
  intro α branches f g hbranches object hobject
  obtain ⟨list, hlist, hmem⟩ := exists_of_mem_combine hobject
  obtain ⟨branch, hbranch, rfl⟩ := List.mem_map.mp hlist
  exact hbranches branch hbranch object hmem

/-! ## The searches of a filter -/

/-- The text-matches that evaluating the prop-filter searches for. -/
def PropFilter.searched (p : PropFilter) : List TextMatch :=
  if p.isNotDefined then []
  else
    match p.textMatch with
    | some t => [t]
    | none => p.paramFilters.filterMap (·.textMatch)

def Filter.searched (filter : Filter) : List TextMatch :=
  filter.propFilters.flatMap (·.searched)

section Searched

variable {p : PropFilter} {t : TextMatch} (hpresence : p.isNotDefined = false)

include hpresence

theorem PropFilter.mem_searched_of_textMatch (htested : p.textMatch = some t) :
    t ∈ p.searched := by
  unfold searched
  rw [hpresence, htested]
  exact List.mem_singleton_self t

theorem PropFilter.mem_searched_of_param (htested : p.textMatch = none)
    {param : ParamFilter} (hparam : param ∈ p.paramFilters)
    (hsearched : param.textMatch = some t) : t ∈ p.searched := by
  unfold searched
  rw [hpresence, htested]
  exact List.mem_filterMap.mpr ⟨param, hparam, hsearched⟩

end Searched

namespace Evaluator

/-- Whatever evaluates it, a prop-filter that has no param-filters to join
either lists or makes one search. -/
theorem evaluateProp_single {p : PropFilter}
    (hsingle : p.isNotDefined = true ∨ p.textMatch.isSome = true) :
    (∀ (evaluator : Evaluator) (context : RequestContext) (folder : UInt32),
      evaluator.evaluateProp p context folder =
        evaluator.missing p.name context folder) ∨
    ∃ t, ∀ (evaluator : Evaluator) (context : RequestContext) (folder : UInt32),
      evaluator.evaluateProp p context folder =
        evaluator.search t context folder := by
  cases hpresence : p.isNotDefined with
  | true =>
      left
      intro evaluator context folder
      exact evaluator.evaluateProp_of_absence context folder hpresence
  | false =>
      right
      rw [hpresence] at hsingle
      obtain ⟨t, htested⟩ :=
        Option.isSome_iff_exists.mp (hsingle.resolve_left Bool.false_ne_true)
      use t
      intro evaluator context folder
      exact evaluator.evaluateProp_of_textMatch context folder hpresence htested

section Related

variable {first second : Evaluator} {context other : RequestContext}
  {folder : UInt32}
  {relatedRuns : Traced Step (List AddressObject) →
    Traced Step (List AddressObject) → Prop}
  {related : List AddressObject → List AddressObject → Prop}

theorem evaluateParam_relatedRuns {p : ParamFilter}
    (hempty : relatedRuns ⟨[], []⟩ ⟨[], []⟩)
    (hsearch : ∀ t, p.textMatch = some t →
      relatedRuns (first.search t context folder)
        (second.search t other folder)) :
    relatedRuns (first.evaluateParam p context folder)
      (second.evaluateParam p other folder) := by
  unfold evaluateParam
  cases htested : p.textMatch with
  | none => exact hempty
  | some t => exact hsearch t htested

theorem evaluateProp_relatedRuns {p : PropFilter}
    (hkeeps : Filter.Test.anyOf.KeepsRuns relatedRuns)
    (hmissing : relatedRuns (first.missing p.name context folder)
      (second.missing p.name other folder))
    (hsearch : ∀ t ∈ p.searched,
      relatedRuns (first.search t context folder)
        (second.search t other folder)) :
    relatedRuns (first.evaluateProp p context folder)
      (second.evaluateProp p other folder) := by
  cases hpresence : p.isNotDefined with
  | true =>
      rw [evaluateProp_of_absence _ _ _ hpresence,
        evaluateProp_of_absence _ _ _ hpresence]
      exact hmissing
  | false =>
      cases htested : p.textMatch with
      | some t =>
          rw [evaluateProp_of_textMatch _ _ _ hpresence htested,
            evaluateProp_of_textMatch _ _ _ hpresence htested]
          exact hsearch t
            (PropFilter.mem_searched_of_textMatch hpresence htested)
      | none =>
          -- no branches are combined to nothing, so the relation holds of it
          have hempty : relatedRuns ⟨[], []⟩ ⟨[], []⟩ :=
            @hkeeps Unit [] (fun _ => ⟨[], []⟩) (fun _ => ⟨[], []⟩) nofun
          rw [evaluateProp_of_params _ _ _ hpresence htested,
            evaluateProp_of_params _ _ _ hpresence htested]
          apply hkeeps
          intro param hparam
          apply evaluateParam_relatedRuns hempty
          intro t hsearched
          exact hsearch t
            (PropFilter.mem_searched_of_param hpresence htested hparam
              hsearched)

theorem evaluate_relatedRuns {filter : Filter}
    (hkeeps : ∀ test : Filter.Test, test.KeepsRuns relatedRuns)
    (hmissing : ∀ property, relatedRuns (first.missing property context folder)
      (second.missing property other folder))
    (hsearch : ∀ t ∈ filter.searched,
      relatedRuns (first.search t context folder)
        (second.search t other folder)) :
    relatedRuns (first.evaluate filter context folder)
      (second.evaluate filter other folder) := by
  unfold evaluate
  apply hkeeps
  intro p hp
  apply evaluateProp_relatedRuns (hkeeps .anyOf) (hmissing p.name)
  intro t ht
  exact hsearch t (List.mem_flatMap_of_mem hp ht)

theorem evaluate_related (hkeeps : ∀ test : Filter.Test, test.Keeps related)
    (hmissing : ∀ property,
      related (first.missing property context folder).value
        (second.missing property other folder).value)
    (hsearch : ∀ t, related (first.search t context folder).value
      (second.search t other folder).value) (filter : Filter) :
    related (first.evaluate filter context folder).value
      (second.evaluate filter other folder).value := by
  have hkeepsRuns : ∀ test : Filter.Test,
      test.KeepsRuns fun first second => related first.value second.value := by
    intro test
    exact @Filter.Test.Keeps.runs test related (hkeeps test)
  apply evaluate_relatedRuns hkeepsRuns hmissing
  intro t _
  exact hsearch t

/-- Under two contexts a filter brings the same when the listings and its own
searches do. -/
theorem evaluate_congr {evaluator : Evaluator} {filter : Filter}
    (hmissing : ∀ property, (evaluator.missing property context folder).value =
      (evaluator.missing property other folder).value)
    (hsearch : ∀ t ∈ filter.searched,
      (evaluator.search t context folder).value =
        (evaluator.search t other folder).value) :
    (evaluator.evaluate filter context folder).value =
      (evaluator.evaluate filter other folder).value := by
  have hkeepsRuns : ∀ test : Filter.Test,
      test.KeepsRuns fun first second => first.value = second.value := by
    intro test
    exact @Filter.Test.Keeps.runs test Eq (keeps_eq test)
  exact evaluate_relatedRuns hkeepsRuns hmissing hsearch

end Related

/-- Two searches for one text-match in mailboxes in memory are related when
their hits are, whatever its query is, and when nothing is related to nothing,
as it may have none. -/
theorem search_related_inMemory {first second : Evaluator}
    {contacts others : List Contact} {user : String} {folder : UInt32}
    (related : List AddressObject → List AddressObject → Prop)
    (htable : first.table = second.table) (hempty : related [] [])
    (hfound : ∀ query, related
      (((InMemory.found contacts (first.searchRequest ⟨user⟩ query)).filter
        (·.folder == folder)).map .mk)
      (((InMemory.found others (second.searchRequest ⟨user⟩ query)).filter
        (·.folder == folder)).map .mk)) (t : TextMatch) :
    related
      (first.search t ⟨user, some (InMemory.mailbox contacts)⟩ folder).value
      (second.search t ⟨user, some (InMemory.mailbox others)⟩
        folder).value := by
  cases hquery : first.table.compileTextMatch t with
  | none =>
      rw [search_of_unmapped hquery, search_of_unmapped (htable ▸ hquery)]
      exact hempty
  | some query =>
      rw [value_search_inMemory hquery, value_search_inMemory (htable ▸ hquery)]
      exact hfound query

theorem forall_mem_evaluate {evaluator : Evaluator} {context : RequestContext}
    {folder : UInt32} {good : AddressObject → Prop}
    (hmissing :
      ∀ property, ∀ object ∈ (evaluator.missing property context folder).value,
        good object)
    (hsearch :
      ∀ t, ∀ object ∈ (evaluator.search t context folder).value, good object)
    (filter : Filter) :
    ∀ object ∈ (evaluator.evaluate filter context folder).value,
      good object := by
  have hkeeps : ∀ test : Filter.Test,
      test.Keeps fun first _ => ∀ object ∈ first, good object := by
    intro test
    exact @keeps_forall test good
  exact @evaluate_related evaluator evaluator context context folder _ hkeeps
    hmissing hsearch filter

end Evaluator
end AddressBook

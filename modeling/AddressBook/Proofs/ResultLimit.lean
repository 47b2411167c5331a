import AddressBook.Proofs.BranchRelations
import AddressBook.Proofs.FolderIsolation

/-!
# The limit of results

A sorted mailbox is cut only after it has been sorted, so what a search or a
listing brings under a lower limit is the beginning of what it brings under a
higher one.  A combination of beginnings need not be a beginning of the
combination, as contacts of one branch may come between those of another, but it
holds none but contacts of it.
-/

namespace AddressBook

namespace InMemory

variable (contacts : List Contact) (request : SearchRequest)

theorem length_found_le : (found contacts request).length ≤ request.limit := by
  rw [found_eq_take, List.length_take]
  omega

theorem found_prefix_of_le {lower higher : Nat} (hle : lower ≤ higher) :
    found contacts { request with limit := lower } <+:
      found contacts { request with limit := higher } := by
  rw [found_eq_take, found_eq_take]
  exact List.take_prefix_take_left hle

end InMemory

namespace Evaluator

def withLimit (evaluator : Evaluator) (limit : Nat) : Evaluator :=
  { evaluator with config := { evaluator.config with maxResults := limit } }

section Limits

variable {evaluator : Evaluator} {contacts : List Contact} {user : String}
  {folder : UInt32} {lower higher : Nat}

/-- Hits that stand in order already are cut as they are. -/
theorem value_search_of_sorted (evaluator : Evaluator) {t : TextMatch}
    {query : Query} {hits : List Contact}
    (hquery : evaluator.table.compileTextMatch t = some query)
    (hhits :
      InMemory.answering contacts evaluator.config.targetTypes query = hits)
    (hsorted :
      hits.Pairwise fun a b => evaluator.config.sort.allows a b = true) :
    (evaluator.search t ⟨user, some (InMemory.mailbox contacts)⟩ folder).value =
      ((hits.take evaluator.config.maxResults).filter (·.folder == folder)).map
        .mk := by
  rw [value_search_inMemory hquery, InMemory.found_eq_take]
  unfold searchRequest
  simp only [hhits, SortOrder.sort_of_sorted hsorted]

theorem length_search_le (t : TextMatch) :
    (evaluator.search t ⟨user, some (InMemory.mailbox contacts)⟩
        folder).value.length ≤
      evaluator.config.maxResults := by
  cases hquery : evaluator.table.compileTextMatch t with
  | none =>
      rw [search_of_unmapped hquery]
      exact Nat.zero_le _
  | some query =>
      rw [value_search_inMemory hquery, List.length_map]
      exact Nat.le_trans (List.length_filter_le _ _)
        (InMemory.length_found_le _ _)

theorem length_missing_le (property : String) :
    (evaluator.missing property ⟨user, some (InMemory.mailbox contacts)⟩
        folder).value.length ≤
      evaluator.config.maxResults := by
  rw [value_missing_inMemory, List.length_map, List.length_take]
  omega

theorem search_prefix_of_le (hle : lower ≤ higher) (t : TextMatch) :
    ((evaluator.withLimit lower).search t
        ⟨user, some (InMemory.mailbox contacts)⟩ folder).value <+:
      ((evaluator.withLimit higher).search t
        ⟨user, some (InMemory.mailbox contacts)⟩ folder).value := by
  have htable :
      (evaluator.withLimit lower).table = (evaluator.withLimit higher).table :=
    rfl
  apply search_related_inMemory List.IsPrefix htable List.nil_prefix
  intro query
  have hfound :=
    InMemory.found_prefix_of_le contacts (evaluator.searchRequest ⟨user⟩ query)
      hle
  exact (hfound.filter _).map _

theorem missing_prefix_of_le (hle : lower ≤ higher) (property : String) :
    ((evaluator.withLimit lower).missing property
        ⟨user, some (InMemory.mailbox contacts)⟩ folder).value <+:
      ((evaluator.withLimit higher).missing property
        ⟨user, some (InMemory.mailbox contacts)⟩ folder).value := by
  rw [value_missing_inMemory, value_missing_inMemory]
  exact (List.take_prefix_take_left hle).map _

/-- A prop-filter that lists or searches by itself brings no more than the
limit, and under a lower limit the beginning of what it brings under a higher
one. -/
theorem evaluateProp_within_limit (hle : lower ≤ higher) {p : PropFilter}
    (hsingle : p.isNotDefined = true ∨ p.textMatch.isSome = true) :
    ((evaluator.withLimit lower).evaluateProp p
        ⟨user, some (InMemory.mailbox contacts)⟩ folder).value.length ≤ lower ∧
      ((evaluator.withLimit lower).evaluateProp p
        ⟨user, some (InMemory.mailbox contacts)⟩ folder).value <+:
      ((evaluator.withLimit higher).evaluateProp p
        ⟨user, some (InMemory.mailbox contacts)⟩ folder).value := by
  rcases evaluateProp_single hsingle with hlists | ⟨t, hsearches⟩
  · rw [hlists, hlists]
    exact ⟨length_missing_le p.name, missing_prefix_of_le hle p.name⟩
  · rw [hsearches, hsearches]
    exact ⟨length_search_le t, search_prefix_of_le hle t⟩

end Limits

end Evaluator

/-- A higher limit of results loses no contact that a filter finds under a lower
one, and what a prop-filter lists or searches under the lower limit is within it
and the beginning of what it brings under the higher one. -/
theorem evaluate_keeps_under_higher_limit (evaluator : Evaluator)
    (contacts : List Contact) (user : String) (folder : UInt32)
    {lower higher : Nat} (hle : lower ≤ higher) :
    (∀ filter : Filter,
      ((evaluator.withLimit lower).evaluate filter
          ⟨user, some (InMemory.mailbox contacts)⟩ folder).value.map
            AddressObject.id ⊆
        ((evaluator.withLimit higher).evaluate filter
          ⟨user, some (InMemory.mailbox contacts)⟩ folder).value.map
            AddressObject.id) ∧
    (∀ p : PropFilter, p.isNotDefined = true ∨ p.textMatch.isSome = true →
      ((evaluator.withLimit lower).evaluateProp p
          ⟨user, some (InMemory.mailbox contacts)⟩ folder).value.length ≤
            lower ∧
        ((evaluator.withLimit lower).evaluateProp p
          ⟨user, some (InMemory.mailbox contacts)⟩ folder).value <+:
        ((evaluator.withLimit higher).evaluateProp p
          ⟨user, some (InMemory.mailbox contacts)⟩ folder).value) := by
  constructor
  · intro filter
    apply Evaluator.evaluate_related keeps_ids_subset
    · intro property
      exact List.map_subset _
        (Evaluator.missing_prefix_of_le hle property).subset
    · intro t
      exact List.map_subset _ (Evaluator.search_prefix_of_le hle t).subset
  · intro p hsingle
    exact Evaluator.evaluateProp_within_limit hle hsingle

def cara : Contact :=
  (Contact.ofId 3 7).set "fullName" "Cara"

def dean : Contact :=
  (Contact.ofId 4 7).set "fullName" "Dean"

def holdsA : PropFilter :=
  ⟨"FN", false, some (.ofPattern "FN" "a" false), []⟩

/-- A limit of one brings Cara alone, and a limit of two still brings her, and
first. -/
theorem cara_kept_beside_dean :
    1 ≤ 2 ∧
    ((Evaluator.mk .cardDav (atMost 1)).evaluateProp holdsA
        ⟨"user", some (InMemory.mailbox [cara, dean])⟩ 7).value = [.mk cara] ∧
    [.mk cara] <+: ((Evaluator.mk .cardDav (atMost 2)).evaluateProp holdsA
        ⟨"user", some (InMemory.mailbox [cara, dean])⟩ 7).value ∧
    3 ∈ ((Evaluator.mk .cardDav (atMost 2)).evaluate ⟨.allOf, [holdsA]⟩
        ⟨"user", some (InMemory.mailbox [cara, dean])⟩ 7).value.map
          AddressObject.id := by
  have hquery :
      PropertyTable.cardDav.compileTextMatch (.ofPattern "FN" "a" false) =
        some ⟨false, [⟨"fullName", "a"⟩]⟩ := by
    decide +kernel
  have hhits :
      InMemory.answering [cara, dean] [.contact] ⟨false, [⟨"fullName", "a"⟩]⟩ =
        [cara, dean] := by
    decide +kernel
  have hsorted :
      [cara, dean].Pairwise fun a b =>
        SortOrder.nameAscending.allows a b = true := by
    decide +kernel
  have hlower : ((Evaluator.mk .cardDav (atMost 1)).evaluateProp holdsA
      ⟨"user", some (InMemory.mailbox [cara, dean])⟩ 7).value = [.mk cara] := by
    rw [Evaluator.evaluateProp_of_textMatch _ _ _ rfl rfl,
      Evaluator.value_search_of_sorted ⟨.cardDav, atMost 1⟩ hquery hhits
        hsorted]
    decide
  have hids : ((Evaluator.mk .cardDav (atMost 1)).evaluate ⟨.allOf, [holdsA]⟩
      ⟨"user", some (InMemory.mailbox [cara, dean])⟩ 7).value.map
        AddressObject.id = [3] := by
    rw [Evaluator.value_evaluate, List.map_singleton, hlower]
    decide
  obtain ⟨hkept, hbeginning⟩ :=
    evaluate_keeps_under_higher_limit ⟨.cardDav, atMost 1⟩
      [cara, dean] "user" 7 (show 1 ≤ 2 by decide)
  have hfirst := (hbeginning holdsA (.inr rfl)).2
  exact ⟨by decide, hlower, hlower ▸ hfirst,
    hkept ⟨.allOf, [holdsA]⟩ (hids ▸ by decide)⟩

end AddressBook

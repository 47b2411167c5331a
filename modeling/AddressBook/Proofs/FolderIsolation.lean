import AddressBook.Proofs.BranchRelations
import AddressBook.Property.CardDav

/-!
# Folders beside one another

An evaluation for one folder never brings a contact of another.  A listing does
not depend on the other folders at all, but a search is cut at the limit before
its hits are confined to the folder: what is left is a beginning of the folder's
own answer (`Evaluator.ownAnswer`), and all of it as long as the hits of the
whole mailbox are within the limit.
-/

namespace AddressBook

/-! ## A search and the folder's own answer -/

namespace InMemory

/-- The contacts that answer a search, before they are sorted and cut. -/
def answering (contacts : List Contact) (types : List ItemType)
    (query : Query) : List Contact :=
  if .contact ∈ types then contacts.filter (·.satisfies query) else []

variable {contacts : List Contact} {request : SearchRequest}
  (keep : Contact → Bool)

theorem answering_sublist (types : List ItemType) (query : Query) :
    (answering contacts types query).Sublist contacts := by
  unfold answering
  split
  · exact List.filter_sublist
  · exact List.nil_sublist _

theorem answering_filter (types : List ItemType) (query : Query) :
    (answering contacts types query).filter keep =
      answering (contacts.filter keep) types query := by
  unfold answering
  split
  · rw [List.filter_filter, List.filter_filter]
    simp only [Bool.and_comm]
  · rfl

theorem found_eq_take :
    found contacts request =
      (request.sort.sort (answering contacts request.types request.query)).take
        request.limit :=
  rfl

/-- Of the hits within the limit, those that pass a test are the first of those
that would have been found among the contacts that pass it. -/
theorem found_filter_prefix :
    (found contacts request).filter keep <+:
      request.sort.sort
        (answering (contacts.filter keep) request.types request.query) := by
  rw [found_eq_take, ← answering_filter, ← SortOrder.sort_filter]
  exact (List.take_prefix _ _).filter keep

theorem found_filter_of_room
    (hroom :
      (answering contacts request.types request.query).length ≤ request.limit) :
    (found contacts request).filter keep =
      request.sort.sort
        (answering (contacts.filter keep) request.types request.query) := by
  rw [found_eq_take, List.take_of_length_le, SortOrder.sort_filter,
    answering_filter]
  rw [SortOrder.length_sort]
  exact hroom

end InMemory

namespace Evaluator

variable {evaluator : Evaluator} {contacts others : List Contact}
  {user : String} {folder : UInt32}

/-- What contacts that were alone in a mailbox without a limit would answer to a
text-match. -/
def ownAnswer (evaluator : Evaluator) (members : List Contact) (t : TextMatch) :
    List AddressObject :=
  match evaluator.table.compileTextMatch t with
  | none => []
  | some query =>
    (evaluator.config.sort.sort
      (InMemory.answering members evaluator.config.targetTypes query)).map .mk

/-- The hits of a text-match in the whole mailbox are no more than a search may
bring. -/
def FitsLimit (evaluator : Evaluator) (contacts : List Contact)
    (t : TextMatch) : Prop :=
  ∀ query ∈ evaluator.table.compileTextMatch t,
    (InMemory.answering contacts evaluator.config.targetTypes query).length ≤
      evaluator.config.maxResults

instance (t : TextMatch) : Decidable (evaluator.FitsLimit contacts t) :=
  inferInstanceAs (Decidable (∀ query ∈ evaluator.table.compileTextMatch t,
    (InMemory.answering contacts evaluator.config.targetTypes query).length ≤
      evaluator.config.maxResults))

/-- Hits of other folders can only take away the end of what the folder
answers. -/
theorem search_prefix_ownAnswer (t : TextMatch) :
    (evaluator.search t ⟨user, some (InMemory.mailbox contacts)⟩
        folder).value <+:
      evaluator.ownAnswer (contacts.filter (·.folder == folder)) t := by
  unfold ownAnswer
  cases hquery : evaluator.table.compileTextMatch t with
  | none =>
      simp only [search_of_unmapped hquery, List.nil_prefix]
  | some query =>
      rw [value_search_inMemory hquery]
      exact (InMemory.found_filter_prefix _).map _

theorem search_eq_ownAnswer {t : TextMatch}
    (hfits : evaluator.FitsLimit contacts t) :
    (evaluator.search t ⟨user, some (InMemory.mailbox contacts)⟩ folder).value =
      evaluator.ownAnswer (contacts.filter (·.folder == folder)) t := by
  unfold ownAnswer
  cases hquery : evaluator.table.compileTextMatch t with
  | none => rw [search_of_unmapped hquery]
  | some query =>
      have hroom := hfits query hquery
      rw [value_search_inMemory hquery, InMemory.found_filter_of_room]
      · rfl
      · exact hroom

/-- A listing sees nothing but the folder. -/
theorem missing_eq_of_same_folder
    (hsame :
      contacts.filter (·.folder == folder) = others.filter (·.folder == folder))
    (property : String) :
    (evaluator.missing property ⟨user, some (InMemory.mailbox contacts)⟩
        folder).value =
      (evaluator.missing property ⟨user, some (InMemory.mailbox others)⟩
        folder).value := by
  rw [value_missing_inMemory, value_missing_inMemory]
  unfold InMemory.folder
  rw [hsame]

/-! ## No contact of another folder -/

section Confined

variable {evaluator : Evaluator} {contacts : List Contact} {user : String}
  {folder : UInt32} {object : AddressObject}

theorem confined_of_mem_search {t : TextMatch}
    (hobject : object ∈
      (evaluator.search t ⟨user, some (InMemory.mailbox contacts)⟩
        folder).value) :
    object.contact ∈ contacts ∧ object.contact.folder = folder := by
  cases hquery : evaluator.table.compileTextMatch t with
  | none =>
      rw [search_of_unmapped hquery] at hobject
      cases hobject
  | some query =>
      obtain ⟨hstored, hinside, -⟩ := of_mem_search hquery hobject
      exact ⟨hstored, hinside⟩

theorem confined_of_mem_evaluate {filter : Filter}
    (hobject : object ∈
      (evaluator.evaluate filter ⟨user, some (InMemory.mailbox contacts)⟩
        folder).value) :
    object.contact ∈ contacts ∧ object.contact.folder = folder := by
  apply forall_mem_evaluate ?_ ?_ filter object hobject
  · intro property listed hlisted
    obtain ⟨hstored, hinside, -⟩ := of_mem_missing hlisted
    exact ⟨hstored, hinside⟩
  · intro t hit hhit
    exact confined_of_mem_search hhit

end Confined

end Evaluator

/-! ## Two mailboxes that agree on a folder -/

/-- Contacts of other folders never appear in what a filter brings for a folder,
and a listing does not depend on them.  A text-match brings a beginning of the
folder's own answer, so other folders can displace only its end, and they
displace nothing of an evaluation whose searches all stay within the limit: it
brings the same over any two mailboxes with the same contacts of the folder. -/
theorem evaluate_isolated_within_limit (evaluator : Evaluator)
    (contacts others : List Contact) (user : String) (folder : UInt32)
    (hsame :
      contacts.filter (·.folder == folder) =
        others.filter (·.folder == folder)) :
    (∀ filter : Filter, ∀ object ∈
        (evaluator.evaluate filter ⟨user, some (InMemory.mailbox contacts)⟩
          folder).value,
      object.contact ∈ contacts ∧ object.contact.folder = folder) ∧
    (∀ p : PropFilter, p.isNotDefined = true →
      (evaluator.evaluateProp p ⟨user, some (InMemory.mailbox contacts)⟩
          folder).value =
        (evaluator.evaluateProp p ⟨user, some (InMemory.mailbox others)⟩
          folder).value) ∧
    (∀ t : TextMatch,
      (evaluator.search t ⟨user, some (InMemory.mailbox contacts)⟩
          folder).value <+:
        evaluator.ownAnswer (contacts.filter (·.folder == folder)) t ∧
      (evaluator.search t ⟨user, some (InMemory.mailbox others)⟩
          folder).value <+:
        evaluator.ownAnswer (contacts.filter (·.folder == folder)) t) ∧
    (∀ filter : Filter,
      (∀ t ∈ filter.searched, evaluator.FitsLimit contacts t) →
      (∀ t ∈ filter.searched, evaluator.FitsLimit others t) →
      (evaluator.evaluate filter ⟨user, some (InMemory.mailbox contacts)⟩
          folder).value =
        (evaluator.evaluate filter ⟨user, some (InMemory.mailbox others)⟩
          folder).value) := by
  refine ⟨?_, ?_, ?_, ?_⟩
  · intro filter object hobject
    exact Evaluator.confined_of_mem_evaluate hobject
  · intro p habsence
    rw [Evaluator.evaluateProp_of_absence _ _ _ habsence,
      Evaluator.evaluateProp_of_absence _ _ _ habsence]
    exact Evaluator.missing_eq_of_same_folder hsame p.name
  · intro t
    constructor
    · exact Evaluator.search_prefix_ownAnswer t
    · rw [hsame]
      exact Evaluator.search_prefix_ownAnswer t
  · intro filter hfits hothersFit
    apply Evaluator.evaluate_congr
    · exact Evaluator.missing_eq_of_same_folder hsame
    · intro t ht
      rw [Evaluator.search_eq_ownAnswer (hfits t ht),
        Evaluator.search_eq_ownAnswer (hothersFit t ht), hsame]

def aaron : Contact :=
  (Contact.ofId 1 8).set "fullName" "Aaron"

def bea : Contact :=
  (Contact.ofId 2 7).set "fullName" "Bea"

def nameWithA : Filter where
  test := .anyOf
  propFilters := [⟨"FN", false, some (.ofPattern "FN" "a" false), []⟩]

def atMost (limit : Nat) : Config := ⟨limit, .nameAscending, [.contact]⟩

/-- A folder is not on its own where a search runs over its limit: if one hit is
all that it may bring, Aaron of another folder takes the place of Bea. -/
theorem aaron_displaces_bea :
    (atMost 1).fault? = none ∧
      [aaron, bea].filter (·.folder == 7) = [bea].filter (·.folder == 7) ∧
      ((Evaluator.mk .cardDav (atMost 1)).evaluate nameWithA
        ⟨"user", some (InMemory.mailbox [aaron, bea])⟩ 7).value = [] ∧
      ((Evaluator.mk .cardDav (atMost 1)).evaluate nameWithA
        ⟨"user", some (InMemory.mailbox [bea])⟩ 7).value = [.mk bea] := by
  refine ⟨rfl, by decide, ?_, by decide +kernel⟩
  have hquery :
      PropertyTable.cardDav.compileTextMatch (.ofPattern "FN" "a" false) =
        some ⟨false, [⟨"fullName", "a"⟩]⟩ := by
    decide +kernel
  have hanswering :
      InMemory.answering [aaron, bea] [.contact] ⟨false, [⟨"fullName", "a"⟩]⟩ =
        [aaron, bea] := by
    decide +kernel
  have hsorted : SortOrder.nameAscending.sort [aaron, bea] = [aaron, bea] :=
    SortOrder.sort_of_sorted (by decide +kernel)
  rw [Evaluator.value_evaluate]
  unfold nameWithA
  rw [List.map_singleton, Evaluator.evaluateProp_of_textMatch _ _ _ rfl rfl,
    Evaluator.value_search_inMemory hquery, InMemory.found_eq_take]
  unfold Evaluator.searchRequest atMost
  simp only [hanswering, hsorted]
  rfl

/-- With room for both hits, Bea is found beside Aaron as she is without him. -/
theorem bea_isolated_from_aaron :
    (∀ t ∈ nameWithA.searched,
      (Evaluator.mk .cardDav (atMost 2)).FitsLimit [aaron, bea] t) ∧
    ((Evaluator.mk .cardDav (atMost 2)).evaluate nameWithA
        ⟨"user", some (InMemory.mailbox [aaron, bea])⟩ 7).value = [.mk bea] ∧
    ((Evaluator.mk .cardDav (atMost 2)).evaluateProp ⟨"EMAIL", true, none, []⟩
        ⟨"user", some (InMemory.mailbox [aaron, bea])⟩ 7).value =
          [.mk bea] := by
  have hfits : ∀ t ∈ nameWithA.searched,
      (Evaluator.mk .cardDav (atMost 2)).FitsLimit [aaron, bea] t := by
    decide +kernel
  have halone : ((Evaluator.mk .cardDav (atMost 2)).evaluate nameWithA
      ⟨"user", some (InMemory.mailbox [bea])⟩ 7).value = [.mk bea] := by
    decide +kernel
  have hlacks :
      ((Evaluator.mk .cardDav (atMost 2)).evaluateProp ⟨"EMAIL", true, none, []⟩
        ⟨"user", some (InMemory.mailbox [bea])⟩ 7).value = [.mk bea] := by
    decide +kernel
  obtain ⟨-, habsence, -, hsame⟩ :=
    evaluate_isolated_within_limit ⟨.cardDav, atMost 2⟩
      [aaron, bea] [bea] "user" 7 (by decide)
  have hfound := hsame nameWithA hfits (by decide +kernel)
  exact ⟨hfits, hfound.trans halone, (habsence _ rfl).trans hlacks⟩

end AddressBook

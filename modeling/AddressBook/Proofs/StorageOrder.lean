import AddressBook.Proofs.ResultLimit
import Mathlib.Data.List.Nodup

/-!
# The order of storage

An in-memory mailbox with an order reads nothing but its sorted list: a search
and a listing choose from it in turn (`InMemory.sort_answering`,
`InMemory.folder_eq_filter`).  Among contacts with numbers of their own the
order has no ties, so this list is the same for all ways in which the contacts
may be stored (`SortOrder.sort_eq_of_perm`).
-/

namespace AddressBook

namespace Contact

variable {a b : Contact}

/-- The first contact stands before the second one in ascending order, whatever
is stored first. -/
def Precedes (a b : Contact) : Prop :=
  a.sortName < b.sortName ∨ a.sortName = b.sortName ∧ a.id < b.id

theorem precedes_of_le (hle : a.le b = true) (hids : a.id ≠ b.id) :
    a.Precedes b := by
  rcases le_iff.mp hle with hname | ⟨hname, hid⟩
  · exact .inl hname
  · exact .inr ⟨hname, UInt32.lt_of_le_of_ne hid hids⟩

theorem id_eq_of_le_of_le (hle : a.le b = true) (hge : b.le a = true) :
    a.id = b.id := by
  rcases le_iff.mp hle with hbefore | ⟨hname, hid⟩
  · rcases le_iff.mp hge with hafter | ⟨hname, -⟩
    · exact absurd hafter (String.lt_asymm hbefore)
    · exact absurd (hname ▸ hbefore) (String.lt_irrefl _)
  · rcases le_iff.mp hge with hafter | ⟨-, hidGe⟩
    · exact absurd (hname ▸ hafter) (String.lt_irrefl _)
    · exact UInt32.le_antisymm hid hidGe

end Contact

namespace SortOrder

variable {order : SortOrder} {contacts others : List Contact}

def Strictly : SortOrder → Contact → Contact → Prop
  | nameAscending, a, b => a.Precedes b
  | nameDescending, a, b => b.Precedes a
  | unsorted, _, _ => False

theorem id_eq_of_allows {a b : Contact} (hordered : order ≠ .unsorted)
    (hab : order.allows a b = true) (hba : order.allows b a = true) :
    a.id = b.id := by
  cases order with
  | nameAscending => exact Contact.id_eq_of_le_of_le hab hba
  | nameDescending => exact Contact.id_eq_of_le_of_le hba hab
  | unsorted => exact absurd rfl hordered

theorem strictly_of_allows {a b : Contact} (hordered : order ≠ .unsorted)
    (hallows : order.allows a b = true) (hids : a.id ≠ b.id) :
    order.Strictly a b := by
  cases order with
  | nameAscending => exact Contact.precedes_of_le hallows hids
  | nameDescending => exact Contact.precedes_of_le hallows hids.symm
  | unsorted => exact absurd rfl hordered

theorem sort_eq_of_perm (hordered : order ≠ .unsorted)
    (hdistinct : (contacts.map Contact.id).Nodup)
    (hperm : contacts.Perm others) :
    order.sort contacts = order.sort others := by
  have hsorted : (order.sort contacts).Perm (order.sort others) :=
    (order.sort_perm contacts).trans (hperm.trans (order.sort_perm others).symm)
  apply hsorted.eq_of_pairwise ?_ (order.sort_sorted contacts)
    (order.sort_sorted others)
  intro a b ha hb hab hba
  -- in the order two contacts agree when their numbers do, and a number picks
  -- out a stored contact
  have haStored : a ∈ contacts := (order.sort_perm contacts).mem_iff.mp ha
  have hbStored : b ∈ contacts :=
    hperm.mem_iff.mpr ((order.sort_perm others).mem_iff.mp hb)
  exact List.inj_on_of_nodup_map hdistinct haStored hbStored
    (id_eq_of_allows hordered hab hba)

theorem ids_sort_nodup (order : SortOrder)
    (hdistinct : (contacts.map Contact.id).Nodup) :
    ((order.sort contacts).map Contact.id).Nodup :=
  ((order.sort_perm contacts).map Contact.id).nodup_iff.mpr hdistinct

theorem sort_strictly (hordered : order ≠ .unsorted)
    (hdistinct : (contacts.map Contact.id).Nodup) :
    (order.sort contacts).Pairwise order.Strictly := by
  have hids : (order.sort contacts).Pairwise fun a b => a.id ≠ b.id := by
    rw [← List.pairwise_map]
    exact order.ids_sort_nodup hdistinct
  exact (order.sort_sorted contacts).imp₂
    (fun _ _ => strictly_of_allows hordered) hids

end SortOrder

namespace InMemory

variable {contacts others : List Contact}

theorem sort_answering (order : SortOrder) (types : List ItemType)
    (query : Query) :
    order.sort (answering contacts types query) =
      answering (order.sort contacts) types query := by
  unfold answering
  split
  · exact (order.sort_filter _ contacts).symm
  · exact SortOrder.sort_of_sorted .nil

theorem folder_eq_filter (id : UInt32) (order : SortOrder) :
    folder contacts id order = (order.sort contacts).filter (·.folder == id) :=
  (order.sort_filter _ contacts).symm

theorem found_eq_of_sort {request : SearchRequest}
    (hsame : request.sort.sort contacts = request.sort.sort others) :
    found contacts request = found others request := by
  rw [found_eq_take, found_eq_take, sort_answering, sort_answering, hsame]

theorem found_sublist (request : SearchRequest) :
    (found contacts request).Sublist (request.sort.sort contacts) := by
  rw [found_eq_take, sort_answering]
  exact (List.take_sublist _ _).trans (answering_sublist _ _)

end InMemory

namespace Evaluator

variable {evaluator : Evaluator} {contacts others : List Contact}
  {user : String} {folder : UInt32}

theorem search_eq_of_sort
    (hsame :
      evaluator.config.sort.sort contacts = evaluator.config.sort.sort others)
    (t : TextMatch) :
    (evaluator.search t ⟨user, some (InMemory.mailbox contacts)⟩ folder).value =
      (evaluator.search t ⟨user, some (InMemory.mailbox others)⟩
        folder).value := by
  apply search_related_inMemory Eq rfl rfl
  intro query
  rw [InMemory.found_eq_of_sort hsame]

theorem missing_eq_of_sort
    (hsame :
      evaluator.config.sort.sort contacts = evaluator.config.sort.sort others)
    (property : String) :
    (evaluator.missing property ⟨user, some (InMemory.mailbox contacts)⟩
        folder).value =
      (evaluator.missing property ⟨user, some (InMemory.mailbox others)⟩
        folder).value := by
  rw [value_missing_inMemory, value_missing_inMemory, InMemory.folder_eq_filter,
    InMemory.folder_eq_filter, hsame]

theorem search_sublist (t : TextMatch) :
    (evaluator.search t ⟨user, some (InMemory.mailbox contacts)⟩
      folder).value.Sublist
      ((evaluator.config.sort.sort contacts).map .mk) := by
  cases hquery : evaluator.table.compileTextMatch t with
  | none =>
      rw [search_of_unmapped hquery]
      exact List.nil_sublist _
  | some query =>
      rw [value_search_inMemory hquery]
      exact (List.filter_sublist.trans (InMemory.found_sublist _)).map _

theorem missing_sublist (property : String) :
    (evaluator.missing property ⟨user, some (InMemory.mailbox contacts)⟩
      folder).value.Sublist
      ((evaluator.config.sort.sort contacts).map .mk) := by
  rw [value_missing_inMemory, InMemory.folder_eq_filter]
  exact ((List.take_sublist _ _).trans
    (List.filter_sublist.trans List.filter_sublist)).map _

/-- A prop-filter that lists or searches by itself chooses from the sorted
contacts in turn. -/
theorem evaluateProp_sublist {p : PropFilter}
    (hsingle : p.isNotDefined = true ∨ p.textMatch.isSome = true) :
    (evaluator.evaluateProp p ⟨user, some (InMemory.mailbox contacts)⟩
      folder).value.Sublist
      ((evaluator.config.sort.sort contacts).map .mk) := by
  rcases evaluateProp_single hsingle with hlists | ⟨t, hsearches⟩
  · rw [hlists]
    exact missing_sublist p.name
  · rw [hsearches]
    exact search_sublist t

end Evaluator

/-- Among contacts with numbers of their own, an ordered evaluation brings the
same contacts in the same order however they are stored, and what a prop-filter
lists or searches stands strictly in that order. -/
theorem evaluate_independent_of_storage (evaluator : Evaluator)
    (contacts others : List Contact) (user : String) (folder : UInt32)
    (hordered : evaluator.config.sort ≠ .unsorted)
    (hdistinct : (contacts.map Contact.id).Nodup)
    (hperm : contacts.Perm others) :
    (∀ filter : Filter,
      (evaluator.evaluate filter ⟨user, some (InMemory.mailbox contacts)⟩
          folder).value =
        (evaluator.evaluate filter ⟨user, some (InMemory.mailbox others)⟩
          folder).value) ∧
    (∀ p : PropFilter, p.isNotDefined = true ∨ p.textMatch.isSome = true →
      (evaluator.evaluateProp p ⟨user, some (InMemory.mailbox contacts)⟩
        folder).value.Pairwise fun first second =>
          evaluator.config.sort.Strictly first.contact second.contact) := by
  have hsame := SortOrder.sort_eq_of_perm hordered hdistinct hperm
  constructor
  · intro filter
    apply Evaluator.evaluate_congr
    · exact Evaluator.missing_eq_of_sort hsame
    · intro t _
      exact Evaluator.search_eq_of_sort hsame t
  · intro p hsingle
    have hstrictly := SortOrder.sort_strictly hordered hdistinct
    apply List.Pairwise.sublist (Evaluator.evaluateProp_sublist hsingle)
    rw [List.pairwise_map]
    exact hstrictly

def absenceOf (property : String) : PropFilter :=
  ⟨property, true, none, []⟩

def fullNamed (id : UInt32) (name : String) : Contact :=
  (Contact.ofId id 7).set "fullName" name

/-- In ascending order: two contacts without a name, two of one name up to case,
and two more whose numbers run against their names. -/
def inNameOrder : List Contact :=
  [Contact.ofId 5 7, Contact.ofId 6 7, fullNamed 3 "ANNA", fullNamed 4 "anna",
    fullNamed 2 "Bea", fullNamed 1 "Cora"]

/-- Stored the other way round, the contacts are listed and found by their
names, and by their numbers between equal names, where the limit cuts both the
listing and the search. -/
theorem listed_by_name_then_number :
    (atMost 3).sort ≠ .unsorted ∧
    (inNameOrder.reverse.map Contact.id).Nodup ∧
    inNameOrder.reverse.Perm inNameOrder ∧
    ((Evaluator.mk .cardDav (atMost 3)).evaluate
        ⟨.anyOf, [absenceOf "EMAIL", holdsA]⟩
        ⟨"user", some (InMemory.mailbox inNameOrder.reverse)⟩ 7).value =
      [.mk (Contact.ofId 5 7), .mk (Contact.ofId 6 7), .mk (fullNamed 3 "ANNA"),
        .mk (fullNamed 4 "anna"), .mk (fullNamed 2 "Bea")] ∧
    ((Evaluator.mk .cardDav (atMost 3)).evaluateProp holdsA
        ⟨"user", some (InMemory.mailbox inNameOrder)⟩ 7).value =
      [.mk (fullNamed 3 "ANNA"), .mk (fullNamed 4 "anna"),
        .mk (fullNamed 2 "Bea")] ∧
    ((Evaluator.mk .cardDav (atMost 3)).evaluateProp holdsA
        ⟨"user", some (InMemory.mailbox inNameOrder.reverse)⟩ 7).value.Pairwise
      fun first second => first.contact.Precedes second.contact := by
  have hordered : (atMost 3).sort ≠ .unsorted := by
    decide
  have hdistinct : (inNameOrder.reverse.map Contact.id).Nodup := by
    decide
  have hperm : inNameOrder.reverse.Perm inNameOrder := List.reverse_perm _
  have hfolder : InMemory.folder inNameOrder 7 .nameAscending = inNameOrder :=
    SortOrder.sort_of_sorted (by decide +kernel)
  have hlisted :
      ((Evaluator.mk .cardDav (atMost 3)).evaluateProp (absenceOf "EMAIL")
          ⟨"user", some (InMemory.mailbox inNameOrder)⟩ 7).value =
        [.mk (Contact.ofId 5 7), .mk (Contact.ofId 6 7),
          .mk (fullNamed 3 "ANNA")] := by
    rw [Evaluator.evaluateProp_of_absence _ _ _ rfl,
      Evaluator.value_missing_inMemory]
    unfold atMost
    simp only [hfolder]
    decide +kernel
  have hquery : PropertyTable.cardDav.compileTextMatch
      (.ofPattern "FN" "a" false) = some ⟨false, [⟨"fullName", "a"⟩]⟩ := by
    decide +kernel
  have hhits : InMemory.answering inNameOrder [.contact]
      ⟨false, [⟨"fullName", "a"⟩]⟩ = inNameOrder.drop 2 := by
    decide +kernel
  have hsorted : (inNameOrder.drop 2).Pairwise
      fun a b => SortOrder.nameAscending.allows a b = true := by
    decide +kernel
  have hfound : ((Evaluator.mk .cardDav (atMost 3)).evaluateProp holdsA
        ⟨"user", some (InMemory.mailbox inNameOrder)⟩ 7).value =
      [.mk (fullNamed 3 "ANNA"), .mk (fullNamed 4 "anna"),
        .mk (fullNamed 2 "Bea")] := by
    rw [Evaluator.evaluateProp_of_textMatch _ _ _ rfl rfl,
      Evaluator.value_search_of_sorted ⟨.cardDav, atMost 3⟩ hquery hhits
        hsorted]
    decide
  have hunion : ((Evaluator.mk .cardDav (atMost 3)).evaluate
        ⟨.anyOf, [absenceOf "EMAIL", holdsA]⟩
        ⟨"user", some (InMemory.mailbox inNameOrder)⟩ 7).value =
      [.mk (Contact.ofId 5 7), .mk (Contact.ofId 6 7), .mk (fullNamed 3 "ANNA"),
        .mk (fullNamed 4 "anna"), .mk (fullNamed 2 "Bea")] := by
    rw [Evaluator.value_evaluate, List.map_cons, List.map_singleton, hlisted,
      hfound]
    decide
  obtain ⟨hsame, hstrictly⟩ := evaluate_independent_of_storage
    ⟨.cardDav, atMost 3⟩ inNameOrder.reverse inNameOrder "user" 7 hordered
    hdistinct hperm
  exact ⟨hordered, hdistinct, hperm, (hsame _).trans hunion, hfound,
    hstrictly holdsA (.inr rfl)⟩

end AddressBook

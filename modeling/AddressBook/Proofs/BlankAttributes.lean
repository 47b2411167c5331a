import AddressBook.Proofs.BranchRelations
import AddressBook.Proofs.FolderIsolation

/-!
# Stored blanks

Searching, sorting, listing and matching read a contact through its number, its
folder and its values alone, so none of them tells contacts apart that are alike
in these (`Contact.ReadsAlike`).  Leaving out the blanks that a contact stores
changes none of the three, and combining looks at nothing but numbers
(`keeps_same_ids`).
-/

namespace AddressBook

/-! ## Contacts that read alike -/

structure Contact.ReadsAlike (a b : Contact) : Prop where
  id : a.id = b.id
  folder : a.folder = b.folder
  value : ∀ key, Record.value? a key = Record.value? b key

/-- What is left stored is what is read. -/
theorem Contact.get?_withoutBlanks (contact : Contact) (key : String) :
    contact.withoutBlanks.attributes.get? key = Record.value? contact key :=
  Dictionary.get?_filterValues _ _ _

theorem Contact.value?_withoutBlanks (contact : Contact) (key : String) :
    Record.value? contact.withoutBlanks key = Record.value? contact key := by
  change (contact.withoutBlanks.attributes.get? key).filter (· ≠ "") =
    Record.value? contact key
  rw [Contact.get?_withoutBlanks]
  change ((contact.attributes.get? key).filter (· ≠ "")).filter (· ≠ "") =
    (contact.attributes.get? key).filter (· ≠ "")
  rw [Option.filter_filter]
  simp only [Bool.and_self]

theorem Contact.withoutBlanks_readsAlike (contact : Contact) :
    contact.withoutBlanks.ReadsAlike contact :=
  ⟨rfl, rfl, contact.value?_withoutBlanks⟩

section Records

variable {ρ σ : Type} [Record ρ] [Record σ] {record : ρ} {other : σ}

theorem PropertyTable.valuesOf_congr
    (hvalue : ∀ key, Record.value? record key = Record.value? other key)
    (table : PropertyTable) (property : String) :
    table.valuesOf record property = table.valuesOf other property := by
  unfold valuesOf
  congr 1
  funext key
  exact hvalue key

/-- A filter holds of a record by its values alone, whatever kind of record it
is. -/
theorem Filter.accepts_congr
    (hvalue : ∀ key, Record.value? record key = Record.value? other key)
    (filter : Filter) (table : PropertyTable) :
    filter.accepts table record = filter.accepts table other := by
  unfold Filter.accepts PropFilter.accepts
  simp only [PropertyTable.valuesOf_congr hvalue]

end Records

namespace Contact.ReadsAlike

variable {a b c d : Contact}

theorem sortName (hab : a.ReadsAlike b) : a.sortName = b.sortName := by
  unfold Contact.sortName
  rw [hab.value, hab.value]

theorem le (hab : a.ReadsAlike b) (hcd : c.ReadsAlike d) : a.le c = b.le d := by
  unfold Contact.le
  rw [hab.sortName, hcd.sortName, hab.id, hcd.id]

theorem allows (hab : a.ReadsAlike b) (hcd : c.ReadsAlike d)
    (order : SortOrder) :
    order.allows a c = order.allows b d := by
  cases order with
  | nameAscending => exact hab.le hcd
  | nameDescending => exact hcd.le hab
  | unsorted => rfl

theorem holds (hab : a.ReadsAlike b) (term : QueryTerm) :
    a.holds term = b.holds term := by
  unfold Contact.holds
  rw [hab.value]

theorem satisfies (hab : a.ReadsAlike b) (query : Query) :
    a.satisfies query = b.satisfies query := by
  unfold Contact.satisfies
  congr 2
  funext term
  exact hab.holds term

end Contact.ReadsAlike

/-! ## Mailboxes whose contacts read alike -/

theorem filter_map_of_kept {change : Contact → Contact} {keep : Contact → Bool}
    (hkeep : ∀ contact, keep (change contact) = keep contact)
    (contacts : List Contact) :
    (contacts.map change).filter keep = (contacts.filter keep).map change := by
  have hsame : keep ∘ change = keep := funext hkeep
  rw [List.filter_map, hsame]

theorem ids_objects (contacts : List Contact) :
    (contacts.map AddressObject.mk).map AddressObject.id =
      contacts.map Contact.id :=
  List.map_map

section Changed

variable {change : Contact → Contact}
  (hchange : ∀ contact, (change contact).ReadsAlike contact)
  (contacts : List Contact)

include hchange

theorem ids_map :
    (contacts.map change).map Contact.id = contacts.map Contact.id := by
  rw [List.map_map]
  apply List.map_congr_left
  intro contact _
  exact (hchange contact).id

theorem SortOrder.sort_map (order : SortOrder) :
    order.sort (contacts.map change) = (order.sort contacts).map change := by
  unfold SortOrder.sort
  rw [List.map_mergeSort]
  intro a _ b _
  exact ((hchange a).allows (hchange b) order).symm

namespace InMemory

theorem answering_map (types : List ItemType) (query : Query) :
    answering (contacts.map change) types query =
      (answering contacts types query).map change := by
  unfold answering
  split
  · exact filter_map_of_kept (fun contact => (hchange contact).satisfies query)
      contacts
  · rfl

theorem found_map (request : SearchRequest) :
    found (contacts.map change) request =
      (found contacts request).map change := by
  rw [found_eq_take, found_eq_take, answering_map hchange,
    SortOrder.sort_map hchange, List.map_take]

theorem folder_map (id : UInt32) (order : SortOrder) :
    folder (contacts.map change) id order =
      (folder contacts id order).map change := by
  unfold folder
  rw [filter_map_of_kept, SortOrder.sort_map hchange]
  intro contact
  rw [(hchange contact).folder]

theorem page_map (request : PageRequest) :
    page (contacts.map change) request =
      (page contacts request).map change := by
  unfold page
  rw [folder_map hchange, ← List.map_drop, ← List.map_take]

end InMemory

namespace Evaluator

variable (evaluator : Evaluator) (user : String) (folder : UInt32)

theorem ids_search_map (t : TextMatch) :
    (evaluator.search t ⟨user, some (InMemory.mailbox (contacts.map change))⟩
        folder).value.map AddressObject.id =
      (evaluator.search t ⟨user, some (InMemory.mailbox contacts)⟩
        folder).value.map AddressObject.id := by
  apply search_related_inMemory
    (fun first second =>
      first.map AddressObject.id = second.map AddressObject.id) rfl rfl
  intro query
  rw [InMemory.found_map hchange, filter_map_of_kept]
  · rw [ids_objects, ids_objects, ids_map hchange]
  · intro contact
    rw [(hchange contact).folder]

theorem ids_missing_map (property : String) :
    (evaluator.missing property
        ⟨user, some (InMemory.mailbox (contacts.map change))⟩
        folder).value.map AddressObject.id =
      (evaluator.missing property ⟨user, some (InMemory.mailbox contacts)⟩
        folder).value.map AddressObject.id := by
  rw [value_missing_inMemory, value_missing_inMemory,
    InMemory.folder_map hchange, filter_map_of_kept]
  · rw [← List.map_take, ids_objects, ids_objects, ids_map hchange]
  · intro contact
    rw [PropertyTable.valuesOf_congr (hchange contact).value]

end Evaluator

end Changed

/-! ## What a mailbox delivers -/

def Hit.id : Hit → UInt32
  | contact c => c.id
  | other id _ => id

namespace Mailbox

/-- The numbers of all hits of a search, in the order in which its cursor
delivers them. -/
def searchedIds (mailbox : Mailbox) (request : SearchRequest) :
    Except BackendError (List UInt32) := do
  let cursor ← mailbox.search request
  let hits ← cursor.drain.1
  return hits.map Hit.id

def pagedIds (mailbox : Mailbox) (request : PageRequest) :
    Except BackendError (List UInt32) := do
  let contacts ← mailbox.page request
  return contacts.map Contact.id

end Mailbox

namespace InMemory

variable (contacts : List Contact)

theorem searchedIds_mailbox (request : SearchRequest) :
    (mailbox contacts).searchedIds request =
      .ok ((found contacts request).map Contact.id) := by
  unfold Mailbox.searchedIds mailbox
  simp only [Cursor.drain_eq]
  change Except.ok (((found contacts request).map Hit.contact).map Hit.id) = _
  rw [List.map_map]
  rfl

theorem pagedIds_mailbox (request : PageRequest) :
    (mailbox contacts).pagedIds request =
      .ok ((page contacts request).map Contact.id) :=
  rfl

end InMemory

/-- A stored blank is the same as no attribute: a contact without its blanks
stores just the values that were read of it; with the blanks left out of its
contacts, a mailbox brings the same numbers in the same order for every filter,
every search and every page; and a filter holds of a contact, of the contact
without its blanks and of its bare attributes alike. -/
theorem evaluate_ignores_blanks (evaluator : Evaluator)
    (contacts : List Contact) (user : String) (folder : UInt32) :
    (∀ (contact : Contact) (key : String),
      contact.withoutBlanks.attributes.get? key = Record.value? contact key) ∧
    (∀ filter : Filter,
      (evaluator.evaluate filter
          ⟨user, some (InMemory.mailbox (contacts.map .withoutBlanks))⟩
          folder).value.map AddressObject.id =
        (evaluator.evaluate filter ⟨user, some (InMemory.mailbox contacts)⟩
          folder).value.map AddressObject.id) ∧
    (∀ request : SearchRequest, ∃ ids,
      (InMemory.mailbox (contacts.map .withoutBlanks)).searchedIds request =
          .ok ids ∧
        (InMemory.mailbox contacts).searchedIds request = .ok ids) ∧
    (∀ request : PageRequest, ∃ ids,
      (InMemory.mailbox (contacts.map .withoutBlanks)).pagedIds request =
          .ok ids ∧
        (InMemory.mailbox contacts).pagedIds request = .ok ids) ∧
    (∀ (filter : Filter) (contact : Contact),
      filter.accepts evaluator.table contact.withoutBlanks =
          filter.accepts evaluator.table contact ∧
        filter.accepts evaluator.table contact.attributes =
          filter.accepts evaluator.table contact) := by
  have hchange := Contact.withoutBlanks_readsAlike
  refine ⟨Contact.get?_withoutBlanks, ?_, ?_, ?_, ?_⟩
  · intro filter
    apply Evaluator.evaluate_related keeps_same_ids
    · intro property
      exact evaluator.ids_missing_map hchange contacts user folder property
    · intro t
      exact evaluator.ids_search_map hchange contacts user folder t
  · intro request
    use (InMemory.found contacts request).map Contact.id
    rw [InMemory.searchedIds_mailbox, InMemory.searchedIds_mailbox,
      InMemory.found_map hchange, ids_map hchange]
    exact ⟨rfl, rfl⟩
  · intro request
    use (InMemory.page contacts request).map Contact.id
    rw [InMemory.pagedIds_mailbox, InMemory.pagedIds_mailbox,
      InMemory.page_map hchange, ids_map hchange]
    exact ⟨rfl, rfl⟩
  · intro filter contact
    exact ⟨Filter.accepts_congr contact.value?_withoutBlanks filter
        evaluator.table,
      Filter.accepts_congr (fun _ => rfl) filter evaluator.table⟩

end AddressBook

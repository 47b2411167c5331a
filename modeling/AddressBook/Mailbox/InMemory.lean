import AddressBook.Mailbox.Basic
import AddressBook.Text.Search

/-!
# In-memory mailboxes

A mailbox that holds its contacts as a list.  A search looks for its patterns in
the stored values without regard to case, sorts what it finds and keeps at most
as many hits as it may; a page is a piece of the sorted folder.
-/

namespace AddressBook

def Contact.holds (contact : Contact) (term : QueryTerm) : Bool :=
  match Record.value? contact term.key with
  | some value => Text.contains (Text.lower value) (Text.lower term.pattern)
  | none => false

def Contact.satisfies (contact : Contact) (query : Query) : Bool :=
  query.terms.any contact.holds != query.negated

namespace InMemory

/-- The contacts that answer a search, in its order and within its limit. -/
def found (contacts : List Contact) (request : SearchRequest) : List Contact :=
  let matching :=
    if .contact ∈ request.types then contacts.filter (·.satisfies request.query)
    else []
  (request.sort.sort matching).take request.limit

def folder (contacts : List Contact) (id : UInt32) (order : SortOrder) :
    List Contact :=
  order.sort (contacts.filter (·.folder == id))

def page (contacts : List Contact) (request : PageRequest) : List Contact :=
  ((folder contacts request.folder request.sort).drop request.offset).take
    request.limit

theorem length_folder (contacts : List Contact) (id : UInt32)
    (order : SortOrder) :
    (folder contacts id order).length =
      (contacts.filter (·.folder == id)).length := by
  simp [folder]

/-- The mailbox that holds the given contacts.  It never fails. -/
def mailbox (contacts : List Contact) : Mailbox where
  search request :=
    .ok { pending := (found contacts request).map .contact
          failure := none
          releaseFailure := none }
  page request := .ok (page contacts request)
  folderSize id := (contacts.filter (·.folder == id)).length
  page_beyond := by
    rintro request listed hanswer hbeyond
    cases hanswer
    rw [← length_folder contacts request.folder request.sort] at hbeyond
    simp [page, List.drop_eq_nil_of_le hbeyond]

end InMemory
end AddressBook

import AddressBook.Mailbox.Basic

/-!
# Mailboxes with faults

A mailbox made to fail in chosen ways: searches that touch certain keys, cursors
after so many hits, the release of cursors, pages from some offset on.  Its
pages may hold more contacts than were asked for, and its searches may deliver
items of other kinds before the contacts.
-/

namespace AddressBook

structure Faults where
  /-- Searches that ask for one of these keys fail. -/
  failKeys : List String
  /-- Cursors fail in place of the delivery after this many. -/
  failNextAfter : Option Nat
  failRelease : Bool
  /-- Pages that start here or later fail. -/
  failPagesFrom : Option Nat
  /-- How many more contacts a page holds than were asked for. -/
  pageExtra : Nat
  /-- Items of other kinds that come before the contacts of every search. -/
  others : List (UInt32 × ItemType)
deriving DecidableEq, Repr

namespace Faults

def harmless : Faults := ⟨[], none, false, none, 0, []⟩

/-- The key that makes a search fail: the first key of the query among those set
to fail. -/
def failingKey? (faults : Faults) (query : Query) : Option String :=
  query.keys.find? (· ∈ faults.failKeys)

/-- Ends a cursor with a failure after the given number of deliveries, the end
mark among them. -/
def cut (limit : Option Nat) (cursor : Cursor) : Cursor :=
  match limit with
  | some n =>
    if n ≤ cursor.pending.length then
      { cursor with
        pending := cursor.pending.take n
        failure := some (.search "index corrupted") }
    else cursor
  | none => cursor

def cursor (faults : Faults) (inner : Cursor) : Cursor :=
  let others := faults.others.map fun item => .other item.1 item.2
  cut faults.failNextAfter
    { inner with
      pending := others ++ inner.pending
      releaseFailure :=
        if faults.failRelease then some (.release "already closed")
        else inner.releaseFailure }

def failsPage (faults : Faults) (offset : Nat) : Bool :=
  faults.failPagesFrom.any (· ≤ offset)

end Faults

def Mailbox.withFaults (mailbox : Mailbox) (faults : Faults) : Mailbox where
  search request :=
    match faults.failingKey? request.query with
    | some key => .error (.search ("index for " ++ key ++ " offline"))
    | none => (mailbox.search request).map faults.cursor
  page request :=
    if faults.failsPage request.offset then
      .error (.mailboxUnavailable "maintenance")
    else mailbox.page { request with limit := request.limit + faults.pageExtra }
  folderSize := mailbox.folderSize
  page_beyond := by
    intro request contacts hanswer hbeyond
    split at hanswer
    · cases hanswer
    · exact mailbox.page_beyond _ contacts hanswer hbeyond

end AddressBook

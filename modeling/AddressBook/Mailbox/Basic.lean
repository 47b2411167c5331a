import AddressBook.Contact.Order
import AddressBook.Query.Basic

/-!
# Mailboxes

What the evaluation of a filter asks of a mailbox.  A search opens a cursor over
its hits, which has to be released by whoever opened it; a folder is listed page
by page.  Either may fail.  The answers depend on the request alone, so a
mailbox is given by its answers, and what an evaluation did to it is the list of
calls it made.
-/

namespace AddressBook

inductive BackendError
  | mailboxUnavailable (reason : String)
  | search (reason : String)
  | release (reason : String)
deriving DecidableEq, Repr

def BackendError.message : BackendError → String
  | mailboxUnavailable reason => "Target mailbox unavailable: " ++ reason
  | search reason => "Search failed: " ++ reason
  | release reason => "Failed to release search results: " ++ reason

inductive ItemType
  | contact
  | message
  | appointment
deriving DecidableEq, Repr

instance : Inhabited ItemType := ⟨.contact⟩

inductive Hit
  | contact (contact : Contact)
  | other (id : UInt32) (itemType : ItemType)
deriving DecidableEq, Repr

structure SearchRequest where
  account : String
  query : Query
  types : List ItemType
  sort : SortOrder
  limit : Nat
deriving DecidableEq, Repr

structure PageRequest where
  account : String
  folder : UInt32
  sort : SortOrder
  offset : Nat
  limit : Nat
deriving DecidableEq, Repr

/-- An open search: the hits still to be delivered, the failure that ends them
if there is one, and the failure that releasing the cursor reports if there is
one. -/
structure Cursor where
  pending : List Hit
  failure : Option BackendError
  releaseFailure : Option BackendError
deriving DecidableEq, Repr

namespace Cursor

/-- Delivers the next hit, or `none` at the end. -/
def next (cursor : Cursor) : Except BackendError (Option Hit) × Cursor :=
  match cursor.pending with
  | hit :: rest => (.ok (some hit), { cursor with pending := rest })
  | [] =>
    match cursor.failure with
    | some error => (.error error, cursor)
    | none => (.ok none, cursor)

theorem next_shortens {cursor rest : Cursor} {hit : Hit}
    (hanswer : cursor.next = (.ok (some hit), rest)) :
    rest.pending.length < cursor.pending.length := by
  obtain ⟨pending, failure, releaseFailure⟩ := cursor
  cases pending with
  | nil => cases failure <;> simp [next] at hanswer
  | cons first others =>
    simp only [next, Prod.mk.injEq] at hanswer
    rw [← hanswer.2]
    exact Nat.lt_succ_self _

/-- Asks for hits until the end mark; a failure on the way loses those delivered
before it.  With the outcome comes the cursor as it is left, which has still to
be released. -/
def drain (cursor : Cursor) : Except BackendError (List Hit) × Cursor :=
  match hanswer : cursor.next with
  | (.error error, left) => (.error error, left)
  | (.ok none, left) => (.ok [], left)
  | (.ok (some hit), rest) =>
    have _hshorter := next_shortens hanswer
    let (delivered, left) := rest.drain
    (delivered.map (hit :: ·), left)
termination_by cursor.pending.length

/-- What draining brings: every hit, or else the failure that ends them. -/
def outcome (cursor : Cursor) : Except BackendError (List Hit) :=
  match cursor.failure with
  | some error => .error error
  | none => .ok cursor.pending

theorem drain_eq (cursor : Cursor) :
    cursor.drain = (cursor.outcome, { cursor with pending := [] }) := by
  obtain ⟨pending, failure, releaseFailure⟩ := cursor
  induction pending with
  | nil => cases failure <;> simp [drain, next, outcome]
  | cons hit rest ih =>
    rw [drain]
    simp only [next, ih, outcome]
    cases failure <;> rfl

end Cursor

/-- A mailbox by its answers.  `folderSize` bounds the contacts of a folder: no
page that starts there or later holds any, so reading page after page comes to
an end. -/
structure Mailbox where
  search : SearchRequest → Except BackendError Cursor
  page : PageRequest → Except BackendError (List Contact)
  folderSize : UInt32 → Nat
  page_beyond : ∀ request contacts, page request = .ok contacts →
    folderSize request.folder ≤ request.offset → contacts = []

inductive Call
  | search (request : SearchRequest)
  | page (request : PageRequest)
  | release
deriving DecidableEq, Repr

namespace Mailbox

theorem offset_lt_folderSize (mailbox : Mailbox) {request : PageRequest}
    {contacts : List Contact} (hanswer : mailbox.page request = .ok contacts)
    (hfull : 0 < contacts.length) :
    request.offset < mailbox.folderSize request.folder := by
  rcases Nat.lt_or_ge request.offset (mailbox.folderSize request.folder) with
    hinside | hbeyond
  · exact hinside
  · simp [mailbox.page_beyond request contacts hanswer hbeyond] at hfull

/-- What one call adds to the number of open cursors. -/
def openedBy (mailbox : Mailbox) : Call → Int
  | .search request =>
    match mailbox.search request with
    | .ok _ => 1
    | .error _ => 0
  | .page _ => 0
  | .release => -1

/-- The number of cursors that a run of calls leaves open. -/
def openAfter (mailbox : Mailbox) : List Call → Int
  | [] => 0
  | call :: rest => mailbox.openedBy call + mailbox.openAfter rest

theorem openAfter_append (mailbox : Mailbox) (first second : List Call) :
    mailbox.openAfter (first ++ second) =
      mailbox.openAfter first + mailbox.openAfter second := by
  induction first with
  | nil => simp [openAfter]
  | cons call rest ih => simp [openAfter, ih, Int.add_assoc]

end Mailbox
end AddressBook

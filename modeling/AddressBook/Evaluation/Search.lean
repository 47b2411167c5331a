import AddressBook.Data.Traced
import AddressBook.Event
import AddressBook.Mailbox.Basic

/-!
# Searching and listing a folder

The two ways in which an evaluation uses a mailbox.  A search drains one cursor
and keeps the contacts of the folder; the cursor is released whatever became of
it, and a failed release is reported but does not matter.  A listing reads the
folder page by page until it has found enough or the folder ends.
-/

namespace AddressBook

/-- What an evaluation does: it calls the mailbox or reports an event. -/
inductive Step
  | call (call : Call)
  | event (event : Event)
deriving DecidableEq, Repr

namespace Step

def call? : Step → Option Call
  | call c => some c
  | event _ => none

def event? : Step → Option Event
  | call _ => none
  | event e => some e

end Step

def callsOf (trace : List Step) : List Call := trace.filterMap Step.call?

def eventsOf (trace : List Step) : List Event := trace.filterMap Step.event?

section Transcripts

variable (c : Call) (e : Event) (trace rest : List Step)

@[simp] theorem callsOf_nil : callsOf [] = [] := rfl

@[simp] theorem callsOf_call :
    callsOf (.call c :: trace) = c :: callsOf trace := rfl

@[simp] theorem callsOf_event :
    callsOf (.event e :: trace) = callsOf trace := rfl

@[simp] theorem callsOf_append :
    callsOf (trace ++ rest) = callsOf trace ++ callsOf rest :=
  List.filterMap_append

@[simp] theorem eventsOf_nil : eventsOf [] = [] := rfl

@[simp] theorem eventsOf_call :
    eventsOf (.call c :: trace) = eventsOf trace := rfl

@[simp] theorem eventsOf_event :
    eventsOf (.event e :: trace) = e :: eventsOf trace := rfl

@[simp] theorem eventsOf_append :
    eventsOf (trace ++ rest) = eventsOf trace ++ eventsOf rest :=
  List.filterMap_append

theorem callsOf_map_call {α : Type} (f : α → Call) (xs : List α) :
    callsOf (xs.map fun x => .call (f x)) = xs.map f := by
  induction xs with
  | nil => rfl
  | cons x xs ih => simp [ih]

theorem eventsOf_map_call {α : Type} (f : α → Call) (xs : List α) :
    eventsOf (xs.map fun x => .call (f x)) = [] := by
  induction xs with
  | nil => rfl
  | cons x xs ih => simp [ih]

theorem callsOf_flatMap {α : Type} (f : α → List Step) (xs : List α) :
    callsOf (xs.flatMap f) = xs.flatMap fun x => callsOf (f x) := by
  induction xs with
  | nil => rfl
  | cons x xs ih => simp [ih]

theorem eventsOf_flatMap {α : Type} (f : α → List Step) (xs : List α) :
    eventsOf (xs.flatMap f) = xs.flatMap fun x => eventsOf (f x) := by
  induction xs with
  | nil => rfl
  | cons x xs ih => simp [ih]

end Transcripts

theorem mem_callsOf {c : Call} {trace : List Step} :
    c ∈ callsOf trace ↔ .call c ∈ trace := by
  induction trace with
  | nil => simp
  | cons step rest ih => cases step <;> simp [ih]

/-- The contact of a hit, if it is one and lies in the folder. -/
def Hit.contactIn? (folder : UInt32) : Hit → Option Contact
  | contact c => if c.folder = folder then some c else none
  | other _ _ => none

/-- Releases a cursor, and reports it when the release fails. -/
def Cursor.release (cursor : Cursor) : List Step :=
  .call .release ::
    (cursor.releaseFailure.map fun error =>
      .event (.releaseFailed error)).toList

@[simp] theorem callsOf_release (cursor : Cursor) :
    callsOf cursor.release = [.release] := by
  unfold Cursor.release
  cases cursor.releaseFailure <;> rfl

@[simp] theorem eventsOf_release (cursor : Cursor) :
    eventsOf cursor.release =
      (cursor.releaseFailure.map Event.releaseFailed).toList := by
  unfold Cursor.release
  cases cursor.releaseFailure <;> rfl

namespace Mailbox

def searchFolder (mailbox : Mailbox) (request : SearchRequest)
    (folder : UInt32) : Traced Step (Except BackendError (List Contact)) :=
  match mailbox.search request with
  | .error error => ⟨.error error, [.call (.search request)]⟩
  | .ok cursor =>
    let (delivered, left) := cursor.drain
    ⟨delivered.map (List.filterMap (Hit.contactIn? folder)),
      .call (.search request) :: left.release⟩

/-- Reads pages from the request's offset on and adds the contacts that pass the
test to those already found, until there are as many as a page may hold or a
page is not full. -/
def listFrom (mailbox : Mailbox) (keep : Contact → Bool) (request : PageRequest)
    (found : List Contact) : Traced Step (Except BackendError (List Contact)) :=
  match hanswer : mailbox.page request with
  | .error error => ⟨.error error, [.call (.page request)]⟩
  | .ok contacts =>
    let found := (found ++ contacts.filter keep).take request.limit
    if henough :
        contacts.length < request.limit ∨ found.length = request.limit then
      ⟨.ok found, [.call (.page request)]⟩
    else
      have hfull : 0 < contacts.length := by
        have hshort : found.length ≤ request.limit := List.length_take_le _ _
        omega
      have hinside := mailbox.offset_lt_folderSize hanswer hfull
      let rest :=
        mailbox.listFrom keep
          { request with offset := request.offset + contacts.length } found
      ⟨rest.value, .call (.page request) :: rest.trace⟩
termination_by mailbox.folderSize request.folder - request.offset

/-- The first contacts of a folder that pass a test, as many as a page may
hold. -/
def listFolder (mailbox : Mailbox) (keep : Contact → Bool)
    (request : PageRequest) :
    Traced Step (Except BackendError (List Contact)) :=
  mailbox.listFrom keep { request with offset := 0 } []

end Mailbox
end AddressBook

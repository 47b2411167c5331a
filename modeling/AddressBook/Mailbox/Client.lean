import AddressBook.Mailbox.InMemory

/-!
# Clients of an in-memory mailbox

A client that holds any number of cursors on one in-memory mailbox, and the
count of open cursors that the mailbox keeps.  A bare cursor is released when
its holder says so; a guarded one is released when it is dropped.  Releasing or
dropping a second time changes nothing, and a cursor that has been released
delivers nothing more.
-/

namespace AddressBook

structure HeldCursor where
  guarded : Bool
  pending : List Hit
  released : Bool
deriving DecidableEq, Repr

/-- An in-memory mailbox and the cursors a client has opened on it.  A cursor
that was dropped leaves its place empty. -/
structure Client where
  contacts : List Contact
  openSessions : Int
  held : List (Option HeldCursor)
deriving DecidableEq, Repr

inductive ClientAction
  | search (request : SearchRequest) (guarded : Bool)
  | next (cursor : Nat)
  | release (cursor : Nat)
  | drop (cursor : Nat)
  | page (request : PageRequest)
  | idle
  /-- Drops all cursors and adds a contact. -/
  | add (contact : Contact)
deriving DecidableEq, Repr

inductive ClientAnswer
  | opened (cursor : Nat)
  | delivered (answer : Except BackendError (Option Hit))
  | released
  | listed (contacts : List Contact)
  | done
  /-- There is no such cursor to use that way. -/
  | refused

namespace HeldCursor

def next (cursor : HeldCursor) :
    Except BackendError (Option Hit) × HeldCursor :=
  if cursor.released then (.error (.search "results already released"), cursor)
  else
    match cursor.pending with
    | [] => (.ok none, cursor)
    | hit :: rest => (.ok (some hit), { cursor with pending := rest })

def release (cursor : HeldCursor) : HeldCursor :=
  { cursor with released := true }

def releaseChange (cursor : HeldCursor) : Int :=
  if cursor.released then 0 else -1

/-- The change that dropping the cursor makes to the count of open ones. -/
def dropChange (cursor : HeldCursor) : Int :=
  if cursor.guarded then cursor.releaseChange else 0

theorem next_of_released {cursor : HeldCursor}
    (hreleased : cursor.released = true) :
    cursor.next = (.error (.search "results already released"), cursor) := by
  simp [next, hreleased]

theorem next_of_open {cursor : HeldCursor} (hopened : cursor.released = false) :
    cursor.next =
      (.ok cursor.pending.head?,
        { cursor with pending := cursor.pending.tail }) := by
  obtain ⟨guarded, pending, released⟩ := cursor
  cases pending <;> simp_all [next]

end HeldCursor

namespace Client

def ofContacts (contacts : List Contact) : Client := ⟨contacts, 0, []⟩

def cursor? (client : Client) (cursor : Nat) : Option HeldCursor :=
  (client.held[cursor]?).join

def search (client : Client) (request : SearchRequest) (guarded : Bool) :
    Client :=
  { client with
    openSessions := client.openSessions + 1
    held := client.held ++
      [some ⟨guarded, (InMemory.found client.contacts request).map .contact,
        false⟩] }

/-- Puts a cursor in the place of another, or empties the place. -/
def replace (client : Client) (place : Nat) (held : Option HeldCursor)
    (change : Int) : Client :=
  { client with
    openSessions := client.openSessions + change
    held := client.held.set place held }

theorem cursor?_search_self (client : Client) (request : SearchRequest)
    (guarded : Bool) :
    (client.search request guarded).cursor? client.held.length =
      some ⟨guarded, (InMemory.found client.contacts request).map .contact,
        false⟩ := by
  simp [cursor?, search]

theorem cursor?_search_of_ne (client : Client) (request : SearchRequest)
    (guarded : Bool) {place : Nat} (hother : place ≠ client.held.length) :
    (client.search request guarded).cursor? place = client.cursor? place := by
  rcases Nat.lt_or_gt_of_ne hother with hearlier | hlater
  · simp [cursor?, search, List.getElem?_append_left hearlier]
  · have hlength :
        (client.search request guarded).held.length =
          client.held.length + 1 := by
      simp [search]
    have hbefore : client.held[place]? = none :=
      List.getElem?_eq_none (Nat.le_of_lt hlater)
    have hafter : (client.search request guarded).held[place]? = none := by
      exact List.getElem?_eq_none (hlength ▸ hlater)
    rw [cursor?, cursor?, hbefore, hafter]

theorem lt_length_of_cursor? {client : Client} {place : Nat}
    {cursor : HeldCursor} (hheld : client.cursor? place = some cursor) :
    place < client.held.length := by
  rcases Nat.lt_or_ge place client.held.length with hinside | hbeyond
  · exact hinside
  · simp [cursor?, hbeyond] at hheld

theorem cursor?_replace_self (client : Client) {place : Nat}
    (held : Option HeldCursor) (change : Int)
    (hinside : place < client.held.length) :
    (client.replace place held change).cursor? place = held := by
  simp [cursor?, replace, hinside]

theorem cursor?_replace_of_ne (client : Client) {place other : Nat}
    (held : Option HeldCursor) (change : Int) (hne : other ≠ place) :
    (client.replace place held change).cursor? other =
      client.cursor? other := by
  simp [cursor?, replace, List.getElem?_set_ne hne.symm]

theorem replace_cursor_self {client : Client} {place : Nat}
    {cursor : HeldCursor} (hheld : client.cursor? place = some cursor) :
    client.replace place (some cursor) 0 = client := by
  have hpresent : client.held[place]? = some (some cursor) :=
    Option.join_eq_some_iff.mp hheld
  have hsame : client.held.set place (some cursor) = client.held := by
    obtain ⟨hinside, hvalue⟩ := List.getElem?_eq_some_iff.mp hpresent
    rw [← hvalue, List.set_getElem_self]
  simp [replace, hsame]

def dropAllChange : List (Option HeldCursor) → Int
  | [] => 0
  | none :: rest => dropAllChange rest
  | some cursor :: rest => cursor.dropChange + dropAllChange rest

def dropAll (client : Client) : Client :=
  { client with
    openSessions := client.openSessions + dropAllChange client.held
    held := [] }

def step (client : Client) : ClientAction → ClientAnswer × Client
  | .search request guarded =>
    (.opened client.held.length, client.search request guarded)
  | .next place =>
    match client.cursor? place with
    | some cursor =>
      (.delivered cursor.next.1, client.replace place (some cursor.next.2) 0)
    | none => (.refused, client)
  | .release place =>
    match client.cursor? place with
    | some cursor =>
      if cursor.guarded then (.refused, client)
      else
        (.released,
          client.replace place (some cursor.release) cursor.releaseChange)
    | none => (.refused, client)
  | .drop place =>
    match client.cursor? place with
    | some cursor => (.done, client.replace place none cursor.dropChange)
    | none => (.done, client)
  | .page request => (.listed (InMemory.page client.contacts request), client)
  | .idle => (.done, client)
  | .add contact =>
    let dropped := client.dropAll
    (.done, { dropped with contacts := dropped.contacts ++ [contact] })

/-- The answers to a run of actions, each with the client after it. -/
def run (client : Client) : List ClientAction → List (ClientAnswer × Client)
  | [] => []
  | action :: rest =>
    let after := client.step action
    after :: after.2.run rest

end Client
end AddressBook

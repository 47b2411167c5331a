import AddressBook.Proofs.ClientHistory

/-!
# The accounts of cursors

`Accounts` says that the state of a client agrees with what is read off the
actions it has taken.  Every action keeps it, so it holds after every run; with
it the count of open cursors is the number of those opened and not yet released,
and each cursor has delivered the first hits of the search that opened it,
whatever happened to the others in between.
-/

namespace AddressBook

/-! ## The state agrees with the readings -/

open History

/-- The client is as a run of actions over the contacts has to leave it. -/
structure Accounts (contacts : List Contact) (past : List ClientAction)
    (client : Client) : Prop where
  contacts_eq : client.contacts = contacts
  length_held : client.held.length = (opened past).length
  cursors : ∀ place, client.cursor? place = cursorAfter contacts past place
  openSessions_eq : client.openSessions = (openCursors past).card

namespace Accounts

variable {contacts : List Contact} {past : List ClientAction}
  {latest : ClientAction} {client : Client} {place : Nat} {cursor : HeldCursor}

theorem initial (contacts : List Contact) :
    Accounts contacts [] (.ofContacts contacts) := by
  constructor
  · rfl
  · rfl
  · intro place
    simp [Client.ofContacts, Client.cursor?, cursorAfter, opened]
  · rfl

/-- A held cursor has not been dropped, and its parts are read off the run. -/
theorem of_cursor? (haccounts : Accounts contacts past client)
    (hheld : client.cursor? place = some cursor) :
    ¬Dropped past place ∧ ∃ request,
      (opened past)[place]? = some (request, cursor.guarded) ∧
      cursor.pending =
        ((InMemory.found contacts request).map .contact).drop
          (asked past place) ∧
      (cursor.released = true ↔ Released past place) := by
  rw [haccounts.cursors] at hheld
  unfold cursorAfter at hheld
  split at hheld
  next => cases hheld
  next hdropped =>
      obtain ⟨⟨request, guarded⟩, hopened, hcursor⟩ :=
        Option.map_eq_some_iff.mp hheld
      refine ⟨hdropped, request, ?_⟩
      rw [← hcursor]
      exact ⟨hopened, rfl, decide_eq_true_iff⟩

theorem guard?_of_cursor? (haccounts : Accounts contacts past client)
    (hheld : client.cursor? place = some cursor) :
    guard? past place = some cursor.guarded := by
  obtain ⟨-, request, hopened, -, -⟩ := haccounts.of_cursor? hheld
  simp [guard?, hopened]

theorem lt_length_opened (haccounts : Accounts contacts past client)
    (hheld : client.cursor? place = some cursor) :
    place < (opened past).length := by
  rw [← haccounts.length_held]
  exact Client.lt_length_of_cursor? hheld

theorem dropped_of_no_cursor (haccounts : Accounts contacts past client)
    (hnone : client.cursor? place = none)
    (hinside : place < (opened past).length) :
    Dropped past place := by
  rw [haccounts.cursors] at hnone
  unfold cursorAfter at hnone
  by_contra hdropped
  simp [hdropped, hinside] at hnone

theorem afterSearch (haccounts : Accounts contacts past client)
    (request : SearchRequest) (guarded : Bool) :
    Accounts contacts (past ++ [.search request guarded])
      (client.search request guarded) := by
  have hlength := haccounts.length_held
  have hunreleased : ¬Released past (opened past).length :=
    fun hreleased => Nat.lt_irrefl _ (lt_length_of_released hreleased)
  have hundropped : ¬Dropped past (opened past).length :=
    fun hdropped => Nat.lt_irrefl _ (lt_length_of_dropped hdropped)
  have hunasked : asked past (opened past).length = 0 :=
    asked_of_unopened (Nat.le_refl _)
  constructor
  · exact haccounts.contacts_eq
  · simp [Client.search, hlength]
  · intro place
    by_cases hplace : place = client.held.length
    · rw [hplace, Client.cursor?_search_self, hlength]
      simp [cursorAfter, dropped_concat, released_concat, asked_concat,
        hundropped, hunasked, hunreleased, haccounts.contacts_eq]
    · have hopened : (opened (past ++ [.search request guarded]))[place]? =
          (opened past)[place]? := by
        rw [opened_concat_search]
        grind
      rw [Client.cursor?_search_of_ne _ _ _ hplace, haccounts.cursors,
        cursorAfter_concat_of_other hopened (Option.some_ne_none _).symm]
  · have hinsert : openCursors (past ++ [.search request guarded]) =
        insert (opened past).length (openCursors past) := by
      ext place
      have hsame : Released (past ++ [.search request guarded]) place ↔
          Released past place :=
        released_concat_of_other (Option.some_ne_none _).symm
      simp only [openCursors, Finset.mem_filter, Finset.mem_range,
        Finset.mem_insert, opened_concat_search, List.length_append,
        List.length_singleton, hsame]
      by_cases hplace : place = (opened past).length
      · simp [hplace, hunreleased]
      · simp [hplace]
        omega
    have hfresh : (opened past).length ∉ openCursors past := by
      simp [openCursors]
    rw [hinsert, Finset.card_insert_of_notMem hfresh]
    simp [Client.search, haccounts.openSessions_eq]

/-- An action that has no effect on what is read off a run leaves the client
alone. -/
theorem afterNothing (haccounts : Accounts contacts past client)
    (hopened : opened (past ++ [latest]) = opened past)
    (hcursors : ∀ place,
      cursorAfter contacts (past ++ [latest]) place =
        cursorAfter contacts past place)
    (hreleased : ∀ place, Released (past ++ [latest]) place ↔
      Released past place) :
    Accounts contacts (past ++ [latest]) client := by
  constructor
  · exact haccounts.contacts_eq
  · rw [hopened]
    exact haccounts.length_held
  · intro place
    rw [hcursors place]
    exact haccounts.cursors place
  · rw [openCursors_concat_of_kept hopened hreleased]
    exact haccounts.openSessions_eq

/-- An action on one cursor changes its place and the count. -/
theorem afterReplace {held : Option HeldCursor} {change : Int}
    (haccounts : Accounts contacts past client)
    (hopened : opened (past ++ [latest]) = opened past)
    (hsubject : subject? latest = some place)
    (hinside : place < client.held.length)
    (hheld : cursorAfter contacts (past ++ [latest]) place = held)
    (hcount :
      ((openCursors (past ++ [latest])).card : Int) =
        (openCursors past).card + change) :
    Accounts contacts (past ++ [latest])
      (client.replace place held change) := by
  constructor
  · exact haccounts.contacts_eq
  · simp [Client.replace, hopened, haccounts.length_held]
  · intro other
    by_cases hother : other = place
    · rw [hother, Client.cursor?_replace_self _ _ _ hinside, hheld]
    · have hdifferent : subject? latest ≠ some other := by
        rw [hsubject]
        exact fun hsame => hother (Option.some.inj hsame).symm
      rw [Client.cursor?_replace_of_ne _ _ _ hother, haccounts.cursors,
        cursorAfter_concat_of_other (by rw [hopened]) hdifferent]
  · simp [Client.replace, haccounts.openSessions_eq, hcount]

theorem afterNext (haccounts : Accounts contacts past client)
    (hheld : client.cursor? place = some cursor) :
    Accounts contacts (past ++ [.next place])
      (client.replace place (some cursor.next.2) 0) := by
  obtain ⟨hundropped, request, hopened, hpending, hreleased⟩ :=
    haccounts.of_cursor? hheld
  -- A released cursor is not asked any more in the sense of `asked`, and keeps
  -- what is left of it.
  have hsame : ∀ other, Released (past ++ [.next place]) other ↔
      Released past other := by
    intro other
    simp [released_concat]
  have hinside : place < (opened past).length :=
    haccounts.lt_length_opened hheld
  apply haccounts.afterReplace (by simp [opened]) rfl
    (Client.lt_length_of_cursor? hheld)
  · have hopened' :
        (opened (past ++ [.next place]))[place]? =
          some (request, cursor.guarded) := by
      simpa [opened] using hopened
    by_cases hdone : cursor.released = true
    · have hpast : Released past place := hreleased.mp hdone
      have hcount : asked (past ++ [.next place]) place = asked past place := by
        simp [asked_concat, hpast]
      rw [HeldCursor.next_of_released hdone]
      simp [cursorAfter, dropped_concat, hundropped, hopened', hcount, hsame,
        hpast, ← hpending, ← hdone]
    · have hpast : ¬Released past place := fun h => hdone (hreleased.mpr h)
      have hcount :
          asked (past ++ [.next place]) place = asked past place + 1 := by
        simp [asked_concat, hpast, hundropped, hinside]
      rw [HeldCursor.next_of_open (Bool.not_eq_true _ ▸ hdone)]
      simp [cursorAfter, dropped_concat, hundropped, hopened', hcount, hsame,
        hpast, hpending, hdone]
  · rw [openCursors_concat_of_kept (by simp [opened]) hsame, Int.add_zero]

/-- An action that releases the cursor takes it out of the count unless it was
out already. -/
theorem card_openCursors_of_release (haccounts : Accounts contacts past client)
    (hheld : client.cursor? place = some cursor)
    (hopened : opened (past ++ [latest]) = opened past)
    (hsubject : subject? latest = some place)
    (hreleased : Released (past ++ [latest]) place) :
    ((openCursors (past ++ [latest])).card : Int) =
      (openCursors past).card + cursor.releaseChange := by
  obtain ⟨-, -, -, -, hdone⟩ := haccounts.of_cursor? hheld
  have hothers : ∀ other, other ≠ place →
      (Released (past ++ [latest]) other ↔ Released past other) := by
    intro other hother
    apply released_concat_of_other
    rw [hsubject]
    exact fun hsame => hother (Option.some.inj hsame).symm
  rw [openCursors_concat_of_released hopened hothers hreleased,
    card_erase_openCursors (haccounts.lt_length_opened hheld)]
  simp [HeldCursor.releaseChange, hdone]

theorem afterRelease (haccounts : Accounts contacts past client)
    (hheld : client.cursor? place = some cursor)
    (hbare : cursor.guarded = false) :
    Accounts contacts (past ++ [.release place])
      (client.replace place (some cursor.release) cursor.releaseChange) := by
  obtain ⟨hundropped, request, hopened, hpending, -⟩ :=
    haccounts.of_cursor? hheld
  have hreleased : Released (past ++ [.release place]) place := by
    simp [released_concat, haccounts.guard?_of_cursor? hheld, hbare, hundropped]
  apply haccounts.afterReplace (by simp [opened]) rfl
    (Client.lt_length_of_cursor? hheld)
  · have hopened' : (opened (past ++ [.release place]))[place]? =
        some (request, cursor.guarded) := by
      simpa [opened] using hopened
    have hcount :
        asked (past ++ [.release place]) place = asked past place := by
      simp [asked_concat]
    simp [cursorAfter, dropped_concat, hundropped, hopened', hcount, hreleased,
      HeldCursor.release, ← hpending]
  · exact haccounts.card_openCursors_of_release hheld (by simp [opened]) rfl
      hreleased

theorem afterDrop (haccounts : Accounts contacts past client)
    (hheld : client.cursor? place = some cursor) :
    Accounts contacts (past ++ [.drop place])
      (client.replace place none cursor.dropChange) := by
  have hguard := haccounts.guard?_of_cursor? hheld
  have hinside : place < (opened past).length :=
    haccounts.lt_length_opened hheld
  apply haccounts.afterReplace (by simp [opened]) rfl
    (Client.lt_length_of_cursor? hheld)
  · simp [cursorAfter, dropped_concat, hinside]
  · unfold HeldCursor.dropChange
    cases hguarded : cursor.guarded with
    | true =>
        apply haccounts.card_openCursors_of_release hheld (by simp [opened]) rfl
        simp [released_concat, hguard, hguarded]
    | false =>
        rw [openCursors_concat_of_kept (by simp [opened])]
        · simp
        · intro other
          rw [released_concat, or_iff_left]
          rintro (⟨hno, -⟩ | ⟨hdrop, hother⟩)
          · cases hno
          · cases hdrop
            simp [hguard, hguarded] at hother

/-- An action on a cursor that is not held does nothing, and there is nothing to
be read off it: either it was never opened, or it was dropped before. -/
theorem afterAbsent (haccounts : Accounts contacts past client)
    (hnone : client.cursor? place = none)
    (hsubject : subject? latest = some place) :
    Accounts contacts (past ++ [latest]) client := by
  have hopened : opened (past ++ [latest]) = opened past := by
    apply opened_concat_of_not_search
    rintro request guarded rfl
    cases hsubject
  have hdropped : ∀ other, Dropped (past ++ [latest]) other ↔
      Dropped past other := by
    intro other
    rw [dropped_concat, or_iff_left_iff_imp]
    rintro ⟨rfl, hinside⟩
    cases hsubject
    exact haccounts.dropped_of_no_cursor hnone hinside
  have hreleased : ∀ other, Released (past ++ [latest]) other ↔
      Released past other := by
    intro other
    rw [released_concat, or_iff_left_iff_imp]
    rintro (⟨rfl, hbare, hundropped⟩ | ⟨rfl, hguarded⟩)
    · cases hsubject
      exact absurd
        (haccounts.dropped_of_no_cursor hnone (lt_length_of_guard? hbare))
        hundropped
    · cases hsubject
      rw [released_iff_dropped hguarded]
      exact haccounts.dropped_of_no_cursor hnone (lt_length_of_guard? hguarded)
  have hasked : ∀ other, asked (past ++ [latest]) other = asked past other := by
    intro other
    rw [asked_concat, if_neg, Nat.add_zero]
    rintro ⟨rfl, hinside, hundropped, -⟩
    cases hsubject
    exact hundropped (haccounts.dropped_of_no_cursor hnone hinside)
  apply haccounts.afterNothing hopened
  · intro other
    simp only [cursorAfter, hopened, hdropped, hreleased, hasked]
  · exact hreleased

theorem afterRefused (haccounts : Accounts contacts past client)
    (hheld : client.cursor? place = some cursor)
    (hguarded : cursor.guarded = true) :
    Accounts contacts (past ++ [.release place]) client := by
  have hreleased : ∀ other, Released (past ++ [.release place]) other ↔
      Released past other := by
    intro other
    rw [released_concat, or_iff_left]
    rintro (⟨hrelease, hbare, -⟩ | ⟨hno, -⟩)
    · cases hrelease
      simp [haccounts.guard?_of_cursor? hheld, hguarded] at hbare
    · cases hno
  have hsame : opened (past ++ [.release place]) = opened past := by
    simp [opened]
  apply haccounts.afterNothing hsame
  · intro other
    simp [cursorAfter, hsame, dropped_concat, hreleased, asked_concat]
  · exact hreleased

theorem afterUnrelated (haccounts : Accounts contacts past client)
    (hsearch : ∀ request guarded, latest ≠ .search request guarded)
    (hsubject : subject? latest = none) :
    Accounts contacts (past ++ [latest]) client := by
  have hopened : opened (past ++ [latest]) = opened past :=
    opened_concat_of_not_search hsearch
  have hother : ∀ other, subject? latest ≠ some other := by simp [hsubject]
  apply haccounts.afterNothing hopened
  · intro other
    exact cursorAfter_concat_of_other (by rw [hopened]) (hother other)
  · intro other
    exact released_concat_of_other (hother other)

theorem step (haccounts : Accounts contacts past client)
    (hadd : ∀ contact, latest ≠ .add contact) :
    Accounts contacts (past ++ [latest]) (client.step latest).2 := by
  cases latest with
  | search request guarded => exact haccounts.afterSearch request guarded
  | next place =>
      cases hheld : client.cursor? place with
      | none => simpa [Client.step, hheld] using haccounts.afterAbsent hheld rfl
      | some cursor =>
          simpa [Client.step, hheld] using haccounts.afterNext hheld
  | release place =>
      cases hheld : client.cursor? place with
      | none => simpa [Client.step, hheld] using haccounts.afterAbsent hheld rfl
      | some cursor =>
          cases hguarded : cursor.guarded with
          | true =>
              simpa [Client.step, hheld, hguarded] using
                haccounts.afterRefused hheld hguarded
          | false =>
              simpa [Client.step, hheld, hguarded] using
                haccounts.afterRelease hheld hguarded
  | drop place =>
      cases hheld : client.cursor? place with
      | none => simpa [Client.step, hheld] using haccounts.afterAbsent hheld rfl
      | some cursor =>
          simpa [Client.step, hheld] using haccounts.afterDrop hheld
  -- The others concern no cursor.
  | page request => exact haccounts.afterUnrelated (by simp) rfl
  | idle => exact haccounts.afterUnrelated (by simp) rfl
  | add contact => exact absurd rfl (hadd contact)

end Accounts

namespace Accounts

theorem run {contacts : List Contact} {actions : List ClientAction}
    (hadd : ∀ contact, .add contact ∉ actions) :
    Accounts contacts actions ((Client.ofContacts contacts).after actions) := by
  induction actions using List.reverseRecOn with
  | nil => exact initial contacts
  | append_singleton past latest ih =>
      have hpast : ∀ contact, .add contact ∉ past := by
        intro contact hmem
        exact hadd contact (List.mem_append_left _ hmem)
      have hlatest : ∀ contact, latest ≠ .add contact := by
        rintro contact rfl
        exact hadd contact (List.mem_append_right _ (List.mem_singleton_self _))
      rw [Client.after_concat]
      exact (ih hpast).step hlatest

end Accounts

/-! ## What a cursor delivers -/

/-- What an answer delivers from the cursor at a place: a hit or the end
mark. -/
def deliveryOf (place : Nat) : ClientAction → ClientAnswer → Option (Option Hit)
  | .next cursor, .delivered (.ok hit) =>
      if cursor = place then some hit else none
  | _, _ => none

/-- All that the cursor at a place delivers during a run, in order. -/
def deliveries (client : Client) (actions : List ClientAction) (place : Nat) :
    List (Option Hit) :=
  (actions.zip (client.run actions)).filterMap fun step =>
    deliveryOf place step.1 step.2.1

section Deliveries

variable {contacts : List Contact} {past : List ClientAction}
  {latest : ClientAction} {client : Client} {place : Nat}

theorem deliveries_concat :
    deliveries client (past ++ [latest]) place =
      deliveries client past place ++
        (deliveryOf place latest
          ((client.after past).step latest).1).toList := by
  unfold deliveries
  rw [Client.run_concat, List.zip_append (by simp), List.filterMap_append]
  congr 1

theorem deliveryOf_next_of_ne {other : Nat} (hother : other ≠ place)
    (answer : ClientAnswer) :
    deliveryOf place (.next other) answer = none := by
  cases answer with
  | delivered answer => cases answer <;> simp [deliveryOf, hother]
  | _ => rfl

theorem deliveryOf_of_not_next (hnext : ∀ other, latest ≠ .next other)
    (answer : ClientAnswer) :
    deliveryOf place latest answer = none := by
  cases latest with
  | next other => exact absurd rfl (hnext other)
  | _ => rfl

/-- The hits that the search which opened the cursor at a place has found. -/
def hitsOf (contacts : List Contact) (actions : List ClientAction)
    (place : Nat) : List Hit :=
  match (opened actions)[place]? with
  | some (request, _) => (InMemory.found contacts request).map .contact
  | none => []

theorem hitsOf_concat (hinside : place < (opened past).length) :
    hitsOf contacts (past ++ [latest]) place = hitsOf contacts past place := by
  unfold hitsOf
  by_cases hsearch : ∃ request guarded, latest = .search request guarded
  · obtain ⟨request, guarded, rfl⟩ := hsearch
    rw [opened_concat_search, List.getElem?_append_left hinside]
  · rw [opened_concat_of_not_search]
    intro request guarded hlatest
    exact hsearch ⟨request, guarded, hlatest⟩

/-- An open cursor delivers what follows the hits that it was asked for
before. -/
theorem Accounts.delivery_eq (haccounts : Accounts contacts past client) :
    (deliveryOf place latest (client.step latest).1).toList =
      if latest = .next place ∧ place < (opened past).length ∧
          ¬Dropped past place ∧ ¬Released past place then
        [(hitsOf contacts past place)[asked past place]?]
      else [] := by
  by_cases hnext : latest = .next place
  · subst hnext
    cases hheld : client.cursor? place with
    | none =>
        have hdropped : place < (opened past).length → Dropped past place :=
          haccounts.dropped_of_no_cursor hheld
        rw [if_neg (fun h => h.2.2.1 (hdropped h.2.1))]
        simp [Client.step, hheld, deliveryOf]
    | some cursor =>
        obtain ⟨hundropped, request, hopened, hpending, hreleased⟩ :=
          haccounts.of_cursor? hheld
        have hinside : place < (opened past).length :=
          haccounts.lt_length_opened hheld
        by_cases hdone : cursor.released = true
        · have hpast : Released past place := hreleased.mp hdone
          simp [Client.step, hheld, HeldCursor.next_of_released hdone,
            deliveryOf, hpast]
        · have hpast : ¬Released past place := fun h => hdone (hreleased.mpr h)
          have hhead :
              cursor.pending.head? =
                (hitsOf contacts past place)[asked past place]? := by
            rw [hpending, List.head?_drop, hitsOf, hopened]
          simp [Client.step, hheld,
            HeldCursor.next_of_open (Bool.not_eq_true _ ▸ hdone), hhead,
            deliveryOf, hundropped, hpast, hinside]
  · rw [if_neg (fun h => hnext h.1)]
    by_cases hother : ∃ other, latest = .next other
    · obtain ⟨other, rfl⟩ := hother
      have hdifferent : other ≠ place := fun h => hnext (by rw [h])
      rw [deliveryOf_next_of_ne hdifferent]
      rfl
    · rw [deliveryOf_of_not_next (not_exists.mp hother)]
      rfl

/-- Over a whole run the deliveries of a cursor are the first hits of its
search, one for each time it was asked, and the end mark once they are used
up. -/
theorem deliveries_eq (hadd : ∀ contact, .add contact ∉ past) :
    deliveries (Client.ofContacts contacts) past place =
      (List.range (asked past place)).map
        ((hitsOf contacts past place)[·]?) := by
  induction past using List.reverseRecOn with
  | nil => rfl
  | append_singleton past latest ih =>
      have hpast : ∀ contact, .add contact ∉ past := by
        intro contact hmem
        exact hadd contact (List.mem_append_left _ hmem)
      rw [deliveries_concat, ih hpast, (Accounts.run hpast).delivery_eq,
        asked_concat]
      by_cases hinside : place < (opened past).length
      · rw [hitsOf_concat hinside]
        split
        · rw [List.range_succ, List.map_append]
          rfl
        · rw [List.append_nil, Nat.add_zero]
      · rw [asked_of_unopened (Nat.not_lt.mp hinside)]
        simp [hinside]

end Deliveries

section Released

variable {contacts : List Contact} {past : List ClientAction} {client : Client}
  {place : Nat}

/-- A released cursor that is still held is a bare one. -/
theorem Accounts.exists_bare_of_released
    (haccounts : Accounts contacts past client)
    (hreleased : Released past place) (hundropped : ¬Dropped past place) :
    ∃ cursor, client.cursor? place = some cursor ∧ cursor.guarded = false ∧
      cursor.released = true := by
  cases hheld : client.cursor? place with
  | none =>
      exact absurd
        (haccounts.dropped_of_no_cursor hheld (lt_length_of_released hreleased))
        hundropped
  | some cursor =>
      obtain ⟨-, -, -, -, hdone⟩ := haccounts.of_cursor? hheld
      refine ⟨cursor, rfl, ?_, hdone.mpr hreleased⟩
      by_contra hguarded
      have hguard : guard? past place = some true := by
        rw [haccounts.guard?_of_cursor? hheld,
          Bool.eq_true_of_not_eq_false hguarded]
      exact hundropped ((released_iff_dropped hguard).mp hreleased)

theorem Accounts.next_of_released (haccounts : Accounts contacts past client)
    (hreleased : Released past place) (hundropped : ¬Dropped past place) :
    client.step (.next place) =
      (.delivered (.error (.search "results already released")), client) := by
  obtain ⟨cursor, hheld, -, hdone⟩ :=
    haccounts.exists_bare_of_released hreleased hundropped
  simp [Client.step, hheld, HeldCursor.next_of_released hdone,
    Client.replace_cursor_self hheld]

theorem Accounts.release_of_released (haccounts : Accounts contacts past client)
    (hreleased : Released past place) (hundropped : ¬Dropped past place) :
    client.step (.release place) = (.released, client) := by
  obtain ⟨cursor, hheld, hbare, hdone⟩ :=
    haccounts.exists_bare_of_released hreleased hundropped
  have hsame : cursor.release = cursor := by
    simp [HeldCursor.release, ← hdone]
  simp [Client.step, hheld, hbare, hsame, HeldCursor.releaseChange, hdone,
    Client.replace_cursor_self hheld]

/-- To drop a bare cursor takes it out of the client's hands and does nothing
else. -/
theorem Accounts.drop_of_bare (haccounts : Accounts contacts past client)
    (hbare : guard? past place = some false) :
    (client.step (.drop place)).2.contacts = client.contacts ∧
      (client.step (.drop place)).2.openSessions = client.openSessions ∧
      ∀ other, other ≠ place →
        (client.step (.drop place)).2.cursor? other = client.cursor? other := by
  cases hheld : client.cursor? place with
  | none => simp [Client.step, hheld]
  | some cursor =>
      have hunguarded : cursor.guarded = false := by
        rw [haccounts.guard?_of_cursor? hheld] at hbare
        exact Option.some.inj hbare
      simp only [Client.step, hheld, HeldCursor.dropChange, hunguarded,
        Bool.false_eq_true, if_false]
      refine ⟨rfl, ?_, ?_⟩
      · simp [Client.replace]
      · intro other hother
        exact Client.cursor?_replace_of_ne _ _ _ hother

end Released

/-- Cursors are accounted for along every run of a client, however the actions
on them are interleaved: after each step the count is the number of cursors
opened and not yet released, a released cursor answers with an error and is not
released again, dropping a bare cursor touches nothing else, and each cursor has
delivered the first hits of its own search. -/
theorem cursors_accounted_along_run (contacts : List Contact)
    (actions : List ClientAction) (hadd : ∀ contact, .add contact ∉ actions) :
    (∀ moment answer client,
      ((Client.ofContacts contacts).run actions)[moment]? =
        some (answer, client) →
        client.openSessions =
          ((openCursors (actions.take (moment + 1))).card : Int) ∧
          0 ≤ client.openSessions ∧
          (∀ place, Released (actions.take (moment + 1)) place →
            ¬Dropped (actions.take (moment + 1)) place →
              client.step (.next place) =
                  (.delivered (.error (.search "results already released")),
                    client) ∧
                client.step (.release place) = (.released, client)) ∧
          ∀ place, guard? (actions.take (moment + 1)) place = some false →
            (client.step (.drop place)).2.contacts = client.contacts ∧
              (client.step (.drop place)).2.openSessions = client.openSessions ∧
              ∀ other, other ≠ place →
                (client.step (.drop place)).2.cursor? other =
                  client.cursor? other) ∧
      ∀ place request guarded,
        (opened actions)[place]? = some (request, guarded) →
        deliveries (Client.ofContacts contacts) actions place =
          (List.range (asked actions place)).map
            (((InMemory.found contacts request).map Hit.contact)[·]?) := by
  constructor
  · intro moment answer client hstep
    have hpast : ∀ contact, .add contact ∉ actions.take (moment + 1) := by
      intro contact hmem
      exact hadd contact (List.mem_of_mem_take hmem)
    have haccounts : Accounts contacts (actions.take (moment + 1)) client := by
      rw [Client.eq_after_of_getElem? hstep]
      exact Accounts.run hpast
    refine ⟨haccounts.openSessions_eq, ?_, ?_, ?_⟩
    · rw [haccounts.openSessions_eq]
      exact Int.natCast_nonneg _
    · intro place hreleased hundropped
      exact ⟨haccounts.next_of_released hreleased hundropped,
        haccounts.release_of_released hreleased hundropped⟩
    · intro place hbare
      exact haccounts.drop_of_bare hbare
  · intro place request guarded hopened
    rw [deliveries_eq hadd, hitsOf, hopened]

def everyone : SearchRequest := ⟨"user", ⟨true, []⟩, [.contact], .unsorted, 100⟩

/-- Asks a bare and a guarded cursor in turn, the first one until it is used up.
The bare one is released twice, asked once more and dropped. -/
def twoCursors : List ClientAction :=
  [.search everyone false, .next 0, .search everyone true, .next 1, .next 0,
    .next 0, .release 0, .release 0, .next 0, .drop 1]

def twoContacts : List Contact := [.ofId 1 7, .ofId 2 7]

/-- The two cursors do not disturb each other, and none is left open. -/
theorem twoCursors_accounted :
    deliveries (Client.ofContacts twoContacts) twoCursors 0 =
        [some (.contact (.ofId 1 7)), some (.contact (.ofId 2 7)), none] ∧
      deliveries (Client.ofContacts twoContacts) twoCursors 1 =
        [some (.contact (.ofId 1 7))] ∧
      ∃ answer client,
        ((Client.ofContacts twoContacts).run twoCursors)[9]? =
          some (answer, client) ∧
          client.openSessions = 0 ∧
          client.step (.next 0) =
            (.delivered (.error (.search "results already released")), client) ∧
          (client.step (.drop 0)).2.openSessions = 0 := by
  have hadd : ∀ contact, .add contact ∉ twoCursors := by
    simp [twoCursors]
  have hfound : InMemory.found twoContacts everyone = twoContacts := by
    simp [InMemory.found, everyone, SortOrder.sort_unsorted, Contact.satisfies,
      twoContacts]
  obtain ⟨hsteps, hdeliveries⟩ :=
    cursors_accounted_along_run twoContacts twoCursors hadd
  obtain ⟨⟨answer, client⟩, hlast⟩ :
      ∃ step,
        ((Client.ofContacts twoContacts).run twoCursors)[9]? = some step :=
    ⟨_, Client.run_getElem? 9 (by decide)⟩
  obtain ⟨hcount, -, hreleased, hbare⟩ := hsteps 9 answer client hlast
  have hnone : client.openSessions = 0 := by
    have hempty : openCursors (twoCursors.take (9 + 1)) = ∅ := by decide +kernel
    rw [hcount, hempty]
    rfl
  have hnext := (hreleased 0 (by decide +kernel) (by decide +kernel)).1
  have hdrop : (client.step (.drop 0)).2.openSessions = 0 := by
    rw [(hbare 0 (by decide +kernel)).2.1, hnone]
  have hfirst : deliveries (Client.ofContacts twoContacts) twoCursors 0 =
      [some (.contact (.ofId 1 7)), some (.contact (.ofId 2 7)), none] := by
    have hasked : asked twoCursors 0 = 3 := by decide +kernel
    rw [hdeliveries 0 everyone false rfl, hasked, hfound]
    rfl
  have hsecond : deliveries (Client.ofContacts twoContacts) twoCursors 1 =
      [some (.contact (.ofId 1 7))] := by
    have hasked : asked twoCursors 1 = 1 := by decide +kernel
    rw [hdeliveries 1 everyone true rfl, hasked, hfound]
    rfl
  exact ⟨hfirst, hsecond, answer, client, hlast, hnone, hnext, hdrop⟩

end AddressBook

import AddressBook.Evaluation.Basic
import AddressBook.Mailbox.Faults
import AddressBook.Mailbox.InMemory
import Mathlib.Algebra.Order.BigOperators.Group.List
import Mathlib.Algebra.Order.Group.Nat
import Mathlib.Data.List.Induction
import Mathlib.Tactic.Common

/-!
# Listing a folder page by page

Whatever a mailbox answers, the paging loop asks for pages that follow one
another without gap or overlap and chooses from what it has read (`Listing`).
If the pages are pieces of a sorted folder, which may run over the limit by a
fixed number of contacts, it reads enough of it.  A failing page is the only way
in which the loop fails.
-/

namespace AddressBook

open InMemory (folder)

namespace Mailbox

/-- Every page is a piece of the sorted folder: it starts where it was asked to
start, and runs over the limit by at most `extra`. -/
def PagesOf (mailbox : Mailbox) (contacts : List Contact) (extra : Nat) :
    Prop :=
  ∀ request page, mailbox.page request = .ok page →
    page =
      ((folder contacts request.folder request.sort).drop request.offset).take
        (request.limit + extra)

theorem pagesOf_inMemory (contacts : List Contact) :
    (InMemory.mailbox contacts).PagesOf contacts 0 := by
  intro request page hpage
  simp only [InMemory.mailbox, Except.ok.injEq] at hpage
  rw [← hpage]
  rfl

theorem pagesOf_withFaults (contacts : List Contact) (faults : Faults) :
    ((InMemory.mailbox contacts).withFaults faults).PagesOf contacts
      faults.pageExtra := by
  intro request page hpage
  unfold withFaults at hpage
  simp only at hpage
  split at hpage
  next => cases hpage
  next =>
    simp only [InMemory.mailbox, Except.ok.injEq] at hpage
    rw [← hpage]
    rfl

/-! ## A run of the loop -/

/-- How a listing went.  The pages `earlier` were answered, each asked for where
the one before it ended, and after each of them more was wanted: it was full,
and too few contacts had been found.  The page after them was the last one asked
for.  If it failed so did the listing, and otherwise it was short or brought
enough. -/
structure Listing (mailbox : Mailbox) (keep : Contact → Bool)
    (request : PageRequest) (found : List Contact)
    (earlier : List (List Contact))
    (listing : Traced Step (Except BackendError (List Contact))) : Prop where
  trace_eq : listing.trace =
    ((earlier.map List.length).scanl (· + ·) request.offset).map fun offset =>
      .call (.page { request with offset := offset })
  answered : ∀ before page after, earlier = before ++ page :: after →
    mailbox.page
        { request with offset := request.offset + before.flatten.length } =
      .ok page
  wanted : ∀ before page after, earlier = before ++ page :: after →
    request.limit ≤ page.length ∧
      (found ++ (before.flatten ++ page).filter keep).length < request.limit
  value_eq : listing.value =
    (mailbox.page
      { request with offset := request.offset + earlier.flatten.length }).map
      fun last =>
        (found ++ (earlier.flatten ++ last).filter keep).take request.limit
  stopped : ∀ last,
    mailbox.page
        { request with offset := request.offset + earlier.flatten.length } =
      .ok last →
    last.length < request.limit ∨
      request.limit ≤ (found ++ (earlier.flatten ++ last).filter keep).length

section Runs

variable {mailbox : Mailbox} {keep : Contact → Bool} {request : PageRequest}
  {found : List Contact} {earlier : List (List Contact)}
  {listing : Traced Step (Except BackendError (List Contact))}

theorem Listing.callsOf_trace
    (hlisting : Listing mailbox keep request found earlier listing) :
    callsOf listing.trace =
      ((earlier.map List.length).scanl (· + ·) request.offset).map
        fun offset => .page { request with offset := offset } := by
  rw [hlisting.trace_eq, callsOf_map_call]

theorem Listing.eventsOf_trace
    (hlisting : Listing mailbox keep request found earlier listing) :
    eventsOf listing.trace = [] := by
  rw [hlisting.trace_eq, eventsOf_map_call]

theorem Listing.ofLast
    (hvalue : listing.value = (mailbox.page request).map fun last =>
      (found ++ last.filter keep).take request.limit)
    (htrace : listing.trace = [.call (.page request)])
    (hstopped : ∀ last, mailbox.page request = .ok last →
      last.length < request.limit ∨
        request.limit ≤ (found ++ last.filter keep).length) :
    Listing mailbox keep request found [] listing := by
  constructor
  · exact htrace
  · simp
  · simp
  · exact hvalue
  · exact hstopped

theorem Listing.afterPage {page : List Contact}
    (hpage : mailbox.page request = .ok page)
    (hfull : request.limit ≤ page.length)
    (hmore : (found ++ page.filter keep).length < request.limit)
    (hrest :
      Listing mailbox keep
        { request with offset := request.offset + page.length }
        (found ++ page.filter keep) earlier listing) :
    Listing mailbox keep request found (page :: earlier)
      ⟨listing.value, .call (.page request) :: listing.trace⟩ := by
  obtain ⟨htrace, hanswered, hwanted, hvalue, hstopped⟩ := hrest
  simp only [Nat.add_assoc, List.append_assoc, ← List.filter_append]
    at hanswered hwanted hvalue hstopped
  constructor
  · simp [htrace]
  · intro before next after hsplit
    rcases List.cons_eq_append_iff.mp hsplit with
      ⟨rfl, hhead⟩ | ⟨others, rfl, htail⟩
    · rw [(List.cons.inj hhead).1]
      exact hpage
    · simpa using hanswered others next after htail
  · intro before next after hsplit
    rcases List.cons_eq_append_iff.mp hsplit with
      ⟨rfl, hhead⟩ | ⟨others, rfl, htail⟩
    · rw [(List.cons.inj hhead).1]
      exact ⟨hfull, hmore⟩
    · simpa using hwanted others next after htail
  · simpa using hvalue
  · simpa using hstopped

theorem exists_listing_listFrom :
    ∃ earlier, Listing mailbox keep request found earlier
      (mailbox.listFrom keep request found) := by
  fun_induction Mailbox.listFrom mailbox keep request found with
  | case1 request found error hpage =>
      refine ⟨[], .ofLast ?_ rfl ?_⟩
      · rw [hpage]
        rfl
      · simp [hpage]
  | case2 request found page hpage taken henough =>
      refine ⟨[], .ofLast ?_ rfl ?_⟩
      · rw [hpage]
        rfl
      · intro last hlast
        rw [← Except.ok.inj (hpage.symm.trans hlast)]
        apply henough.imp_right
        intro hfull
        rw [List.length_take] at hfull
        omega
  | case3 request found page hpage taken hmore hfull hinside rest ih =>
      obtain ⟨earlier, hearlier⟩ := ih
      have hlength :
          taken.length = min request.limit (found ++ page.filter keep).length :=
        List.length_take
      have htaken : taken = found ++ page.filter keep := by
        apply List.take_of_length_le
        omega
      refine ⟨page :: earlier, .afterPage hpage ?_ ?_ (htaken ▸ hearlier)⟩
      · omega
      · omega

/-- The offsets asked for are those where a beginning of the pages ends. -/
theorem mem_scanl_length {pages : List (List Contact)} {start offset : Nat} :
    offset ∈ (pages.map List.length).scanl (· + ·) start ↔
      ∃ before after, pages = before ++ after ∧
        offset = start + before.flatten.length := by
  induction pages generalizing start with
  | nil =>
      rw [List.map_nil, List.scanl_nil, List.mem_singleton]
      constructor
      · intro hoffset
        exact ⟨[], [], rfl, hoffset⟩
      · rintro ⟨before, after, hsplit, hoffset⟩
        rw [hoffset, (List.nil_eq_append_iff.mp hsplit).1]
        rfl
  | cons page rest ih =>
      rw [List.map_cons, List.scanl_cons, List.mem_cons, ih]
      constructor
      · rintro (hoffset | ⟨before, after, rfl, hoffset⟩)
        · exact ⟨[], page :: rest, rfl, hoffset⟩
        · exact ⟨page :: before, after, rfl, by
            simpa [Nat.add_assoc] using hoffset⟩
      · rintro ⟨before, after, hsplit, hoffset⟩
        rcases List.cons_eq_append_iff.mp hsplit with
          ⟨rfl, -⟩ | ⟨others, rfl, htail⟩
        · exact .inl hoffset
        · exact .inr
            ⟨others, after, htail, by simpa [Nat.add_assoc] using hoffset⟩

theorem Listing.call_mem_trace_iff
    (hlisting : Listing mailbox keep request found earlier listing)
    {offset : Nat} :
    .call (.page { request with offset := offset }) ∈ listing.trace ↔
      ∃ before after, earlier = before ++ after ∧
        offset = request.offset + before.flatten.length := by
  rw [hlisting.trace_eq, ← mem_scanl_length]
  simp

/-- The listing fails when a page does, and with its failure. -/
theorem Listing.value_error_iff
    (hlisting : Listing mailbox keep request found earlier listing)
    {error : BackendError} :
    listing.value = .error error ↔
      ∃ offset,
        .call (.page { request with offset := offset }) ∈ listing.trace ∧
        mailbox.page { request with offset := offset } = .error error := by
  constructor
  · intro hvalue
    have hlast := hlisting.value_eq.symm.trans hvalue
    refine ⟨request.offset + earlier.flatten.length, ?_, ?_⟩
    · rw [hlisting.call_mem_trace_iff]
      exact ⟨earlier, [], (List.append_nil _).symm, rfl⟩
    · cases hpage : mailbox.page
          { request with
            offset := request.offset + earlier.flatten.length } with
      | ok last =>
          rw [hpage] at hlast
          cases hlast
      | error other =>
          rw [hpage] at hlast
          exact hlast
  · rintro ⟨offset, hcall, hfailed⟩
    obtain ⟨before, after, hsplit, rfl⟩ := hlisting.call_mem_trace_iff.mp hcall
    cases after with
    | nil =>
        rw [List.append_nil] at hsplit
        rw [hlisting.value_eq, hsplit, hfailed]
        rfl
    | cons page after =>
        -- a page before the last one was answered
        cases hfailed.symm.trans (hlisting.answered before page after hsplit)

/-- Every earlier page was full, so there are no more of them than fit into the
contacts passed; with a limit of nothing there is none. -/
theorem Listing.length_earlier_le
    (hlisting : Listing mailbox keep request found earlier listing) :
    earlier.length ≤ earlier.flatten.length / request.limit := by
  cases earlier with
  | nil => exact Nat.zero_le _
  | cons first rest =>
      have hmore := (hlisting.wanted [] first rest rfl).2
      have hlimit : 0 < request.limit := by omega
      have hfull :
          ∀ length ∈ (first :: rest).map List.length,
            request.limit ≤ length := by
        intro length hlength
        obtain ⟨page, hpage, rfl⟩ := List.mem_map.mp hlength
        obtain ⟨before, after, hsplit⟩ := List.append_of_mem hpage
        exact (hlisting.wanted before page after hsplit).1
      rw [Nat.le_div_iff_mul_le hlimit, List.length_flatten]
      simpa using List.card_nsmul_le_sum _ request.limit hfull

end Runs

/-! ## Pages that are pieces of one list -/

/-- Every page that answers the request, from whichever offset, is the piece of
the list that starts there, and runs over the limit by at most `extra`. -/
def ServesPieces (mailbox : Mailbox) (request : PageRequest)
    (sorted : List Contact) (extra : Nat) : Prop :=
  ∀ offset page, mailbox.page { request with offset := offset } = .ok page →
    page = (sorted.drop offset).take (request.limit + extra)

theorem PagesOf.servesPieces {mailbox : Mailbox} {contacts : List Contact}
    {extra : Nat} (hpages : mailbox.PagesOf contacts extra)
    (request : PageRequest) :
    mailbox.ServesPieces request (folder contacts request.folder request.sort)
      extra := by
  intro offset page hpage
  exact hpages _ page hpage

section Pieces

variable {mailbox : Mailbox} {keep : Contact → Bool} {request : PageRequest}
  {sorted found : List Contact} {extra : Nat} {earlier : List (List Contact)}
  {listing : Traced Step (Except BackendError (List Contact))}

/-- A page and what is left of the list after it. -/
theorem ServesPieces.split {offset : Nat} {page : List Contact}
    (hpieces : mailbox.ServesPieces request sorted extra)
    (hpage : mailbox.page { request with offset := offset } = .ok page) :
    sorted.drop offset = page ++ sorted.drop (offset + page.length) ∧
      (page.length < request.limit →
        sorted.drop (offset + page.length) = []) := by
  have hcut := hpieces offset page hpage
  have hlength := congrArg List.length hcut
  rw [List.length_take, List.length_drop] at hlength
  constructor
  · rw [← List.drop_drop]
    have hprefix : page <+: sorted.drop offset := hcut ▸ List.take_prefix _ _
    exact (List.prefix_iff_eq_append.mp hprefix).symm
  · intro hshort
    rw [List.drop_eq_nil_iff]
    omega

/-- The pages read so far and what is left of the list after them. -/
theorem Listing.split
    (hlisting : Listing mailbox keep request found earlier listing)
    (hpieces : mailbox.ServesPieces request sorted extra) :
    ∀ before after, earlier = before ++ after →
      sorted.drop request.offset =
        before.flatten ++
          sorted.drop (request.offset + before.flatten.length) := by
  intro before
  induction before using List.reverseRecOn with
  | nil => simp
  | append_singleton before page ih =>
      intro after hsplit
      rw [List.append_assoc, List.singleton_append] at hsplit
      have hpage :=
        (hpieces.split (hlisting.answered before page after hsplit)).1
      rw [ih _ hsplit, hpage]
      simp [Nat.add_assoc]

theorem Listing.earlier_prefix
    (hlisting : Listing mailbox keep request found earlier listing)
    (hpieces : mailbox.ServesPieces request sorted extra) :
    earlier.flatten <+: sorted.drop request.offset := by
  rw [hlisting.split hpieces earlier [] (List.append_nil earlier).symm]
  exact List.prefix_append _ _

theorem Listing.last_prefix
    (hlisting : Listing mailbox keep request found earlier listing)
    (hpieces : mailbox.ServesPieces request sorted extra) {last : List Contact}
    (hlast :
      mailbox.page
          { request with offset := request.offset + earlier.flatten.length } =
        .ok last) :
    earlier.flatten ++ last <+: sorted.drop request.offset := by
  rw [hlisting.split hpieces earlier [] (List.append_nil earlier).symm,
    (hpieces.split hlast).1]
  exact (List.prefix_append_right_inj _).mpr (List.prefix_append _ _)

/-- Unless the last page failed, the listing brings what it would find in the
whole rest of the list. -/
theorem Listing.value_of_pieces
    (hlisting : Listing mailbox keep request found earlier listing)
    (hpieces : mailbox.ServesPieces request sorted extra) :
    listing.value =
      (mailbox.page
        { request with offset := request.offset + earlier.flatten.length }).map
        fun _ =>
          (found ++ (sorted.drop request.offset).filter keep).take
            request.limit := by
  rw [hlisting.value_eq]
  cases hpage : mailbox.page
      { request with offset := request.offset + earlier.flatten.length } with
  | error error => rfl
  | ok last =>
      obtain ⟨hlast, hend⟩ := hpieces.split hpage
      have hread :=
        hlisting.split hpieces earlier [] (List.append_nil earlier).symm
      rw [hlast, ← List.append_assoc] at hread
      rcases hlisting.stopped last hpage with hshort | henough
      · rw [hread, hend hshort, List.append_nil]
        rfl
      · rw [hread, List.filter_append, ← List.append_assoc]
        simp only [Except.map, List.take_append_of_le_length henough]

end Pieces

section Folders

variable {mailbox : Mailbox} {contacts sorted : List Contact} {extra : Nat}
  {keep : Contact → Bool} {request : PageRequest} {result : List Contact}

theorem listFolder_answers_or_fails
    (hpieces : mailbox.ServesPieces request sorted extra) :
    (mailbox.listFolder keep request).value =
      .ok ((sorted.filter keep).take request.limit) ∨
      ∃ offset error,
        mailbox.page { request with offset := offset } = .error error ∧
        (mailbox.listFolder keep request).value = .error error := by
  obtain ⟨earlier, hlisting⟩ :
      ∃ earlier, Listing mailbox keep { request with offset := 0 } []
        earlier (mailbox.listFolder keep request) := exists_listing_listFrom
  have hvalue := hlisting.value_of_pieces hpieces
  cases hlast :
      mailbox.page { request with offset := 0 + earlier.flatten.length } with
  | error error =>
      right
      exact ⟨_, error, hlast, hvalue.trans (congrArg (Except.map _) hlast)⟩
  | ok last =>
      left
      exact hvalue.trans (congrArg (Except.map _) hlast)

/-- A listing that comes to its end brings the first contacts of the folder that
pass the test. -/
theorem listFolder_value_of_ok (hpages : mailbox.PagesOf contacts extra)
    (hresult : (mailbox.listFolder keep request).value = .ok result) :
    result =
      ((folder contacts request.folder request.sort).filter keep).take
        request.limit := by
  rcases listFolder_answers_or_fails (hpages.servesPieces request) with
    hanswer | ⟨_, _, -, hfailure⟩
  · exact Except.ok.inj (hresult.symm.trans hanswer)
  · cases hresult.symm.trans hfailure

theorem listFolder_inMemory :
    ((InMemory.mailbox contacts).listFolder keep request).value =
      .ok (((folder contacts request.folder request.sort).filter keep).take
        request.limit) := by
  rcases listFolder_answers_or_fails
    ((pagesOf_inMemory contacts).servesPieces request) with
    hanswer | ⟨_, _, hpage, -⟩
  · exact hanswer
  · cases hpage

end Folders

end Mailbox
end AddressBook

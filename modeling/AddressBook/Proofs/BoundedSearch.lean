import AddressBook.Proofs.StorageOrder

/-!
# The top of a search

A search with a limit brings the first contacts, in its order, of all that
match.  Nothing that the limit cuts off stands before anything that was brought,
and contacts that the order does not tell apart stay as they are stored
(`SortOrder.isTop_take_sort`).  Sorting keeps them so because it commutes with
leaving out all the others.
-/

namespace AddressBook

namespace Contact

variable {a b : Contact}

/-- Whether the contacts agree in all that an order looks at. -/
def tied (a b : Contact) : Bool :=
  a.sortName == b.sortName && a.id == b.id

theorem tied_iff : a.tied b = true ↔ a.sortName = b.sortName ∧ a.id = b.id := by
  simp [tied]

theorem le_of_tied (htied : a.tied b = true) : a.le b = true := by
  obtain ⟨hname, hid⟩ := tied_iff.mp htied
  exact le_iff.mpr (.inr ⟨hname, hid ▸ UInt32.le_refl a.id⟩)

theorem tied_symm (htied : a.tied b = true) : b.tied a = true := by
  obtain ⟨hname, hid⟩ := tied_iff.mp htied
  exact tied_iff.mpr ⟨hname.symm, hid.symm⟩

theorem tied_of_tied {c : Contact} (ha : c.tied a = true)
    (hb : c.tied b = true) :
    a.tied b = true := by
  rw [tied_iff] at ha hb ⊢
  exact ⟨ha.1.symm.trans hb.1, ha.2.symm.trans hb.2⟩

theorem precedes_or_tied_of_le (hle : a.le b = true) :
    a.Precedes b ∨ a.tied b = true := by
  by_cases hid : a.id = b.id
  · rcases le_iff.mp hle with hname | ⟨hname, -⟩
    · exact .inl (.inl hname)
    · exact .inr (tied_iff.mpr ⟨hname, hid⟩)
  · exact .inl (precedes_of_le hle hid)

theorem not_precedes_of_le (hle : a.le b = true) : ¬b.Precedes a := by
  rintro (hname | ⟨hname, hid⟩)
  · rcases le_iff.mp hle with hbefore | ⟨hsame, -⟩
    · exact String.lt_asymm hbefore hname
    · exact String.lt_irrefl _ (hsame ▸ hname)
  · rcases le_iff.mp hle with hbefore | ⟨-, hle⟩
    · exact String.lt_irrefl _ (hname ▸ hbefore)
    · exact UInt32.not_lt.mpr hle hid

/-- Some term names an attribute with a value, which contains the pattern once
both are lower-cased. -/
def HoldsSome (contact : Contact) (terms : List QueryTerm) : Prop :=
  ∃ term ∈ terms, ∃ value, contact.attributes.get? term.key = some value ∧
    value ≠ "" ∧
    (Text.lower term.pattern).toList <:+: (Text.lower value).toList

theorem holds_iff {contact : Contact} {term : QueryTerm} :
    contact.holds term = true ↔
      ∃ value, contact.attributes.get? term.key = some value ∧ value ≠ "" ∧
        (Text.lower term.pattern).toList <:+: (Text.lower value).toList := by
  have hvalue : Record.value? contact term.key =
      (contact.attributes.get? term.key).filter (· ≠ "") := rfl
  unfold holds
  rw [hvalue]
  cases contact.attributes.get? term.key with
  | none => simp
  | some value =>
      by_cases hblank : value = ""
      · simp [Option.filter, hblank]
      · simp [Option.filter, hblank, Text.contains_iff]

/-- A contact matches if its holding some term differs from the negation of the
query. -/
theorem satisfies_iff {contact : Contact} {query : Query} :
    contact.satisfies query = true ↔
      (contact.HoldsSome query.terms ↔ query.negated = false) := by
  have hany : query.terms.any contact.holds = true ↔
      contact.HoldsSome query.terms := by
    simp only [List.any_eq_true, holds_iff, HoldsSome]
  unfold satisfies
  rw [← hany]
  cases query.terms.any contact.holds <;> cases query.negated <;> simp

end Contact

namespace SortOrder

variable {order : SortOrder} {a b : Contact}

theorem allows_of_tied (htied : a.tied b = true) : order.allows a b = true := by
  cases order with
  | nameAscending => exact Contact.le_of_tied htied
  | nameDescending => exact Contact.le_of_tied (Contact.tied_symm htied)
  | unsorted => rfl

theorem strictly_or_tied_of_allows (hordered : order ≠ .unsorted)
    (hallows : order.allows a b = true) :
    order.Strictly a b ∨ a.tied b = true := by
  cases order with
  | nameAscending => exact Contact.precedes_or_tied_of_le hallows
  | nameDescending =>
      exact (Contact.precedes_or_tied_of_le hallows).imp_right Contact.tied_symm
  | unsorted => exact absurd rfl hordered

theorem not_strictly_of_allows (hallows : order.allows a b = true) :
    ¬order.Strictly b a := by
  cases order with
  | nameAscending => exact Contact.not_precedes_of_le hallows
  | nameDescending => exact Contact.not_precedes_of_le hallows
  | unsorted => exact id

/-- Sorting leaves contacts that are tied with one another as they are
stored. -/
theorem filter_tied_sort (order : SortOrder) (contact : Contact)
    (contacts : List Contact) :
    (order.sort contacts).filter contact.tied =
      contacts.filter contact.tied := by
  rw [sort_filter]
  apply sort_of_sorted
  apply List.pairwise_of_forall_mem_list
  intro a ha b hb
  have haTied : contact.tied a = true := (List.mem_filter.mp ha).2
  have hbTied : contact.tied b = true := (List.mem_filter.mp hb).2
  exact allows_of_tied (Contact.tied_of_tied haTied hbTied)

/-- The delivered contacts are the first in the order among those that match, as
many as the limit admits. -/
structure IsTop (order : SortOrder) (limit : Nat)
    (matching delivered : List Contact) : Prop where
  length_eq : delivered.length = min limit matching.length
  rest_not_before : ∃ omitted, (delivered ++ omitted).Perm matching ∧
    ∀ left ∈ omitted, ∀ hit ∈ delivered, ¬order.Strictly left hit
  in_order : order ≠ .unsorted →
    delivered.Pairwise fun a b => order.Strictly a b ∨ a.tied b = true
  ties_as_stored : ∀ contact : Contact,
    delivered.filter contact.tied <+: matching.filter contact.tied
  first_stored : order = .unsorted → delivered = matching.take limit

theorem isTop_take_sort (order : SortOrder) (limit : Nat)
    (matching : List Contact) :
    order.IsTop limit matching ((order.sort matching).take limit) := by
  have hsorted := order.sort_sorted matching
  rw [← List.take_append_drop limit (order.sort matching),
    List.pairwise_append] at hsorted
  obtain ⟨hdelivered, -, hbefore⟩ := hsorted
  refine ⟨?_, ?_, ?_, ?_, ?_⟩
  · rw [List.length_take, length_sort]
  · refine ⟨(order.sort matching).drop limit, ?_, ?_⟩
    · rw [List.take_append_drop]
      exact order.sort_perm matching
    · intro left hleft hit hhit
      exact not_strictly_of_allows (hbefore hit hhit left hleft)
  · intro hordered
    exact hdelivered.imp (strictly_or_tied_of_allows hordered)
  · intro contact
    rw [← order.filter_tied_sort contact matching]
    exact (List.take_prefix limit _).filter _
  · rintro rfl
    rw [sort_unsorted]

end SortOrder

namespace InMemory

variable {contacts : List Contact} {request : SearchRequest}

/-- A search is never refused, and draining its cursor brings what was found. -/
theorem exists_cursor_drain (contacts : List Contact)
    (request : SearchRequest) :
    ∃ cursor, (mailbox contacts).search request = .ok cursor ∧
      cursor.drain.1 = .ok ((found contacts request).map .contact) := by
  refine ⟨⟨(found contacts request).map .contact, none, none⟩, rfl, ?_⟩
  rw [Cursor.drain_eq]
  rfl

theorem filter_satisfies_of_no_terms {query : Query} (hterms : query.terms = [])
    (contacts : List Contact) :
    contacts.filter (·.satisfies query) =
      if query.negated then contacts else [] := by
  cases hnegated : query.negated <;> simp [Contact.satisfies, hterms, hnegated]

theorem count_found_le (contacts : List Contact) (request : SearchRequest)
    (contact : Contact) :
    (found contacts request).count contact ≤ contacts.count contact :=
  calc
    (found contacts request).count contact
        ≤ (request.sort.sort contacts).count contact :=
          (found_sublist request).count_le contact
    _ = contacts.count contact :=
      (request.sort.sort_perm contacts).count_eq contact

/-- What a search for contacts delivers is the top of those that match, each no
more often than it is stored.  Which ones match depends on the terms and the
negation of the query alone. -/
theorem search_delivers_top (contacts : List Contact) (request : SearchRequest)
    (htypes : .contact ∈ request.types) :
    (∃ cursor, (mailbox contacts).search request = .ok cursor ∧
      cursor.drain.1 = .ok ((found contacts request).map .contact) ∧
      request.sort.IsTop request.limit
        (contacts.filter (·.satisfies request.query))
        (found contacts request) ∧
      (∀ contact ∈ found contacts request,
        contact ∈ contacts ∧ contact.satisfies request.query = true) ∧
      ∀ contact,
        (found contacts request).count contact ≤ contacts.count contact) ∧
    (∀ contact : Contact, contact.satisfies request.query = true ↔
      (contact.HoldsSome request.query.terms ↔ request.query.negated = false)) ∧
    (request.query.terms = [] →
      contacts.filter (·.satisfies request.query) =
        if request.query.negated then contacts else []) := by
  refine ⟨?_, ?_, ?_⟩
  · obtain ⟨cursor, hsearch, hdrain⟩ := exists_cursor_drain contacts request
    refine ⟨cursor, hsearch, hdrain, ?_, ?_, ?_⟩
    · have hanswering : answering contacts request.types request.query =
          contacts.filter (·.satisfies request.query) := if_pos htypes
      rw [found_eq_take, hanswering]
      exact request.sort.isTop_take_sort request.limit _
    · intro contact hfound
      exact mem_of_mem_found hfound
    · exact count_found_le contacts request
  · intro contact
    exact Contact.satisfies_iff
  · intro hterms
    exact filter_satisfies_of_no_terms hterms contacts

def named (id folder : UInt32) (name : String) : Contact :=
  (Contact.ofId id folder).set "fullName" name

def oneWithN : SearchRequest :=
  ⟨"user", ⟨false, [⟨"fullName", "N"⟩]⟩, [.message, .contact],
    .nameAscending, 1⟩

/-- Nora is stored first and Otto does not match.  Of the two contacts that
share their name and their number the limit lets through the one that is stored
before the other. -/
theorem anna_delivered_first :
    .contact ∈ oneWithN.types ∧
    ∃ cursor, (mailbox [named 1 7 "Nora", named 3 8 "Anna", named 2 7 "Otto",
        named 3 9 "ANNA"]).search oneWithN = .ok cursor ∧
      cursor.drain.1 = .ok [.contact (named 3 8 "Anna")] ∧
      SortOrder.nameAscending.IsTop 1
        [named 1 7 "Nora", named 3 8 "Anna", named 3 9 "ANNA"]
        [named 3 8 "Anna"] := by
  have htypes : .contact ∈ oneWithN.types := by
    decide
  have hmatching :
      [named 1 7 "Nora", named 3 8 "Anna", named 2 7 "Otto",
          named 3 9 "ANNA"].filter (·.satisfies oneWithN.query) =
        [named 1 7 "Nora", named 3 8 "Anna", named 3 9 "ANNA"] := by
    decide +kernel
  have htwo : oneWithN.sort.sort [named 3 8 "Anna", named 3 9 "ANNA"] =
      [named 3 8 "Anna", named 3 9 "ANNA"] :=
    SortOrder.sort_of_sorted (by decide +kernel)
  have hsorted :
      oneWithN.sort.sort
          [named 1 7 "Nora", named 3 8 "Anna", named 3 9 "ANNA"] =
        [named 3 8 "Anna", named 3 9 "ANNA", named 1 7 "Nora"] := by
    rw [(oneWithN.sort.sort_cons _ _).2, htwo]
    decide +kernel
  have hfound :
      found
          [named 1 7 "Nora", named 3 8 "Anna", named 2 7 "Otto",
            named 3 9 "ANNA"]
          oneWithN =
        [named 3 8 "Anna"] := by
    unfold found
    rw [if_pos htypes, hmatching]
    dsimp only
    rw [hsorted]
    rfl
  obtain ⟨⟨cursor, hsearch, hdrain, htop, -⟩, -⟩ := search_delivers_top
    [named 1 7 "Nora", named 3 8 "Anna", named 2 7 "Otto", named 3 9 "ANNA"]
    oneWithN htypes
  rw [hfound] at hdrain htop
  rw [hmatching] at htop
  exact ⟨htypes, cursor, hsearch, hdrain, htop⟩

end InMemory
end AddressBook

import AddressBook.Proofs.FolderIsolation
import AddressBook.Proofs.SearchCoverage
import Mathlib.Data.List.Perm.Basic

/-!
# A folder shared out between two branches

A test of contacts and its negation share out a folder: every contact is brought
on one side and not on the other, in the order of the sorted folder
(`sharesOut_filter`).  With room for the whole mailbox a search and a listing
are such choices, a negated text-match chooses by the negated test, and the
empty pattern asks whether there are values at all.
-/

namespace AddressBook

/-- Every contact of a folder is brought by one of two branches and not by the
other, as often as it is stored, and both bring theirs in the order of the
sorted folder. -/
structure SharesOut (order : SortOrder) (members : List Contact)
    (first second : List AddressObject) : Prop where
  perm : (first ++ second).Perm (members.map .mk)
  disjoint : first.Disjoint second
  first_in_turn : first.Sublist ((order.sort members).map .mk)
  second_in_turn : second.Sublist ((order.sort members).map .mk)
  first_ordered :
    first.Pairwise fun a b => order.allows a.contact b.contact = true
  second_ordered :
    second.Pairwise fun a b => order.allows a.contact b.contact = true

/-! ## Choices from the sorted folder -/

/-- The contacts of the sorted folder that pass a test, as a branch brings
them. -/
def chosenBy (order : SortOrder) (members : List Contact)
    (keep : Contact → Bool) : List AddressObject :=
  ((order.sort members).filter keep).map .mk

section Choices

variable {order : SortOrder} {members : List Contact} {keep : Contact → Bool}

theorem chosenBy_sublist :
    (chosenBy order members keep).Sublist ((order.sort members).map .mk) :=
  List.filter_sublist.map _

theorem chosenBy_ordered :
    (chosenBy order members keep).Pairwise fun a b =>
      order.allows a.contact b.contact = true := by
  unfold chosenBy
  rw [List.pairwise_map]
  exact (order.sort_sorted members).filter keep

theorem keep_of_mem_chosenBy {object : AddressObject}
    (hobject : object ∈ chosenBy order members keep) :
    keep object.contact = true := by
  obtain ⟨contact, hcontact, rfl⟩ := List.mem_map.mp hobject
  exact (List.mem_filter.mp hcontact).2

theorem sharesOut_filter (order : SortOrder) (members : List Contact)
    (keep : Contact → Bool) :
    SharesOut order members (chosenBy order members keep)
      (chosenBy order members fun contact => !keep contact) := by
  refine ⟨?_, ?_, chosenBy_sublist, chosenBy_sublist, chosenBy_ordered,
    chosenBy_ordered⟩
  · have hsides : ((order.sort members).filter keep ++
        (order.sort members).filter fun contact => !keep contact).Perm
          members :=
      (List.filter_append_perm keep _).trans (order.sort_perm members)
    unfold chosenBy
    rw [← List.map_append]
    exact hsides.map _
  · intro object hfirst hsecond
    have hkept := keep_of_mem_chosenBy hfirst
    have hdropped := keep_of_mem_chosenBy hsecond
    rw [hkept] at hdropped
    cases hdropped

end Choices

namespace Evaluator

variable {evaluator : Evaluator} {contacts : List Contact} {user : String}
  {folder : UInt32}

theorem value_search_of_room {t : TextMatch} {query : Query}
    (hquery : evaluator.table.compileTextMatch t = some query)
    (htypes : ItemType.contact ∈ evaluator.config.targetTypes)
    (hlimit : contacts.length ≤ evaluator.config.maxResults) :
    (evaluator.search t ⟨user, some (InMemory.mailbox contacts)⟩ folder).value =
      chosenBy evaluator.config.sort (contacts.filter (·.folder == folder))
        (·.satisfies query) := by
  have hall : InMemory.found contacts (evaluator.searchRequest ⟨user⟩ query) =
      evaluator.config.sort.sort (contacts.filter (·.satisfies query)) :=
    InMemory.found_eq_sort htypes hlimit
  unfold chosenBy
  rw [value_search_inMemory hquery, hall, SortOrder.sort_filter,
    SortOrder.sort_filter, List.filter_filter, List.filter_filter]
  simp only [Bool.and_comm]

end Evaluator

/-! ## Negation -/

theorem Contact.satisfies_complement (contact : Contact) (query : Query) :
    contact.satisfies query.complement = !contact.satisfies query := by
  unfold Contact.satisfies Query.complement
  cases query.terms.any contact.holds <;> cases query.negated <;> rfl

theorem Query.text_complement {query : Query} (hplain : query.negated = false) :
    query.complement.text = '!' :: query.text := by
  simp [Query.text, Query.complement, hplain]

theorem Query.render_complement {query : Query}
    (hplain : query.negated = false) :
    query.complement.render = "!" ++ query.render := by
  unfold Query.render
  rw [Query.text_complement hplain, ← String.toList_inj]
  simp

namespace PropertyTable

variable {table : PropertyTable} {t : TextMatch} {property : String}
  {mapping : Mapping}

theorem compile_negate (negate : Bool) :
    table.compile { t with negate := negate } property =
      (table.compile t property).map fun query =>
        { query with negated := negate } := by
  unfold compile
  cases table.keysOf property with
  | nil => rfl
  | cons key rest => rfl

/-- A text-match on a mapped property and its negation are compiled to
complementary queries. -/
theorem exists_compile_complement (hmapped : table.lookup property ≠ none)
    (t : TextMatch) :
    ∃ plain, plain.negated = false ∧
      table.compile { t with negate := false } property = some plain ∧
      table.compile { t with negate := true } property =
        some plain.complement := by
  obtain ⟨query, hquery⟩ : ∃ query, table.compile t property = some query :=
    exists_compile hmapped
  refine ⟨{ query with negated := false }, rfl, ?_, ?_⟩
  · rw [compile_negate, hquery, Option.map_some]
  · rw [compile_negate, hquery, Option.map_some]
    rfl

end PropertyTable

/-- A text-match and its negation.  On a mapped property their queries are
complements of each other, and their texts tell them apart by the mark in front;
and as long as the limit leaves room for the mailbox, their searches share out
the folder. -/
theorem negation_shares_out_folder (t : TextMatch) :
    (∀ (table : PropertyTable) (property : String),
      table.lookup property ≠ none →
      ∃ plain negated,
        table.compile { t with negate := false } property = some plain ∧
        table.compile { t with negate := true } property = some negated ∧
        plain.complement = negated ∧ negated.complement = plain ∧
        negated.render = "!" ++ plain.render) ∧
    (∀ (evaluator : Evaluator) (contacts : List Contact) (user : String)
      (folder : UInt32), evaluator.table.lookup t.enclosing ≠ none →
      .contact ∈ evaluator.config.targetTypes →
      contacts.length ≤ evaluator.config.maxResults →
        SharesOut evaluator.config.sort (contacts.filter (·.folder == folder))
          (evaluator.search { t with negate := false }
            ⟨user, some (InMemory.mailbox contacts)⟩ folder).value
          (evaluator.search { t with negate := true }
            ⟨user, some (InMemory.mailbox contacts)⟩ folder).value) := by
  constructor
  · intro table property hmapped
    obtain ⟨plain, hplain, hcompile, hcompileNegated⟩ :=
      PropertyTable.exists_compile_complement hmapped t
    exact ⟨plain, plain.complement, hcompile, hcompileNegated, rfl,
      plain.complement_complement, Query.render_complement hplain⟩
  · intro evaluator contacts user folder hmapped htypes hlimit
    obtain ⟨plain, -, hcompile, hcompileNegated⟩ :=
      PropertyTable.exists_compile_complement hmapped t
    rw [Evaluator.value_search_of_room hcompile htypes hlimit,
      Evaluator.value_search_of_room hcompileNegated htypes hlimit]
    simp only [Contact.satisfies_complement]
    exact sharesOut_filter _ _ _

/-- Stored twice, with two addresses of which one contains the pattern. -/
def twoAddresses : Contact :=
  ((Contact.ofId 1 7).set "email" "a@x.org").set "email2" "b@x.org"

def blankAddress : Contact :=
  ⟨2, 7, .insert .empty "email" ""⟩

def addressBook : List Contact :=
  [twoAddresses, blankAddress, twoAddresses, Contact.ofId 3 8]

theorem addresses_shared_out :
    emailTable.lookup "EMAIL" ≠ none ∧
      (∃ plain negated,
        emailTable.compile (.ofPattern "EMAIL" "b@" false) "EMAIL" =
          some plain ∧
        emailTable.compile (.ofPattern "EMAIL" "b@" true) "EMAIL" =
          some negated ∧
        plain.complement = negated ∧ negated.render = "!" ++ plain.render) ∧
      .contact ∈ (atMost 4).targetTypes ∧
      addressBook.length ≤ (atMost 4).maxResults ∧
      SharesOut .nameAscending [twoAddresses, blankAddress, twoAddresses]
        ((Evaluator.mk emailTable (atMost 4)).search
          (.ofPattern "EMAIL" "b@" false)
          ⟨"user", some (InMemory.mailbox addressBook)⟩ 7).value
        ((Evaluator.mk emailTable (atMost 4)).search
          (.ofPattern "EMAIL" "b@" true)
          ⟨"user", some (InMemory.mailbox addressBook)⟩ 7).value := by
  have hmapped : emailTable.lookup "EMAIL" ≠ none := by
    decide +kernel
  have hfolder : addressBook.filter (·.folder == 7) =
      [twoAddresses, blankAddress, twoAddresses] := by
    decide +kernel
  obtain ⟨hqueries, hshares⟩ :=
    negation_shares_out_folder (.ofPattern "EMAIL" "b@" false)
  obtain ⟨plain, negated, hplain, hnegated, hcomplement, -, htext⟩ :=
    hqueries emailTable "EMAIL" hmapped
  have hfound :=
    hshares ⟨emailTable, atMost 4⟩ addressBook "user" 7 hmapped (by decide)
      (by decide)
  rw [hfolder] at hfound
  exact ⟨hmapped, ⟨plain, negated, hplain, hnegated, hcomplement, htext⟩,
    by decide, by decide, hfound⟩

/-! ## Absence -/

theorem Text.contains_empty (value : String) : Text.contains value "" = true :=
  Text.contains_iff.mpr (List.nil_infix)

/-- The empty pattern lies in every value, so only the contacts without values
lack it. -/
theorem Contact.satisfies_of_empty_pattern {table : PropertyTable}
    {t : TextMatch} {query : Query} (contact : Contact)
    (hquery : table.compileTextMatch t = some query) (hempty : t.pattern = "") :
    contact.satisfies query =
      ((table.valuesOf contact t.enclosing).isEmpty == t.negate) := by
  have hlower : Text.lower "" = "" := by
    decide
  rw [Contact.satisfies_compileTextMatch hquery, hempty, hlower]
  simp only [Text.contains_empty]
  cases table.valuesOf contact t.enclosing with
  | nil => cases t.negate <;> rfl
  | cons value rest => cases t.negate <;> rfl

/-- The prop-filter looks for the empty pattern under the property, or for its
lack. -/
structure PropFilter.SeeksEmpty (p : PropFilter) (property : String)
    (negate : Bool) : Prop where
  name_eq : p.name = property
  presence : p.isNotDefined = false
  textMatch_eq :
    ∃ t, p.textMatch = some t ∧ t.pattern = "" ∧ t.negate = negate ∧
      t.enclosing = property

/-- The prop-filter asks for contacts that lack the property. -/
structure PropFilter.SeeksAbsence (p : PropFilter) (property : String) :
    Prop where
  name_eq : p.name = property
  absence : p.isNotDefined = true

namespace Evaluator

variable {evaluator : Evaluator} {contacts : List Contact}
  {user property : String} {folder : UInt32} {p : PropFilter}

theorem value_seeksAbsence (hp : p.SeeksAbsence property)
    (hlimit : contacts.length ≤ evaluator.config.maxResults) :
    (evaluator.evaluateProp p ⟨user, some (InMemory.mailbox contacts)⟩
        folder).value =
      chosenBy evaluator.config.sort (contacts.filter (·.folder == folder))
        fun contact => (evaluator.table.valuesOf contact property).isEmpty := by
  rw [evaluateProp_of_absence _ _ _ hp.absence, hp.name_eq,
    value_missing_of_room hlimit]
  rfl

theorem value_seeksEmpty {negate : Bool} (hp : p.SeeksEmpty property negate)
    (hmapped : evaluator.table.lookup property ≠ none)
    (htypes : ItemType.contact ∈ evaluator.config.targetTypes)
    (hlimit : contacts.length ≤ evaluator.config.maxResults) :
    (evaluator.evaluateProp p ⟨user, some (InMemory.mailbox contacts)⟩
        folder).value =
      chosenBy evaluator.config.sort (contacts.filter (·.folder == folder))
        fun contact =>
          (evaluator.table.valuesOf contact property).isEmpty == negate := by
  obtain ⟨t, htext, hempty, rfl, rfl⟩ := hp.textMatch_eq
  obtain ⟨query, hquery⟩ :
      ∃ query, evaluator.table.compileTextMatch t = some query :=
    PropertyTable.exists_compile hmapped
  rw [evaluateProp_of_textMatch _ _ _ hp.presence htext,
    value_search_of_room hquery htypes hlimit]
  simp only [Contact.satisfies_of_empty_pattern _ hquery hempty]

end Evaluator

/-- Listing the contacts that lack a mapped property and searching for those in
which the empty pattern does not occur bring the same contacts in the same
order, as long as the limit leaves room for the mailbox; and the search in which
it does occur brings the rest of the folder. -/
theorem absence_agrees_with_lack_of_empty (evaluator : Evaluator)
    (property : String) (contacts : List Contact) (user : String)
    (folder : UInt32) (hmapped : evaluator.table.lookup property ≠ none)
    (htypes : .contact ∈ evaluator.config.targetTypes)
    (hlimit : contacts.length ≤ evaluator.config.maxResults)
    (absent lacking having : PropFilter)
    (habsent : absent.SeeksAbsence property)
    (hlacking : lacking.SeeksEmpty property true)
    (hhaving : having.SeeksEmpty property false) :
    (evaluator.evaluateProp absent ⟨user, some (InMemory.mailbox contacts)⟩
        folder).value =
      (evaluator.evaluateProp lacking ⟨user, some (InMemory.mailbox contacts)⟩
        folder).value ∧
      SharesOut evaluator.config.sort (contacts.filter (·.folder == folder))
        (evaluator.evaluateProp absent ⟨user, some (InMemory.mailbox contacts)⟩
          folder).value
        (evaluator.evaluateProp having ⟨user, some (InMemory.mailbox contacts)⟩
          folder).value := by
  rw [Evaluator.value_seeksAbsence habsent hlimit,
    Evaluator.value_seeksEmpty hlacking hmapped htypes hlimit,
    Evaluator.value_seeksEmpty hhaving hmapped htypes hlimit]
  constructor
  · simp
  · simpa using sharesOut_filter evaluator.config.sort _ _

def lacksAddress : PropFilter :=
  ⟨"EMAIL", true, none, []⟩

def withEmptyPattern (negate : Bool) : PropFilter :=
  ⟨"EMAIL", false, some (.ofPattern "EMAIL" "" negate), []⟩

theorem seeksEmpty_withEmptyPattern (negate : Bool) :
    (withEmptyPattern negate).SeeksEmpty "EMAIL" negate :=
  ⟨rfl, rfl, _, rfl, rfl, rfl, rfl⟩

/-- The contact that stores a blank in place of its address is listed, and no
search for the empty pattern in an address finds it. -/
theorem blank_address_lacking :
    emailTable.lookup "EMAIL" ≠ none ∧ .contact ∈ (atMost 4).targetTypes ∧
      addressBook.length ≤ (atMost 4).maxResults ∧
      lacksAddress.SeeksAbsence "EMAIL" ∧
      (withEmptyPattern true).SeeksEmpty "EMAIL" true ∧
      (withEmptyPattern false).SeeksEmpty "EMAIL" false ∧
      ((Evaluator.mk emailTable (atMost 4)).evaluateProp lacksAddress
          ⟨"user", some (InMemory.mailbox addressBook)⟩ 7).value =
        ((Evaluator.mk emailTable (atMost 4)).evaluateProp
          (withEmptyPattern true)
          ⟨"user", some (InMemory.mailbox addressBook)⟩ 7).value ∧
      SharesOut .nameAscending [twoAddresses, blankAddress, twoAddresses]
        ((Evaluator.mk emailTable (atMost 4)).evaluateProp lacksAddress
          ⟨"user", some (InMemory.mailbox addressBook)⟩ 7).value
        ((Evaluator.mk emailTable (atMost 4)).evaluateProp
          (withEmptyPattern false)
          ⟨"user", some (InMemory.mailbox addressBook)⟩ 7).value := by
  have hmapped : emailTable.lookup "EMAIL" ≠ none := by
    decide +kernel
  have hfolder : addressBook.filter (·.folder == 7) =
      [twoAddresses, blankAddress, twoAddresses] := by
    decide +kernel
  have habsent : lacksAddress.SeeksAbsence "EMAIL" := ⟨rfl, rfl⟩
  obtain ⟨hagree, hshares⟩ :=
    absence_agrees_with_lack_of_empty ⟨emailTable, atMost 4⟩ "EMAIL"
      addressBook "user" 7 hmapped (by decide) (by decide) lacksAddress
      (withEmptyPattern true) (withEmptyPattern false) habsent
      (seeksEmpty_withEmptyPattern true) (seeksEmpty_withEmptyPattern false)
  rw [hfolder] at hshares
  exact ⟨hmapped, by decide, by decide, habsent,
    seeksEmpty_withEmptyPattern true, seeksEmpty_withEmptyPattern false,
    hagree, hshares⟩

end AddressBook

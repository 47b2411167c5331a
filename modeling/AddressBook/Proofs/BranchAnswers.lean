import AddressBook.Proofs.FolderListing

/-!
# What the branches of an evaluation bring

Every text-match ends in one of four ways: its property is unmapped, the mailbox
refuses the search, the cursor fails before its end, or it brings its hits.
Over an in-memory mailbox only the first and the last occur, and both a search
and a listing have a closed form.  What a combination of branches brings is read
off the numbers of their contacts.
-/

namespace AddressBook

/-! ## Combining -/

section Combining

variable {lists : List (List AddressObject)} {id : UInt32}

theorem mem_ids_combine_anyOf :
    id ∈ (Filter.Test.anyOf.combine lists).map AddressObject.id ↔
      ∃ list ∈ lists, id ∈ list.map AddressObject.id := by
  unfold Filter.Test.combine
  rw [key_mem_keepFirst, List.map_flatten, List.mem_flatten]
  constructor
  · rintro ⟨ids, hids, hmem⟩
    obtain ⟨list, hlist, rfl⟩ := List.mem_map.mp hids
    exact ⟨list, hlist, hmem⟩
  · rintro ⟨list, hlist, hmem⟩
    exact ⟨list.map AddressObject.id, List.mem_map_of_mem hlist, hmem⟩

theorem any_id_eq_iff {list : List AddressObject} {object : AddressObject} :
    (list.any (·.id == object.id)) = true ↔
      object.id ∈ list.map AddressObject.id := by
  simp [List.any_eq_true, List.mem_map]

theorem mem_ids_combine_allOf :
    id ∈ (Filter.Test.allOf.combine lists).map AddressObject.id ↔
      lists ≠ [] ∧ ∀ list ∈ lists, id ∈ list.map AddressObject.id := by
  cases lists with
  | nil => simp [Filter.Test.combine]
  | cons first rest =>
      unfold Filter.Test.combine
      rw [key_mem_keepFirst]
      constructor
      · intro hmem
        obtain ⟨object, hobject, rfl⟩ := List.mem_map.mp hmem
        obtain ⟨hfirst, hrest⟩ := List.mem_filter.mp hobject
        refine ⟨List.cons_ne_nil _ _,
          List.forall_mem_cons.mpr ⟨List.mem_map_of_mem hfirst, ?_⟩⟩
        intro list hlist
        exact any_id_eq_iff.mp (List.all_eq_true.mp hrest list hlist)
      · rintro ⟨-, hall⟩
        obtain ⟨hfirst, hrest⟩ := List.forall_mem_cons.mp hall
        obtain ⟨object, hobject, rfl⟩ := List.mem_map.mp hfirst
        refine List.mem_map_of_mem (List.mem_filter.mpr ⟨hobject, ?_⟩)
        rw [List.all_eq_true]
        intro list hlist
        exact any_id_eq_iff.mpr (hrest list hlist)

/-- Whatever the test, a combination brings no object that none of its lists
brings. -/
theorem exists_of_mem_combine {test : Filter.Test} {object : AddressObject}
    (hobject : object ∈ test.combine lists) :
    ∃ list ∈ lists, object ∈ list := by
  cases test with
  | anyOf =>
      have hmem :=
        (keepFirst_sublist AddressObject.id lists.flatten).subset hobject
      exact List.mem_flatten.mp hmem
  | allOf =>
      cases lists with
      | nil => cases hobject
      | cons first rest =>
          have hmem := (keepFirst_sublist AddressObject.id _).subset hobject
          exact ⟨first, List.mem_cons_self, (List.mem_filter.mp hmem).1⟩

end Combining

/-! ## Searching -/

namespace Evaluator

variable {evaluator : Evaluator} {t : TextMatch} {query : Query} {user : String}
  {mailbox : Mailbox} {folder : UInt32} {cursor : Cursor} {error : BackendError}

theorem search_of_unmapped (hquery : evaluator.table.compileTextMatch t = none)
    (context : RequestContext) :
    evaluator.search t context folder =
      ⟨[], [.event (.unmappedTextMatch t.enclosing)]⟩ := by
  unfold search
  rw [hquery]

theorem search_of_refused
    (hquery : evaluator.table.compileTextMatch t = some query)
    (hsearch :
      mailbox.search (evaluator.searchRequest ⟨user⟩ query) = .error error) :
    evaluator.search t ⟨user, some mailbox⟩ folder =
      ⟨[], [.call (.search (evaluator.searchRequest ⟨user⟩ query)),
        .event (.searchFailed error query)]⟩ := by
  unfold search
  simp only [hquery, RequestContext.operation, Mailbox.searchFolder, hsearch]
  rfl

theorem search_of_failed
    (hquery : evaluator.table.compileTextMatch t = some query)
    (hsearch :
      mailbox.search (evaluator.searchRequest ⟨user⟩ query) = .ok cursor)
    (houtcome : cursor.outcome = .error error) :
    evaluator.search t ⟨user, some mailbox⟩ folder =
      ⟨[],
        .call (.search (evaluator.searchRequest ⟨user⟩ query)) ::
          cursor.release ++
          [.event (.searchFailed error query)]⟩ := by
  unfold search
  simp only [hquery, RequestContext.operation, Mailbox.searchFolder, hsearch,
    Cursor.drain_eq, houtcome]
  rfl

theorem search_of_answered {hits : List Hit}
    (hquery : evaluator.table.compileTextMatch t = some query)
    (hsearch :
      mailbox.search (evaluator.searchRequest ⟨user⟩ query) = .ok cursor)
    (houtcome : cursor.outcome = .ok hits) :
    evaluator.search t ⟨user, some mailbox⟩ folder =
      ⟨(hits.filterMap (Hit.contactIn? folder)).map .mk,
        .call (.search (evaluator.searchRequest ⟨user⟩ query)) ::
          cursor.release ++
          [.event
            (.searched query folder
              (hits.filterMap (Hit.contactIn? folder)).length)]⟩ := by
  unfold search
  simp only [hquery, RequestContext.operation, Mailbox.searchFolder, hsearch,
    Cursor.drain_eq, houtcome]
  rfl

theorem filterMap_contactIn?_contacts (contacts : List Contact) :
    (contacts.map Hit.contact).filterMap (Hit.contactIn? folder) =
      contacts.filter (·.folder == folder) := by
  induction contacts with
  | nil => rfl
  | cons contact rest ih =>
      by_cases hfolder : contact.folder = folder
      · simp [Hit.contactIn?, hfolder, ← ih]
      · simp [Hit.contactIn?, hfolder, ← ih]

/-- What a search of an in-memory mailbox brings: of the hits within its limit,
those that lie in the folder. -/
theorem value_search_inMemory {contacts : List Contact}
    (hquery : evaluator.table.compileTextMatch t = some query) :
    (evaluator.search t ⟨user, some (InMemory.mailbox contacts)⟩ folder).value =
      ((InMemory.found contacts (evaluator.searchRequest ⟨user⟩ query)).filter
        (·.folder == folder)).map .mk := by
  rw [search_of_answered hquery rfl rfl, filterMap_contactIn?_contacts]

/-! ## Listing -/

/-- The listing of the contacts of a folder that have no value for a
property. -/
def listMissing (evaluator : Evaluator) (mailbox : Mailbox) (user : String)
    (folder : UInt32) (property : String) :
    Traced Step (Except BackendError (List Contact)) :=
  mailbox.listFolder
    (fun contact => (evaluator.table.valuesOf contact property).isEmpty)
    (evaluator.pageRequest ⟨user⟩ folder)

variable {property : String}

theorem missing_of_listed {listed : List Contact}
    (hlisted :
      (evaluator.listMissing mailbox user folder property).value = .ok listed) :
    evaluator.missing property ⟨user, some mailbox⟩ folder =
      ⟨listed.map .mk,
        (evaluator.listMissing mailbox user folder property).trace⟩ := by
  unfold listMissing at hlisted
  unfold missing listMissing RequestContext.operation
  simp only [hlisted]

theorem missing_of_failed
    (hfailed :
      (evaluator.listMissing mailbox user folder property).value =
        .error error) :
    evaluator.missing property ⟨user, some mailbox⟩ folder =
      ⟨[], (evaluator.listMissing mailbox user folder property).trace ++
        [.event (.listingFailed error folder)]⟩ := by
  unfold listMissing at hfailed
  unfold missing listMissing RequestContext.operation
  simp only [hfailed]

/-- What the listing of an in-memory mailbox brings. -/
theorem value_missing_inMemory {contacts : List Contact} :
    (evaluator.missing property ⟨user, some (InMemory.mailbox contacts)⟩
        folder).value =
      (((InMemory.folder contacts folder evaluator.config.sort).filter
        fun contact =>
          (evaluator.table.valuesOf contact property).isEmpty).take
          evaluator.config.maxResults).map .mk := by
  rw [missing_of_listed Mailbox.listFolder_inMemory]
  rfl

end Evaluator

namespace InMemory

variable {contacts : List Contact} {request : SearchRequest}

/-- A search whose limit leaves room for every contact finds all that answer
it. -/
theorem found_eq_sort (htypes : ItemType.contact ∈ request.types)
    (hlimit : contacts.length ≤ request.limit) :
    found contacts request =
      request.sort.sort (contacts.filter (·.satisfies request.query)) := by
  unfold found
  rw [if_pos htypes]
  apply List.take_of_length_le
  have hfilter := List.length_filter_le (·.satisfies request.query) contacts
  rw [SortOrder.length_sort]
  omega

/-- Whatever the limit, a search brings none but contacts that answer it. -/
theorem mem_of_mem_found {contact : Contact}
    (hfound : contact ∈ found contacts request) :
    contact ∈ contacts ∧ contact.satisfies request.query = true := by
  unfold found at hfound
  have hmatching :=
    (request.sort.sort_perm _).mem_iff.mp (List.mem_of_mem_take hfound)
  split at hmatching
  next => exact List.mem_filter.mp hmatching
  next => cases hmatching

theorem mem_found_iff (htypes : ItemType.contact ∈ request.types)
    (hlimit : contacts.length ≤ request.limit) {contact : Contact} :
    contact ∈ found contacts request ↔
      contact ∈ contacts ∧ contact.satisfies request.query = true := by
  rw [found_eq_sort htypes hlimit, (request.sort.sort_perm _).mem_iff,
    List.mem_filter]

theorem mem_folder_iff {id : UInt32} {order : SortOrder} {contact : Contact} :
    contact ∈ folder contacts id order ↔
      contact ∈ contacts ∧ contact.folder = id := by
  unfold folder
  rw [(order.sort_perm _).mem_iff, List.mem_filter, beq_iff_eq]

theorem length_folder_le (contacts : List Contact) (id : UInt32)
    (order : SortOrder) :
    (folder contacts id order).length ≤ contacts.length := by
  rw [length_folder]
  exact List.length_filter_le _ contacts

end InMemory

/-! ## The contacts of a branch -/

namespace Evaluator

variable {evaluator : Evaluator} {contacts : List Contact} {user : String}
  {folder : UInt32} {object : AddressObject}

/-- Whatever the limit, a listing brings none but contacts of the folder that
lack the property. -/
theorem of_mem_missing {property : String}
    (hobject : object ∈
      (evaluator.missing property ⟨user, some (InMemory.mailbox contacts)⟩
        folder).value) :
    object.contact ∈ contacts ∧ object.contact.folder = folder ∧
      evaluator.table.valuesOf object.contact property = [] := by
  rw [value_missing_inMemory] at hobject
  obtain ⟨contact, hcontact, rfl⟩ := List.mem_map.mp hobject
  obtain ⟨hmem, hlacks⟩ := List.mem_filter.mp (List.mem_of_mem_take hcontact)
  obtain ⟨hstored, hinside⟩ := InMemory.mem_folder_iff.mp hmem
  exact ⟨hstored, hinside, List.isEmpty_iff.mp hlacks⟩

/-- A limit that leaves room for every contact cuts nothing off a listing. -/
theorem value_missing_of_room {property : String}
    (hlimit : contacts.length ≤ evaluator.config.maxResults) :
    (evaluator.missing property ⟨user, some (InMemory.mailbox contacts)⟩
        folder).value =
      ((InMemory.folder contacts folder evaluator.config.sort).filter
        fun contact =>
          (evaluator.table.valuesOf contact property).isEmpty).map .mk := by
  have hfolder :=
    InMemory.length_folder_le contacts folder evaluator.config.sort
  rw [value_missing_inMemory, List.take_of_length_le]
  exact (List.length_filter_le _ _).trans (hfolder.trans hlimit)

theorem mem_missing_iff {property : String}
    (hlimit : contacts.length ≤ evaluator.config.maxResults) :
    object ∈
      (evaluator.missing property ⟨user, some (InMemory.mailbox contacts)⟩
        folder).value ↔
      object.contact ∈ contacts ∧ object.contact.folder = folder ∧
        evaluator.table.valuesOf object.contact property = [] := by
  constructor
  · exact of_mem_missing
  · rintro ⟨hstored, hinside, hlacks⟩
    have hmem :
        object.contact ∈
          InMemory.folder contacts folder evaluator.config.sort :=
      InMemory.mem_folder_iff.mpr ⟨hstored, hinside⟩
    rw [value_missing_of_room hlimit, List.mem_map]
    exact ⟨object.contact,
      List.mem_filter.mpr ⟨hmem, List.isEmpty_iff.mpr hlacks⟩, rfl⟩

/-- Whatever the limit, a search brings none but contacts of the folder that
answer its query. -/
theorem of_mem_search {t : TextMatch} {query : Query}
    (hquery : evaluator.table.compileTextMatch t = some query)
    (hobject : object ∈
      (evaluator.search t ⟨user, some (InMemory.mailbox contacts)⟩
        folder).value) :
    object.contact ∈ contacts ∧ object.contact.folder = folder ∧
      object.contact.satisfies query = true := by
  rw [value_search_inMemory hquery] at hobject
  obtain ⟨contact, hcontact, rfl⟩ := List.mem_map.mp hobject
  obtain ⟨hfound, hinside⟩ := List.mem_filter.mp hcontact
  obtain ⟨hstored, hsatisfies⟩ := InMemory.mem_of_mem_found hfound
  exact ⟨hstored, beq_iff_eq.mp hinside, hsatisfies⟩

theorem mem_search_iff {t : TextMatch} {query : Query}
    (htypes : ItemType.contact ∈ evaluator.config.targetTypes)
    (hlimit : contacts.length ≤ evaluator.config.maxResults)
    (hquery : evaluator.table.compileTextMatch t = some query) :
    object ∈
      (evaluator.search t ⟨user, some (InMemory.mailbox contacts)⟩
        folder).value ↔
      object.contact ∈ contacts ∧ object.contact.folder = folder ∧
        object.contact.satisfies query = true := by
  constructor
  · exact of_mem_search hquery
  · rintro ⟨hstored, hinside, hsatisfies⟩
    have hfound : object.contact ∈ InMemory.found contacts
        (evaluator.searchRequest ⟨user⟩ query) :=
      (InMemory.mem_found_iff htypes hlimit).mpr ⟨hstored, hsatisfies⟩
    rw [value_search_inMemory hquery, List.mem_map]
    exact ⟨object.contact, List.mem_filter.mpr ⟨hfound, beq_iff_eq.mpr hinside⟩,
      rfl⟩

end Evaluator
end AddressBook

import AddressBook.Proofs.CombinedResults
import AddressBook.Proofs.StorageOrder

/-!
# Descending order

Among contacts with numbers of their own the descending order is the ascending
one read backwards (`SortOrder.sort_descending`).  Leaving contacts out keeps
this, and so does a limit that cuts nothing off.  An intersection chooses from
the first of its lists and is reversed with it; a union is not, as it starts
with the first list either way.
-/

namespace AddressBook

theorem SortOrder.sort_descending {contacts : List Contact}
    (hdistinct : (contacts.map Contact.id).Nodup) :
    nameDescending.sort contacts = (nameAscending.sort contacts).reverse := by
  have hbackwards : (nameAscending.sort contacts).reverse.Pairwise
      (fun a b => nameDescending.allows a b = true) :=
    List.pairwise_reverse.mpr (nameAscending.sort_sorted contacts)
  have hperm : contacts.Perm (nameAscending.sort contacts).reverse :=
    (nameAscending.sort_perm contacts).symm.trans (List.reverse_perm _).symm
  calc
    nameDescending.sort contacts =
        nameDescending.sort (nameAscending.sort contacts).reverse :=
      sort_eq_of_perm SortOrder.noConfusion hdistinct hperm
    _ = (nameAscending.sort contacts).reverse := sort_of_sorted hbackwards

namespace InMemory

variable {contacts : List Contact} (hdistinct : (contacts.map Contact.id).Nodup)

include hdistinct

theorem folder_descending (id : UInt32) :
    folder contacts id .nameDescending =
      (folder contacts id .nameAscending).reverse := by
  rw [folder_eq_filter, folder_eq_filter, SortOrder.sort_descending hdistinct,
    List.filter_reverse]

theorem found_descending (request : SearchRequest)
    (hroom : contacts.length ≤ request.limit) :
    found contacts { request with sort := .nameDescending } =
      (found contacts { request with sort := .nameAscending }).reverse := by
  have hchosen :
      (answering contacts request.types request.query).Sublist contacts :=
    answering_sublist _ _
  have hlength : ∀ order : SortOrder,
      (order.sort (answering contacts request.types request.query)).length ≤
        request.limit := by
    intro order
    rw [order.length_sort]
    exact hchosen.length_le.trans hroom
  rw [found_eq_take, found_eq_take,
    List.take_of_length_le (hlength .nameDescending),
    List.take_of_length_le (hlength .nameAscending)]
  exact SortOrder.sort_descending (hdistinct.sublist (hchosen.map Contact.id))

end InMemory

/-! ## Pages -/

/-- The first pages of a folder from the request's offset on, one after
another. -/
def Mailbox.firstPages (mailbox : Mailbox) (request : PageRequest) :
    Nat → Except BackendError (List Contact)
  | 0 => .ok []
  | count + 1 => do
    let earlier ← mailbox.firstPages request count
    let page ← mailbox.page
      { request with offset := request.offset + count * request.limit }
    return earlier ++ page

theorem InMemory.firstPages_eq_take (contacts : List Contact)
    (request : PageRequest) (count : Nat) :
    (mailbox contacts).firstPages request count =
      .ok (((folder contacts request.folder request.sort).drop
        request.offset).take (count * request.limit)) := by
  induction count with
  | zero =>
      rw [Nat.zero_mul, List.take_zero]
      rfl
  | succ count ih =>
      rw [Mailbox.firstPages, ih, Nat.succ_mul, List.take_add, List.drop_drop]
      rfl

theorem InMemory.firstPages_of_covered {contacts : List Contact}
    {request : PageRequest} {count : Nat} (hstart : request.offset = 0)
    (hcovered :
      (contacts.filter (·.folder == request.folder)).length ≤
        count * request.limit) :
    (mailbox contacts).firstPages request count =
      .ok (folder contacts request.folder request.sort) := by
  rw [← length_folder contacts request.folder request.sort] at hcovered
  rw [firstPages_eq_take, hstart, List.drop_zero,
    List.take_of_length_le hcovered]

/-! ## Branches and their intersection -/

theorem Filter.Test.combine_allOf_reverse {lists : List (List AddressObject)}
    (hdistinct : ∀ list ∈ lists, (list.map AddressObject.id).Nodup) :
    allOf.combine (lists.map List.reverse) = (allOf.combine lists).reverse := by
  cases lists with
  | nil => rfl
  | cons first rest =>
      have hfirst := List.pairwise_map.mp (hdistinct first List.mem_cons_self)
      have hbackwards : first.reverse.Pairwise fun a b => a.id ≠ b.id :=
        List.pairwise_reverse.mpr (hfirst.imp Ne.symm)
      rw [List.map_cons, combine_allOf_cons, combine_allOf_cons,
        keepFirst_of_distinct hfirst, keepFirst_of_distinct hbackwards,
        List.filter_reverse]
      simp only [List.all_map, Function.comp_def, List.any_reverse]

namespace Evaluator

def withSort (evaluator : Evaluator) (order : SortOrder) : Evaluator :=
  { evaluator with config := { evaluator.config with sort := order } }

section Branches

variable {evaluator : Evaluator} {contacts : List Contact} {user : String}
  {folder : UInt32} (hdistinct : (contacts.map Contact.id).Nodup)
  (hroom : contacts.length ≤ evaluator.config.maxResults)

include hdistinct

theorem ids_evaluateProp_nodup {p : PropFilter}
    (hsingle : p.isNotDefined = true ∨ p.textMatch.isSome = true) :
    ((evaluator.evaluateProp p ⟨user, some (InMemory.mailbox contacts)⟩
      folder).value.map AddressObject.id).Nodup := by
  have hchosen :
      (evaluator.evaluateProp p ⟨user, some (InMemory.mailbox contacts)⟩
        folder).value.Sublist ((evaluator.config.sort.sort contacts).map .mk) :=
    evaluateProp_sublist hsingle
  have hids := hchosen.map AddressObject.id
  rw [List.map_map] at hids
  exact (evaluator.config.sort.ids_sort_nodup hdistinct).sublist hids

include hroom

theorem search_descending (t : TextMatch) :
    ((evaluator.withSort .nameDescending).search t
        ⟨user, some (InMemory.mailbox contacts)⟩ folder).value =
      ((evaluator.withSort .nameAscending).search t
        ⟨user, some (InMemory.mailbox contacts)⟩ folder).value.reverse := by
  have htable : (evaluator.withSort .nameDescending).table =
      (evaluator.withSort .nameAscending).table := rfl
  apply search_related_inMemory
    (fun descending ascending => descending = ascending.reverse) htable rfl
  intro query
  have hfound : InMemory.found contacts
        ((evaluator.withSort .nameDescending).searchRequest ⟨user⟩ query) =
      (InMemory.found contacts
        ((evaluator.withSort .nameAscending).searchRequest ⟨user⟩
          query)).reverse :=
    InMemory.found_descending hdistinct (evaluator.searchRequest ⟨user⟩ query)
      hroom
  rw [hfound, List.filter_reverse, List.map_reverse]

theorem missing_descending (property : String) :
    ((evaluator.withSort .nameDescending).missing property
        ⟨user, some (InMemory.mailbox contacts)⟩ folder).value =
      ((evaluator.withSort .nameAscending).missing property
        ⟨user, some (InMemory.mailbox contacts)⟩ folder).value.reverse := by
  have hlimit : ∀ order,
      contacts.length ≤ (evaluator.withSort order).config.maxResults :=
    fun _ => hroom
  rw [value_missing_of_room (hlimit .nameDescending),
    value_missing_of_room (hlimit .nameAscending)]
  unfold withSort
  rw [InMemory.folder_descending hdistinct, List.filter_reverse,
    List.map_reverse]

theorem evaluateProp_descending {p : PropFilter}
    (hsingle : p.isNotDefined = true ∨ p.textMatch.isSome = true) :
    ((evaluator.withSort .nameDescending).evaluateProp p
        ⟨user, some (InMemory.mailbox contacts)⟩ folder).value =
      ((evaluator.withSort .nameAscending).evaluateProp p
        ⟨user, some (InMemory.mailbox contacts)⟩ folder).value.reverse := by
  rcases evaluateProp_single hsingle with hlists | ⟨t, hsearches⟩
  · rw [hlists, hlists]
    exact missing_descending hdistinct hroom p.name
  · rw [hsearches, hsearches]
    exact search_descending hdistinct hroom t

theorem evaluate_allOf_descending {propFilters : List PropFilter}
    (hsingle :
      ∀ p ∈ propFilters, p.isNotDefined = true ∨ p.textMatch.isSome = true) :
    ((evaluator.withSort .nameDescending).evaluate ⟨.allOf, propFilters⟩
        ⟨user, some (InMemory.mailbox contacts)⟩ folder).value =
      ((evaluator.withSort .nameAscending).evaluate ⟨.allOf, propFilters⟩
        ⟨user, some (InMemory.mailbox contacts)⟩ folder).value.reverse := by
  rw [value_evaluate, value_evaluate, ← Filter.Test.combine_allOf_reverse,
    List.map_map]
  · apply keeps_eq .allOf
    intro p hp
    exact evaluateProp_descending hdistinct hroom (hsingle p hp)
  · intro list hlist
    obtain ⟨p, hp, rfl⟩ := List.mem_map.mp hlist
    exact ids_evaluateProp_nodup hdistinct (hsingle p hp)

end Branches

end Evaluator

/-- Among contacts with numbers of their own, and with room for all of them,
turning the order around turns around what a prop-filter lists or searches, what
an intersection of such prop-filters brings, and the folder as it is read page
by page. -/
theorem descending_reverses_ascending (evaluator : Evaluator)
    (contacts : List Contact) (user : String) (folder : UInt32)
    (hdistinct : (contacts.map Contact.id).Nodup)
    (hroom : contacts.length ≤ evaluator.config.maxResults) :
    (∀ p : PropFilter, p.isNotDefined = true ∨ p.textMatch.isSome = true →
      ((evaluator.withSort .nameDescending).evaluateProp p
          ⟨user, some (InMemory.mailbox contacts)⟩ folder).value =
        ((evaluator.withSort .nameAscending).evaluateProp p
          ⟨user, some (InMemory.mailbox contacts)⟩ folder).value.reverse) ∧
    (∀ propFilters : List PropFilter,
      (∀ p ∈ propFilters, p.isNotDefined = true ∨ p.textMatch.isSome = true) →
        ((evaluator.withSort .nameDescending).evaluate ⟨.allOf, propFilters⟩
            ⟨user, some (InMemory.mailbox contacts)⟩ folder).value =
          ((evaluator.withSort .nameAscending).evaluate ⟨.allOf, propFilters⟩
            ⟨user, some (InMemory.mailbox contacts)⟩ folder).value.reverse) ∧
    (∀ size count : Nat,
      (contacts.filter (·.folder == folder)).length ≤ count * size →
      ∃ listed,
        (InMemory.mailbox contacts).firstPages
            ⟨user, folder, .nameAscending, 0, size⟩ count =
          .ok listed ∧
        (InMemory.mailbox contacts).firstPages
            ⟨user, folder, .nameDescending, 0, size⟩ count =
          .ok listed.reverse) := by
  refine ⟨?_, ?_, ?_⟩
  · intro p hsingle
    exact Evaluator.evaluateProp_descending hdistinct hroom hsingle
  · intro propFilters hsingle
    exact Evaluator.evaluate_allOf_descending hdistinct hroom hsingle
  · intro size count hcovered
    refine ⟨InMemory.folder contacts folder .nameAscending, ?_, ?_⟩
    · exact InMemory.firstPages_of_covered rfl hcovered
    · rw [InMemory.firstPages_of_covered rfl hcovered]
      exact congrArg Except.ok (InMemory.folder_descending hdistinct folder)

/-- Without a name, as contact 5, so that the numbers order the two. -/
def nicknamed : Contact :=
  (Contact.ofId 6 7).set "nickname" "Six"

def unnamedAndNamed : List Contact :=
  [Contact.ofId 5 7, nicknamed, aaron, bea]

theorem unnamed_behind_bea :
    (unnamedAndNamed.map Contact.id).Nodup ∧
    unnamedAndNamed.length ≤ (atMost 4).maxResults ∧
    (((Evaluator.mk .cardDav (atMost 4)).withSort .nameDescending).evaluateProp
      (absenceOf "EMAIL")
        ⟨"user", some (InMemory.mailbox unnamedAndNamed)⟩ 7).value =
      [.mk bea, .mk nicknamed, .mk (Contact.ofId 5 7)] ∧
    (((Evaluator.mk .cardDav (atMost 4)).withSort .nameDescending).evaluate
        ⟨.allOf, [absenceOf "EMAIL", absenceOf "NICKNAME"]⟩
        ⟨"user", some (InMemory.mailbox unnamedAndNamed)⟩ 7).value =
      [.mk bea, .mk (Contact.ofId 5 7)] ∧
    (InMemory.mailbox unnamedAndNamed).firstPages
        ⟨"user", 7, .nameDescending, 0, 2⟩ 2 =
      .ok [bea, nicknamed, Contact.ofId 5 7] := by
  have hdistinct : (unnamedAndNamed.map Contact.id).Nodup := by
    decide
  have hroom : unnamedAndNamed.length ≤ (atMost 4).maxResults := by
    decide
  have hfolder : InMemory.folder unnamedAndNamed 7 .nameAscending =
      [Contact.ofId 5 7, nicknamed, bea] :=
    SortOrder.sort_of_sorted (by decide +kernel)
  have hlists : ∀ property,
      (((Evaluator.mk .cardDav (atMost 4)).withSort .nameAscending).evaluateProp
        (absenceOf property)
          ⟨"user", some (InMemory.mailbox unnamedAndNamed)⟩ 7).value =
        ([Contact.ofId 5 7, nicknamed, bea].filter fun contact =>
          (PropertyTable.cardDav.valuesOf contact
            property).isEmpty).map .mk := by
    intro property
    rw [Evaluator.evaluateProp_of_absence _ _ _ rfl,
      Evaluator.value_missing_of_room hroom, ← hfolder]
    rfl
  have hboth :
      (((Evaluator.mk .cardDav (atMost 4)).withSort .nameAscending).evaluate
          ⟨.allOf, [absenceOf "EMAIL", absenceOf "NICKNAME"]⟩
          ⟨"user", some (InMemory.mailbox unnamedAndNamed)⟩ 7).value =
        [.mk (Contact.ofId 5 7), .mk bea] := by
    rw [Evaluator.value_evaluate, List.map_cons, List.map_singleton, hlists,
      hlists]
    decide +kernel
  have hcovered : (unnamedAndNamed.filter (·.folder == 7)).length ≤ 2 * 2 := by
    decide
  obtain ⟨hreversed, hintersection, hpages⟩ := descending_reverses_ascending
    ⟨.cardDav, atMost 4⟩ unnamedAndNamed "user" 7 hdistinct hroom
  refine ⟨hdistinct, hroom, ?_, ?_, ?_⟩
  · rw [hreversed _ (.inl rfl), hlists]
    decide +kernel
  · rw [hintersection _ (by decide), hboth]
    decide
  · obtain ⟨listed, hascending, hdescending⟩ := hpages 2 2 hcovered
    rw [InMemory.firstPages_of_covered rfl hcovered, hfolder] at hascending
    rw [hdescending, ← Except.ok.inj hascending]
    rfl

end AddressBook

import AddressBook.Contact.Basic

/-!
# The order of contacts

Contacts are ordered by name, contacts of one name by their number.  Sorting is
stable: contacts that agree in both keep the order in which they are stored.  A
sorted list holds the contacts it was made of (`SortOrder.sort_perm`), stands in
its order (`SortOrder.sort_sorted`) and stays sorted when contacts are left out
(`SortOrder.sort_filter`).
-/

namespace AddressBook

inductive SortOrder
  | nameAscending
  | nameDescending
  | unsorted
deriving DecidableEq, Repr

instance : Inhabited SortOrder := ⟨.nameAscending⟩

namespace Contact

/-- Whether the first contact may stand before the second one in ascending
order. -/
def le (a b : Contact) : Bool :=
  a.sortName < b.sortName || (a.sortName == b.sortName && a.id ≤ b.id)

theorem le_iff {a b : Contact} :
    a.le b = true ↔
      a.sortName < b.sortName ∨ (a.sortName = b.sortName ∧ a.id ≤ b.id) := by
  simp [le]

theorem le_trans {a b c : Contact} (hab : a.le b = true) (hbc : b.le c = true) :
    a.le c = true := by
  rw [le_iff] at hab hbc ⊢
  rcases hab with hab | ⟨habName, habId⟩
  · rcases hbc with hbc | ⟨hbcName, _⟩
    · exact .inl (String.lt_trans hab hbc)
    · exact .inl (hbcName ▸ hab)
  · rcases hbc with hbc | ⟨hbcName, hbcId⟩
    · exact .inl (habName ▸ hbc)
    · exact .inr ⟨habName.trans hbcName, UInt32.le_trans habId hbcId⟩

theorem le_total (a b : Contact) : (a.le b || b.le a) = true := by
  simp only [Bool.or_eq_true, le_iff]
  by_cases hnames : a.sortName = b.sortName
  · rcases UInt32.le_total a.id b.id with hids | hids
    · exact .inl (.inr ⟨hnames, hids⟩)
    · exact .inr (.inr ⟨hnames.symm, hids⟩)
  · by_cases hless : a.sortName < b.sortName
    · exact .inl (.inl hless)
    · exact .inr (.inl (Dictionary.lt_of_not_lt_of_ne hless hnames))

end Contact

namespace SortOrder

def allows : SortOrder → Contact → Contact → Bool
  | nameAscending, a, b => a.le b
  | nameDescending, a, b => b.le a
  | unsorted, _, _ => true

def sort (order : SortOrder) (contacts : List Contact) : List Contact :=
  contacts.mergeSort order.allows

theorem allows_trans (order : SortOrder) (a b c : Contact)
    (hab : order.allows a b = true) (hbc : order.allows b c = true) :
    order.allows a c = true := by
  cases order
  · exact Contact.le_trans hab hbc
  · exact Contact.le_trans hbc hab
  · rfl

theorem allows_total (order : SortOrder) (a b : Contact) :
    (order.allows a b || order.allows b a) = true := by
  cases order
  · exact Contact.le_total a b
  · exact Contact.le_total b a
  · rfl

theorem sort_perm (order : SortOrder) (contacts : List Contact) :
    (order.sort contacts).Perm contacts :=
  List.mergeSort_perm contacts order.allows

theorem sort_sorted (order : SortOrder) (contacts : List Contact) :
    (order.sort contacts).Pairwise (fun a b => order.allows a b = true) :=
  List.pairwise_mergeSort order.allows_trans order.allows_total contacts

theorem sort_of_sorted {order : SortOrder} {contacts : List Contact}
    (hsorted : contacts.Pairwise (fun a b => order.allows a b = true)) :
    order.sort contacts = contacts :=
  List.mergeSort_of_pairwise hsorted

/-- Without an order, contacts stay as they are stored. -/
theorem sort_unsorted (contacts : List Contact) :
    unsorted.sort contacts = contacts :=
  sort_of_sorted (List.pairwise_of_forall fun _ _ => rfl)

@[simp] theorem length_sort (order : SortOrder) (contacts : List Contact) :
    (order.sort contacts).length = contacts.length :=
  (order.sort_perm contacts).length_eq

/-- The sorted others fall into those that have to stay before a contact,
because they may not follow it, and those that may follow it; a contact that is
stored before all of them is put between the two. -/
theorem sort_cons (order : SortOrder) (first : Contact) (rest : List Contact) :
    order.sort rest =
        (order.sort rest).filter (fun contact => !order.allows first contact) ++
          (order.sort rest).filter (order.allows first) ∧
      order.sort (first :: rest) =
        (order.sort rest).filter (fun contact => !order.allows first contact) ++
          first :: (order.sort rest).filter (order.allows first) := by
  obtain ⟨before, after, hwith, hwithout, hbefore⟩ :=
    List.mergeSort_cons order.allows_trans order.allows_total first rest
  have hsorted : (before ++ first :: after).Pairwise
      (fun a b => order.allows a b = true) :=
    hwith ▸ order.sort_sorted (first :: rest)
  have hafter : ∀ contact ∈ after, order.allows first contact = true :=
    (List.pairwise_cons.mp (List.pairwise_append.mp hsorted).2.1).1
  have hbeforeKept :
      before.filter (fun contact => !order.allows first contact) = before :=
    List.filter_eq_self.mpr hbefore
  have hafterKept : after.filter (order.allows first) = after :=
    List.filter_eq_self.mpr hafter
  have hbeforeLost : before.filter (order.allows first) = [] := by
    rw [List.filter_eq_nil_iff]
    intro contact hcontact
    simpa using hbefore contact hcontact
  have hafterLost :
      after.filter (fun contact => !order.allows first contact) = [] := by
    rw [List.filter_eq_nil_iff]
    intro contact hcontact
    simp [hafter contact hcontact]
  unfold sort
  rw [hwith, hwithout, List.filter_append, List.filter_append, hbeforeKept,
    hafterKept, hbeforeLost, hafterLost, List.append_nil, List.nil_append]
  exact ⟨rfl, rfl⟩

/-- Sorting is stable, so it makes no difference whether contacts are left out
before or after. -/
theorem sort_filter (order : SortOrder) (keep : Contact → Bool)
    (contacts : List Contact) :
    (order.sort contacts).filter keep = order.sort (contacts.filter keep) := by
  induction contacts with
  | nil => simp [sort]
  | cons first rest ih =>
      obtain ⟨hrest, hall⟩ := order.sort_cons first rest
      cases hkeep : keep first with
      | true =>
          rw [List.filter_cons_of_pos hkeep,
            (order.sort_cons first (rest.filter keep)).2, ← ih, hall,
            List.filter_append, List.filter_cons_of_pos hkeep]
          simp only [List.filter_filter, Bool.and_comm]
      | false =>
          have hskip : ¬keep first = true := by simp [hkeep]
          rw [List.filter_cons_of_neg hskip, ← ih, hall, List.filter_append,
            List.filter_cons_of_neg hskip, ← List.filter_append, ← hrest]

end SortOrder
end AddressBook

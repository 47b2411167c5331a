import AddressBook.Proofs.BranchAnswers
import Mathlib.Data.List.Perm.Basic

/-!
# Unions and intersections of results

A union takes the contacts from all lists, one after another, and an
intersection takes them from the first one; of several objects with one number
the first is taken, and the objects stand in the order in which their numbers
are first seen (`FirstSeen`).  Combining what is already a combination changes
nothing, nor do the numbers depend on the order.
-/

namespace AddressBook

/-- The objects of a result are the first ones with their numbers in a list, in
the order in which the list first shows those numbers. -/
structure FirstSeen (source result : List AddressObject) : Prop where
  first : ∀ object ∈ result, source.find? (·.id == object.id) = some object
  inOrder : result.Pairwise fun a b =>
    (source.map AddressObject.id).idxOf a.id <
      (source.map AddressObject.id).idxOf b.id

theorem firstSeen_keepFirst (source : List AddressObject) :
    FirstSeen source (keepFirst AddressObject.id source) := by
  constructor
  · intro object hobject
    exact mem_keepFirst_iff.mp hobject
  · exact keepFirst_idxOf_lt AddressObject.id source

theorem FirstSeen.sublist {source result part : List AddressObject}
    (hseen : FirstSeen source result) (hpart : part.Sublist result) :
    FirstSeen source part := by
  constructor
  · intro object hobject
    exact hseen.first object (hpart.subset hobject)
  · exact hseen.inOrder.sublist hpart

namespace Filter.Test

theorem combine_singleton (test : Filter.Test) (list : List AddressObject) :
    test.combine [list] = keepFirst AddressObject.id list := by
  cases test <;> simp [combine]

/-- An intersection leaves contacts out of the first list only by their numbers,
so it may drop repeated numbers first. -/
theorem combine_allOf_cons (first : List AddressObject)
    (rest : List (List AddressObject)) :
    allOf.combine (first :: rest) =
      (keepFirst AddressObject.id first).filter fun object =>
        rest.all fun list => list.any (·.id == object.id) :=
  keepFirst_filter AddressObject.id
    (fun id => rest.all fun list => list.any (·.id == id)) first

theorem ids_combine_nodup (test : Filter.Test)
    (lists : List (List AddressObject)) :
    ((test.combine lists).map AddressObject.id).Nodup := by
  rw [List.Nodup, List.pairwise_map]
  cases test with
  | anyOf => exact keepFirst_distinct _ _
  | allOf =>
      cases lists with
      | nil => exact .nil
      | cons first rest => exact keepFirst_distinct _ _

theorem firstSeen_combine_anyOf (lists : List (List AddressObject)) :
    FirstSeen lists.flatten (anyOf.combine lists) :=
  firstSeen_keepFirst lists.flatten

theorem firstSeen_combine_allOf (lists : List (List AddressObject)) :
    FirstSeen (lists.headD []) (allOf.combine lists) := by
  cases lists with
  | nil => exact firstSeen_keepFirst []
  | cons first rest =>
      rw [combine_allOf_cons]
      exact (firstSeen_keepFirst first).sublist List.filter_sublist

theorem combine_allOf_sublist_anyOf (lists : List (List AddressObject)) :
    (allOf.combine lists).Sublist (anyOf.combine lists) := by
  cases lists with
  | nil => exact .slnil
  | cons first rest =>
      have hunion : anyOf.combine (first :: rest) =
          keepFirst AddressObject.id first ++
            (keepFirst AddressObject.id rest.flatten).filter fun object =>
              object.id ∉ first.map AddressObject.id :=
        keepFirst_append AddressObject.id first rest.flatten
      rw [combine_allOf_cons, hunion]
      exact List.filter_sublist.trans (List.sublist_append_left _ _)

theorem combine_again (test again : Filter.Test)
    (lists : List (List AddressObject)) :
    again.combine [test.combine lists] = test.combine lists := by
  have hdistinct := ids_combine_nodup test lists
  rw [List.Nodup, List.pairwise_map] at hdistinct
  rw [combine_singleton]
  exact keepFirst_of_distinct hdistinct

theorem mem_ids_combine_of_perm (test : Filter.Test)
    {lists others : List (List AddressObject)} (hperm : lists.Perm others)
    (id : UInt32) :
    id ∈ (test.combine lists).map AddressObject.id ↔
      id ∈ (test.combine others).map AddressObject.id := by
  cases test with
  | anyOf =>
      rw [mem_ids_combine_anyOf, mem_ids_combine_anyOf]
      simp only [hperm.mem_iff]
  | allOf =>
      have hnil : lists = [] ↔ others = [] := by
        rw [← List.length_eq_zero_iff, ← List.length_eq_zero_iff,
          hperm.length_eq]
      rw [mem_ids_combine_allOf, mem_ids_combine_allOf, ne_eq, ne_eq, hnil]
      simp only [hperm.mem_iff]

/-- Combining is union and intersection by number.  Either result has each
number once and shows the first object with it, in the order of the first
occurrences: a union as they come in all lists together, an intersection as they
come in the first list.  The intersection is chosen from the union in turn; one
list alone loses its later duplicates under either test, and a result, having
none, is kept as it is; and the order of the lists makes no difference to the
numbers. -/
theorem combine_joins_or_intersects (lists : List (List AddressObject)) :
    (((anyOf.combine lists).map AddressObject.id).Nodup ∧
      (∀ id, id ∈ (anyOf.combine lists).map AddressObject.id ↔
        ∃ list ∈ lists, id ∈ list.map AddressObject.id) ∧
      FirstSeen lists.flatten (anyOf.combine lists)) ∧
    (((allOf.combine lists).map AddressObject.id).Nodup ∧
      (∀ id, id ∈ (allOf.combine lists).map AddressObject.id ↔
        lists ≠ [] ∧ ∀ list ∈ lists, id ∈ list.map AddressObject.id) ∧
      FirstSeen (lists.headD []) (allOf.combine lists)) ∧
    (allOf.combine lists).Sublist (anyOf.combine lists) ∧
    (∀ (test : Filter.Test) (list : List AddressObject),
      test.combine [list] = list.eraseDupsBy fun a b => a.id == b.id) ∧
    (∀ test again : Filter.Test,
      again.combine [test.combine lists] = test.combine lists) ∧
    (∀ (test : Filter.Test) (others : List (List AddressObject)),
      lists.Perm others →
      ∀ id, id ∈ (test.combine lists).map AddressObject.id ↔
        id ∈ (test.combine others).map AddressObject.id) := by
  refine ⟨⟨ids_combine_nodup anyOf lists, ?_, firstSeen_combine_anyOf lists⟩,
    ⟨ids_combine_nodup allOf lists, ?_, firstSeen_combine_allOf lists⟩,
    combine_allOf_sublist_anyOf lists, ?_, ?_, ?_⟩
  · intro id
    exact mem_ids_combine_anyOf
  · intro id
    exact mem_ids_combine_allOf
  · intro test list
    rw [combine_singleton]
    exact keepFirst_eq_eraseDupsBy AddressObject.id list
  · intro test again
    exact combine_again test again lists
  · intro test others hperm
    exact mem_ids_combine_of_perm test hperm

end Filter.Test

/-- Two objects of one number that tell them apart by their folders. -/
def numbered (id folder : UInt32) : AddressObject :=
  ⟨.ofId id folder⟩

/-- The union shows number 1 as it stands first in all, the intersection as it
stands first in the first list; the lists the other way round bring other
objects of the same numbers. -/
theorem ids_of_swapped_lists :
    [[numbered 2 7, numbered 1 7, numbered 1 8], [numbered 1 9]].Perm
      [[numbered 1 9], [numbered 2 7, numbered 1 7, numbered 1 8]] ∧
    Filter.Test.anyOf.combine
        [[numbered 2 7, numbered 1 7, numbered 1 8], [numbered 1 9]] =
      [numbered 2 7, numbered 1 7] ∧
    Filter.Test.allOf.combine
        [[numbered 2 7, numbered 1 7, numbered 1 8], [numbered 1 9]] =
          [numbered 1 7] ∧
    Filter.Test.allOf.combine
        [[numbered 1 9], [numbered 2 7, numbered 1 7, numbered 1 8]] =
          [numbered 1 9] ∧
    ∀ (test : Filter.Test) (id : UInt32),
      id ∈ (test.combine
          [[numbered 2 7, numbered 1 7, numbered 1 8], [numbered 1 9]]).map
            AddressObject.id ↔
        id ∈ (test.combine
          [[numbered 1 9], [numbered 2 7, numbered 1 7, numbered 1 8]]).map
            AddressObject.id := by
  have hperm : [[numbered 2 7, numbered 1 7, numbered 1 8], [numbered 1 9]].Perm
      [[numbered 1 9], [numbered 2 7, numbered 1 7, numbered 1 8]] :=
        .swap _ _ _
  obtain ⟨-, -, -, -, -, hids⟩ := Filter.Test.combine_joins_or_intersects
    [[numbered 2 7, numbered 1 7, numbered 1 8], [numbered 1 9]]
  exact ⟨hperm, by decide, by decide, by decide, fun test => hids test _ hperm⟩

end AddressBook

/-!
# Keeping first occurrences

`keepFirst key` drops from a list every element whose key an earlier one has
already shown.  What is left has distinct keys (`keepFirst_distinct`), is a
sublist (`keepFirst_sublist`) and still shows every key (`key_mem_keepFirst`).
Each element kept is the first one with its key (`mem_keepFirst_iff`).
-/

namespace AddressBook

variable {α β : Type} [DecidableEq β]

def keepFirst (key : α → β) : List α → List α
  | [] => []
  | x :: rest => x :: (keepFirst key rest).filter (fun y => key y ≠ key x)

theorem keepFirst_sublist (key : α → β) (xs : List α) :
    (keepFirst key xs).Sublist xs := by
  induction xs with
  | nil => exact .slnil
  | cons x rest ih => exact (List.filter_sublist.trans ih).cons_cons x

theorem keepFirst_distinct (key : α → β) (xs : List α) :
    (keepFirst key xs).Pairwise (fun x y => key x ≠ key y) := by
  induction xs with
  | nil => exact .nil
  | cons x rest ih =>
    refine List.pairwise_cons.mpr ⟨fun y hmem hsame => ?_, ih.filter _⟩
    exact of_decide_eq_true (List.mem_filter.mp hmem).2 hsame.symm

theorem key_mem_keepFirst {key : α → β} {xs : List α} {k : β} :
    k ∈ (keepFirst key xs).map key ↔ k ∈ xs.map key := by
  induction xs with
  | nil => rfl
  | cons x rest ih =>
    by_cases hsame : k = key x
    · simp [keepFirst, hsame]
    · have htail :
          k ∈ ((keepFirst key rest).filter (fun y => key y ≠ key x)).map key ↔
            k ∈ (keepFirst key rest).map key := by
        simp only [List.mem_map, List.mem_filter, decide_eq_true_eq]
        constructor
        · rintro ⟨y, ⟨hmem, _⟩, rfl⟩
          exact ⟨y, hmem, rfl⟩
        · rintro ⟨y, hmem, rfl⟩
          exact ⟨y, ⟨hmem, hsame⟩, rfl⟩
      simp only [keepFirst, List.map_cons, List.mem_cons, hsame, false_or,
        htail, ih]

theorem map_keepFirst (key : α → β) (xs : List α) :
    (keepFirst key xs).map key = keepFirst id (xs.map key) := by
  induction xs with
  | nil => rfl
  | cons x rest ih =>
    rw [keepFirst, List.map_cons, List.map_cons, keepFirst, ← ih,
      List.filter_map]
    rfl

theorem mem_keepFirst_iff {key : α → β} {xs : List α} {x : α} :
    x ∈ keepFirst key xs ↔ xs.find? (fun y => key y == key x) = some x := by
  induction xs with
  | nil => simp [keepFirst]
  | cons y rest ih =>
    by_cases hsame : key y = key x
    · simp [keepFirst, hsame, eq_comm]
    · have hothers : x ≠ y := fun heq => hsame (congrArg key heq.symm)
      simp [keepFirst, beq_false_of_ne hsame, hothers, Ne.symm hsame, ih]

theorem keepFirst_idxOf_lt (key : α → β) (xs : List α) :
    (keepFirst key xs).Pairwise fun x y =>
      (xs.map key).idxOf (key x) < (xs.map key).idxOf (key y) := by
  induction xs with
  | nil => exact .nil
  | cons x rest ih =>
    have hlater : ∀ y ∈ (keepFirst key rest).filter (fun y => key y ≠ key x),
        ((x :: rest).map key).idxOf (key y) =
          (rest.map key).idxOf (key y) + 1 := by
      intro y hmem
      have hother : key y ≠ key x :=
        of_decide_eq_true (List.mem_filter.mp hmem).2
      simp [List.idxOf_cons, beq_false_of_ne hother.symm]
    refine List.pairwise_cons.mpr ⟨fun y hmem => ?_, ?_⟩
    · rw [hlater y hmem, List.map_cons, List.idxOf_cons_self]
      exact Nat.succ_pos _
    · refine (ih.filter _).imp_of_mem fun hfirst hsecond hbefore => ?_
      rw [hlater _ hfirst, hlater _ hsecond]
      exact Nat.succ_lt_succ hbefore

/-- Elements may be left out by their keys before or after. -/
theorem keepFirst_filter (key : α → β) (keep : β → Bool) (xs : List α) :
    keepFirst key (xs.filter fun x => keep (key x)) =
      (keepFirst key xs).filter fun x => keep (key x) := by
  induction xs with
  | nil => rfl
  | cons x rest ih =>
    cases hkept : keep (key x) with
    | true => simp [keepFirst, hkept, ih, Bool.and_comm]
    | false =>
      have hothers : ∀ y, keep (key y) = true → key y ≠ key x := by
        intro y hkeptToo hsame
        simp [hsame, hkept] at hkeptToo
      simp only [List.filter_cons, keepFirst, hkept, Bool.false_eq_true,
        if_false, ih, List.filter_filter]
      refine List.filter_congr fun y _ => ?_
      cases hkeptToo : keep (key y) with
      | false => rfl
      | true => simp [hothers y hkeptToo]

theorem keepFirst_append (key : α → β) (xs ys : List α) :
    keepFirst key (xs ++ ys) =
      keepFirst key xs ++ (keepFirst key ys).filter fun y =>
        key y ∉ xs.map key := by
  induction xs with
  | nil => exact (List.filter_eq_self.mpr fun _ _ => rfl).symm
  | cons x rest ih =>
    rw [List.cons_append, keepFirst, ih, List.filter_append, List.filter_filter,
      keepFirst, List.cons_append]
    simp [not_or]

theorem keepFirst_eq_eraseDupsBy (key : α → β) (xs : List α) :
    keepFirst key xs = xs.eraseDupsBy fun x y => key x == key y := by
  match xs with
  | [] => rfl
  | x :: rest =>
    rw [keepFirst, List.eraseDupsBy_cons, ← keepFirst_filter key (· ≠ key x)]
    simp only [beq_eq_false_iff_ne]
    rw [keepFirst_eq_eraseDupsBy]
termination_by xs.length
decreasing_by exact Nat.lt_succ_of_le (List.length_filter_le _ _)

theorem keepFirst_of_distinct {key : α → β} {xs : List α}
    (hdistinct : xs.Pairwise (fun x y => key x ≠ key y)) :
    keepFirst key xs = xs := by
  induction xs with
  | nil => rfl
  | cons x rest ih =>
    obtain ⟨hhead, htail⟩ := List.pairwise_cons.mp hdistinct
    rw [keepFirst, ih htail, List.filter_eq_self.mpr]
    exact fun y hmem => decide_eq_true fun hsame => hhead y hmem hsame.symm

end AddressBook

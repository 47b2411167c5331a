import AddressBook.Proofs.BranchRelations
import AddressBook.Property.CardDav

/-!
# Evaluations over a mailbox with faults

A branch that a fault reaches brings nothing and leaves a warning; every other
branch brings what it would have brought without faults.  `Weakens` carries this
through the combinations: the contacts of the faulty evaluation are among those
of the other, and without a warning the two bring the same.
-/

namespace AddressBook

/-- No event of the transcript is a warning. -/
def Quiet (trace : List Step) : Prop :=
  ∀ event ∈ eventsOf trace, event.severity ≠ .warn

instance (trace : List Step) : Decidable (Quiet trace) :=
  inferInstanceAs (Decidable (∀ event ∈ eventsOf trace, event.severity ≠ .warn))

theorem quiet_flatMap_iff {α : Type} {f : α → List Step} {xs : List α} :
    Quiet (xs.flatMap f) ↔ ∀ x ∈ xs, Quiet (f x) := by
  unfold Quiet
  rw [eventsOf_flatMap]
  constructor
  · intro hquiet x hx event hevent
    exact hquiet event (List.mem_flatMap_of_mem hx hevent)
  · intro hquiet event hevent
    obtain ⟨x, hx, hmem⟩ := List.mem_flatMap.mp hevent
    exact hquiet x hx event hmem

/-- The first result has no contacts beyond those of the second, and falls short
of it only with a warning. -/
structure Weakens (faulty plain : Traced Step (List AddressObject)) : Prop where
  ids_subset :
    faulty.value.map AddressObject.id ⊆ plain.value.map AddressObject.id
  eq_of_quiet : Quiet faulty.trace → faulty.value = plain.value

/-- The first result is the second or, with a warning, empty. -/
structure Degrades (faulty plain : Traced Step (List AddressObject)) :
    Prop where
  kept_or_lost : faulty.value = plain.value ∨ faulty.value = []
  eq_of_quiet : Quiet faulty.trace → faulty.value = plain.value

section Branches

variable {faulty plain : Traced Step (List AddressObject)}

theorem Degrades.of_eq (hvalue : faulty.value = plain.value) :
    Degrades faulty plain := by
  constructor
  · exact Or.inl hvalue
  · intro _
    exact hvalue

theorem Degrades.of_warning (event : Event) (hvalue : faulty.value = [])
    (hevent : event ∈ eventsOf faulty.trace) (hwarn : event.severity = .warn) :
    Degrades faulty plain := by
  constructor
  · exact Or.inr hvalue
  · intro hquiet
    exact absurd hwarn (hquiet event hevent)

theorem Degrades.subset (hdegrades : Degrades faulty plain) :
    faulty.value ⊆ plain.value := by
  rcases hdegrades.kept_or_lost with hkept | hlost
  · rw [hkept]
    exact List.Subset.refl _
  · rw [hlost]
    exact List.nil_subset _

theorem Degrades.weakens (hdegrades : Degrades faulty plain) :
    Weakens faulty plain := by
  constructor
  · exact List.map_subset _ hdegrades.subset
  · exact hdegrades.eq_of_quiet

theorem keepsRuns_weakens (test : Filter.Test) : test.KeepsRuns Weakens := by
  intro α branches f g hweakens
  constructor
  · simp only [Traced.value_map, Traced.value_collect, List.map_map]
    apply keeps_ids_subset test
    intro branch hbranch
    exact (hweakens branch hbranch).ids_subset
  · intro hquiet
    rw [Traced.trace_map, Traced.trace_collect, List.flatMap_map,
      quiet_flatMap_iff] at hquiet
    simp only [Traced.value_map, Traced.value_collect, List.map_map]
    apply keeps_eq test
    intro branch hbranch
    exact (hweakens branch hbranch).eq_of_quiet (hquiet branch hbranch)

end Branches

/-! ## The faults of a search -/

namespace Faults

/-- A cursor that would have delivered all its hits now fails on the way, or
delivers them behind the items of other kinds. -/
theorem outcome_cursor (faults : Faults) (inner : Cursor)
    (hinner : inner.failure = none) :
    (∃ error, (faults.cursor inner).outcome = .error error) ∨
      (faults.cursor inner).outcome =
        .ok ((faults.others.map fun item => .other item.1 item.2) ++
          inner.pending) := by
  unfold cursor cut
  cases faults.failNextAfter with
  | none =>
      right
      simp [Cursor.outcome, hinner]
  | some n =>
      dsimp only
      split
      next =>
        left
        exact ⟨_, rfl⟩
      next =>
        right
        simp [Cursor.outcome, hinner]

theorem filterMap_contactIn?_others (others : List (UInt32 × ItemType))
    (folder : UInt32) :
    (others.map fun item => Hit.other item.1 item.2).filterMap
      (Hit.contactIn? folder) = [] := by
  rw [List.filterMap_eq_nil_iff]
  intro hit hmem
  obtain ⟨item, -, rfl⟩ := List.mem_map.mp hmem
  rfl

end Faults

namespace Evaluator

variable (evaluator : Evaluator) (contacts : List Contact) (faults : Faults)
  (user : String) (folder : UInt32)

theorem search_degrades (t : TextMatch) :
    Degrades
      (evaluator.search t
        ⟨user, some ((InMemory.mailbox contacts).withFaults faults)⟩ folder)
      (evaluator.search t ⟨user, some (InMemory.mailbox contacts)⟩ folder) := by
  cases hquery : evaluator.table.compileTextMatch t with
  | none =>
      apply Degrades.of_eq
      rw [search_of_unmapped hquery, search_of_unmapped hquery]
  | some query =>
      cases hkey : faults.failingKey? query with
      | some key =>
          have hsearch : ((InMemory.mailbox contacts).withFaults faults).search
              (evaluator.searchRequest ⟨user⟩ query) =
                .error (.search ("index for " ++ key ++ " offline")) := by
            simp [Mailbox.withFaults, searchRequest, hkey]
          rw [search_of_refused hquery hsearch]
          exact Degrades.of_warning _ rfl (List.mem_singleton.mpr rfl) rfl
      | none =>
          have hsearch : ((InMemory.mailbox contacts).withFaults faults).search
              (evaluator.searchRequest ⟨user⟩ query) =
                ((InMemory.mailbox contacts).search
                  (evaluator.searchRequest ⟨user⟩ query)).map
                    faults.cursor := by
            simp [Mailbox.withFaults, searchRequest, hkey]
          rcases faults.outcome_cursor ⟨_, none, none⟩ rfl with
            ⟨error, hfailed⟩ | hanswered
          · rw [search_of_failed hquery hsearch hfailed]
            apply Degrades.of_warning (.searchFailed error query)
            · rfl
            · simp
            · rfl
          · apply Degrades.of_eq
            rw [search_of_answered hquery hsearch hanswered,
              search_of_answered hquery rfl rfl]
            simp only [List.filterMap_append,
              Faults.filterMap_contactIn?_others, List.nil_append]

/-! ## The faults of a listing -/

theorem missing_degrades (property : String) :
    Degrades
      (evaluator.missing property
        ⟨user, some ((InMemory.mailbox contacts).withFaults faults)⟩ folder)
      (evaluator.missing property ⟨user, some (InMemory.mailbox contacts)⟩
        folder) := by
  cases hlisting :
      (evaluator.listMissing ((InMemory.mailbox contacts).withFaults faults)
        user folder property).value with
  | error error =>
      rw [missing_of_failed hlisting]
      apply Degrades.of_warning (.listingFailed error folder)
      · rfl
      · simp
      · rfl
  | ok listed =>
      have hlisted := Mailbox.listFolder_value_of_ok
        (Mailbox.pagesOf_withFaults contacts faults) hlisting
      apply Degrades.of_eq
      rw [value_missing_inMemory, missing_of_listed hlisting, hlisted]
      rfl

/-! ## From the branches to the filter -/

theorem evaluate_weakens (filter : Filter) :
    Weakens
      (evaluator.evaluate filter
        ⟨user, some ((InMemory.mailbox contacts).withFaults faults)⟩ folder)
      (evaluator.evaluate filter ⟨user, some (InMemory.mailbox contacts)⟩
        folder) := by
  apply evaluate_relatedRuns keepsRuns_weakens
  · intro property
    exact (evaluator.missing_degrades contacts faults user folder
      property).weakens
  · intro t _
    exact (evaluator.search_degrades contacts faults user folder t).weakens

/-- Faults of a mailbox only take results away, and never in silence.  Each
search and each listing brings all it would have brought or nothing; the
contacts of a filter are among those it would have found; and unless a warning
was given the results are the same, in the same order. -/
theorem faults_only_remove_with_warning :
    (∀ t : TextMatch,
      (evaluator.search t
          ⟨user, some ((InMemory.mailbox contacts).withFaults faults)⟩
          folder).value =
        (evaluator.search t ⟨user, some (InMemory.mailbox contacts)⟩
          folder).value ∨
      (evaluator.search t
          ⟨user, some ((InMemory.mailbox contacts).withFaults faults)⟩
          folder).value = []) ∧
    (∀ property : String,
      (evaluator.missing property
          ⟨user, some ((InMemory.mailbox contacts).withFaults faults)⟩
          folder).value =
        (evaluator.missing property ⟨user, some (InMemory.mailbox contacts)⟩
          folder).value ∨
      (evaluator.missing property
          ⟨user, some ((InMemory.mailbox contacts).withFaults faults)⟩
          folder).value = []) ∧
    (∀ filter : Filter,
      ((evaluator.evaluate filter
          ⟨user, some ((InMemory.mailbox contacts).withFaults faults)⟩
          folder).value.map AddressObject.id) ⊆
        ((evaluator.evaluate filter ⟨user, some (InMemory.mailbox contacts)⟩
          folder).value.map AddressObject.id)) ∧
    (∀ filter : Filter,
      Quiet (evaluator.evaluate filter
        ⟨user, some ((InMemory.mailbox contacts).withFaults faults)⟩
        folder).trace →
      (evaluator.evaluate filter
          ⟨user, some ((InMemory.mailbox contacts).withFaults faults)⟩
          folder).value =
        (evaluator.evaluate filter ⟨user, some (InMemory.mailbox contacts)⟩
          folder).value) := by
  refine ⟨?_, ?_, ?_, ?_⟩
  · intro t
    exact (evaluator.search_degrades contacts faults user folder t).kept_or_lost
  · intro property
    exact (evaluator.missing_degrades contacts faults user folder
      property).kept_or_lost
  · intro filter
    exact (evaluator.evaluate_weakens contacts faults user folder
      filter).ids_subset
  · intro filter
    exact (evaluator.evaluate_weakens contacts faults user folder
      filter).eq_of_quiet

end Evaluator

def carol : Contact :=
  (Contact.ofId 4 7).set "email" "carol@x.org"

/-- Asks for contacts of an e-mail address that have no nickname. -/
def carolWithoutNickname : Filter where
  test := .allOf
  propFilters :=
    [⟨"EMAIL", false, some (.ofPattern "EMAIL" "CAROL" false), []⟩,
      ⟨"NICKNAME", true, none, []⟩]

/-- Faults that no contact of a small folder is lost by. -/
def quietFaults : Faults where
  failKeys := ["nickname"]
  failNextAfter := some 3
  failRelease := true
  failPagesFrom := some 5
  pageExtra := 3
  others := [(9, .message)]

theorem quietFaults_keep_carol :
    Quiet ((Evaluator.mk .cardDav default).evaluate carolWithoutNickname
        ⟨"user", some ((InMemory.mailbox [carol]).withFaults quietFaults)⟩
        7).trace ∧
      ((Evaluator.mk .cardDav default).evaluate carolWithoutNickname
          ⟨"user", some ((InMemory.mailbox [carol]).withFaults quietFaults)⟩
          7).value =
        ((Evaluator.mk .cardDav default).evaluate carolWithoutNickname
          ⟨"user", some (InMemory.mailbox [carol])⟩ 7).value := by
  have hquiet :
      Quiet ((Evaluator.mk .cardDav default).evaluate carolWithoutNickname
        ⟨"user", some ((InMemory.mailbox [carol]).withFaults quietFaults)⟩
        7).trace := by
    decide +kernel
  obtain ⟨-, -, -, hkept⟩ :=
    Evaluator.faults_only_remove_with_warning ⟨.cardDav, default⟩ [carol]
      quietFaults "user" 7
  exact ⟨hquiet, hkept carolWithoutNickname hquiet⟩

end AddressBook

import AddressBook.Proofs.CombinedResults
import AddressBook.Proofs.FaultDegradation
import AddressBook.Proofs.FolderIsolation

/-!
# What may be handed out

An evaluation hands out stored contacts of the folder it was asked for, none of
them changed, and each number and each resource name once.  Faults of the
mailbox cannot break this: a search or a listing that a fault reaches brings
nothing, so that every branch brings a part of what it brings without faults,
and that each number comes once is a matter of combining alone.
-/

namespace AddressBook

/-- A resource name tells its contact's number. -/
theorem AddressObject.href_inj {a b : AddressObject} :
    a.href = b.href ↔ a.id = b.id := by
  constructor
  · intro hnames
    have hprinted : a.id.toNat.repr = b.id.toNat.repr :=
      (String.append_left_inj ".vcf").mp hnames
    have hdigits :
        Nat.toDigits 10 a.id.toNat = Nat.toDigits 10 b.id.toNat := by
      rw [← Nat.toList_repr, ← Nat.toList_repr, hprinted]
    apply UInt32.toNat_inj.mp
    rw [← Nat.ofDigitChars_ten_toDigits (n := a.id.toNat), hdigits,
      Nat.ofDigitChars_ten_toDigits]
  · intro hids
    unfold href
    rw [hids]

namespace Evaluator

variable {evaluator : Evaluator} {contacts : List Contact} {faults : Faults}
  {user : String} {folder : UInt32} {object : AddressObject}

theorem ids_evaluate_nodup (evaluator : Evaluator) (filter : Filter)
    (context : RequestContext) (folder : UInt32) :
    ((evaluator.evaluate filter context folder).value.map
      AddressObject.id).Nodup := by
  rw [value_evaluate]
  exact Filter.Test.ids_combine_nodup filter.test _

theorem hrefs_evaluate_nodup (evaluator : Evaluator) (filter : Filter)
    (context : RequestContext) (folder : UInt32) :
    ((evaluator.evaluate filter context folder).value.map
      AddressObject.href).Nodup := by
  have hids := evaluator.ids_evaluate_nodup filter context folder
  rw [List.Nodup, List.pairwise_map] at hids ⊢
  apply hids.imp
  intro a b hdistinct hnames
  exact hdistinct (AddressObject.href_inj.mp hnames)

theorem confined_of_mem_evaluate_withFaults {filter : Filter}
    (hobject : object ∈ (evaluator.evaluate filter
      ⟨user, some ((InMemory.mailbox contacts).withFaults faults)⟩
        folder).value) :
    object.contact ∈ contacts ∧ object.contact.folder = folder := by
  apply forall_mem_evaluate ?_ ?_ filter object hobject
  · intro property listed hlisted
    have hplain :=
      (evaluator.missing_degrades contacts faults user folder property).subset
        hlisted
    obtain ⟨hstored, hinside, -⟩ := of_mem_missing hplain
    exact ⟨hstored, hinside⟩
  · intro t hit hhit
    have hplain :=
      (evaluator.search_degrades contacts faults user folder t).subset hhit
    exact confined_of_mem_search hplain

/-- Whatever faults a mailbox has, an evaluation hands out each number and each
resource name once, and none but contacts that are stored, as they are, in the
folder asked for. -/
theorem evaluate_sound_under_faults (evaluator : Evaluator)
    (contacts : List Contact) (faults : Faults) (user : String)
    (folder : UInt32) (filter : Filter) :
    ((evaluator.evaluate filter
      ⟨user, some ((InMemory.mailbox contacts).withFaults faults)⟩
      folder).value.map AddressObject.id).Nodup ∧
    ((evaluator.evaluate filter
      ⟨user, some ((InMemory.mailbox contacts).withFaults faults)⟩
      folder).value.map AddressObject.href).Nodup ∧
    ∀ object ∈ (evaluator.evaluate filter
        ⟨user, some ((InMemory.mailbox contacts).withFaults faults)⟩
          folder).value,
      ∃ contact ∈ contacts, contact.folder = folder ∧ object = ⟨contact⟩ := by
  refine ⟨ids_evaluate_nodup _ _ _ _, hrefs_evaluate_nodup _ _ _ _, ?_⟩
  intro object hobject
  obtain ⟨hstored, hinside⟩ := confined_of_mem_evaluate_withFaults hobject
  exact ⟨object.contact, hstored, hinside, rfl⟩

end Evaluator

/-- Finds Carol twice; the search for a nickname between is refused. -/
def carolTwice : Filter where
  test := .anyOf
  propFilters :=
    [⟨"EMAIL", false, some (.ofPattern "EMAIL" "CAROL" false), []⟩,
      ⟨"NICKNAME", false, some (.ofPattern "NICKNAME" "x" true), []⟩,
      ⟨"NICKNAME", true, none, []⟩]

theorem carol_handed_out_once :
    .mk carol ∈ ((Evaluator.mk .cardDav default).evaluate carolTwice
      ⟨"user",
        some ((InMemory.mailbox [.ofId 4 8, carol]).withFaults quietFaults)⟩
      7).value ∧
    (((Evaluator.mk .cardDav default).evaluate carolTwice
        ⟨"user",
          some ((InMemory.mailbox [.ofId 4 8, carol]).withFaults quietFaults)⟩
        7).value.map AddressObject.href).Nodup ∧
    ∃ contact ∈ [.ofId 4 8, carol], contact.folder = 7 ∧
      .mk carol = AddressObject.mk contact := by
  have hfound : .mk carol ∈ ((Evaluator.mk .cardDav default).evaluate carolTwice
      ⟨"user",
        some ((InMemory.mailbox [.ofId 4 8, carol]).withFaults quietFaults)⟩
      7).value := by
    decide +kernel
  obtain ⟨-, hnames, hconfined⟩ :=
    Evaluator.evaluate_sound_under_faults ⟨.cardDav, default⟩
      [.ofId 4 8, carol] quietFaults "user" 7 carolTwice
  exact ⟨hfound, hnames, hconfined _ hfound⟩

end AddressBook

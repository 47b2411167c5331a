import AddressBook.Proofs.BranchAnswers
import AddressBook.Property.CardDav

/-!
# Listing the contacts without a property

The listing behind is-not-defined brings the first contacts of the sorted folder
that lack the property, as many as the limit allows, also from pages that run
over the limit by a fixed number of contacts.  It asks for one more page only if
the last one was full and too few contacts were found, so the limit bounds the
number of pages.
-/

namespace AddressBook

/-- Whether the contact has nothing but blanks under the keys of a property. -/
def PropertyTable.lacks (table : PropertyTable) (property : String)
    (contact : Contact) : Bool :=
  (table.keysOf property).all fun key =>
    (contact.attributes.get? key).all (· == "")

theorem PropertyTable.isEmpty_valuesOf (table : PropertyTable)
    (property : String) (contact : Contact) :
    (table.valuesOf contact property).isEmpty =
      table.lacks property contact := by
  have hvalue : ∀ key, Record.value? contact key = none ↔
      (contact.attributes.get? key).all (· == "") = true := by
    intro key
    have hread :
        Record.value? contact key =
          (contact.attributes.get? key).filter (· ≠ "") := rfl
    rw [hread]
    cases contact.attributes.get? key with
    | none => simp
    | some value => simp
  rw [Bool.eq_iff_iff, List.isEmpty_iff, valuesOf, List.filterMap_eq_nil_iff,
    lacks, List.all_eq_true]
  simp only [hvalue]

namespace Evaluator

def pageAt (evaluator : Evaluator) (user : String) (folder : UInt32)
    (offset : Nat) : PageRequest :=
  { evaluator.pageRequest ⟨user⟩ folder with offset := offset }

/-- The first contacts of the sorted folder without the property, up to the
limit of results. -/
def lacking (evaluator : Evaluator) (contacts : List Contact) (folder : UInt32)
    (property : String) : List Contact :=
  ((InMemory.folder contacts folder evaluator.config.sort).filter
    (evaluator.table.lacks property)).take evaluator.config.maxResults

section Listings

variable {evaluator : Evaluator} {mailbox : Mailbox} {user : String}
  {folder : UInt32} {property : String}

theorem value_missing :
    (evaluator.missing property ⟨user, some mailbox⟩ folder).value =
      ((evaluator.listMissing mailbox user folder
        property).value.toOption.getD []).map .mk := by
  cases hlisting :
      (evaluator.listMissing mailbox user folder property).value with
  | error error =>
      rw [missing_of_failed hlisting]
      rfl
  | ok listed =>
      rw [missing_of_listed hlisting]
      rfl

theorem keep_eq_lacks :
    (fun contact => (evaluator.table.valuesOf contact property).isEmpty) =
      evaluator.table.lacks property := by
  funext contact
  exact evaluator.table.isEmpty_valuesOf property contact

theorem exists_listing_listMissing (evaluator : Evaluator) (mailbox : Mailbox)
    (user : String) (folder : UInt32) (property : String) :
    ∃ earlier,
      mailbox.Listing (evaluator.table.lacks property)
        (evaluator.pageAt user folder 0) [] earlier
        (evaluator.listMissing mailbox user folder property) := by
  unfold listMissing
  rw [keep_eq_lacks]
  exact Mailbox.exists_listing_listFrom

theorem listMissing_answers_or_fails {sorted : List Contact} {extra : Nat}
    (hpieces :
      mailbox.ServesPieces (evaluator.pageAt user folder 0) sorted extra) :
    (evaluator.listMissing mailbox user folder property).value =
        .ok ((sorted.filter (evaluator.table.lacks property)).take
          evaluator.config.maxResults) ∨
      ∃ offset error,
        mailbox.page (evaluator.pageAt user folder offset) = .error error ∧
        (evaluator.listMissing mailbox user folder property).value =
          .error error := by
  unfold listMissing
  rw [keep_eq_lacks]
  exact Mailbox.listFolder_answers_or_fails hpieces

/-- What the listing brings from pages that are pieces of the sorted folder,
when it fails, which pages it asks for and how many. -/
theorem listMissing_exact {contacts : List Contact} {extra : Nat}
    (hpieces : mailbox.ServesPieces (evaluator.pageAt user folder 0)
      (InMemory.folder contacts folder evaluator.config.sort) extra) :
    ((∀ offset, ∃ page,
        mailbox.page (evaluator.pageAt user folder offset) = .ok page) →
      (evaluator.listMissing mailbox user folder property).value =
        .ok (evaluator.lacking contacts folder property)) ∧
    (∀ result,
      (evaluator.listMissing mailbox user folder property).value = .ok result →
      result = evaluator.lacking contacts folder property) ∧
    (∀ error,
      (evaluator.listMissing mailbox user folder property).value =
        .error error ↔
      ∃ offset, .call (.page (evaluator.pageAt user folder offset)) ∈
          (evaluator.listMissing mailbox user folder property).trace ∧
        mailbox.page (evaluator.pageAt user folder offset) = .error error) ∧
    (∃ earlier,
      mailbox.Listing (evaluator.table.lacks property)
        (evaluator.pageAt user folder 0) [] earlier
        (evaluator.listMissing mailbox user folder property) ∧
      earlier.flatten <+:
        InMemory.folder contacts folder evaluator.config.sort ∧
      (∀ last,
        mailbox.page (evaluator.pageAt user folder earlier.flatten.length) =
          .ok last →
        earlier.flatten ++ last <+:
          InMemory.folder contacts folder evaluator.config.sort) ∧
      earlier.length ≤
        (InMemory.folder contacts folder evaluator.config.sort).length /
          evaluator.config.maxResults) ∧
    (evaluator.missing property ⟨user, some mailbox⟩ folder).value =
      ((evaluator.listMissing mailbox user folder
        property).value.toOption.getD []).map .mk := by
  obtain ⟨earlier, hlisting⟩ :=
    exists_listing_listMissing evaluator mailbox user folder property
  have hprefix := hlisting.earlier_prefix hpieces
  refine ⟨?_, ?_, ?_, ⟨earlier, hlisting, ?_, ?_, ?_⟩, ?_⟩
  · intro hanswers
    rcases listMissing_answers_or_fails hpieces with
      hanswer | ⟨offset, error, hpage, -⟩
    · exact hanswer
    · obtain ⟨page, hanswered⟩ := hanswers offset
      cases hpage.symm.trans hanswered
  · intro result hresult
    rcases listMissing_answers_or_fails hpieces with
      hanswer | ⟨_, _, -, hfailure⟩
    · exact Except.ok.inj (hresult.symm.trans hanswer)
    · cases hresult.symm.trans hfailure
  · intro error
    exact hlisting.value_error_iff
  · exact hprefix
  · intro last hlast
    apply hlisting.last_prefix hpieces
    rw [← hlast]
    simp [pageAt]
  · apply hlisting.length_earlier_le.trans
    exact Nat.div_le_div_right hprefix.length_le
  · exact value_missing

end Listings

end Evaluator

/-- Two contacts with a nickname, and one that stores a blank in its place. -/
def nicknames : List Contact :=
  [(Contact.ofId 1 7).set "nickname" "Ace",
    (Contact.ofId 2 7).set "nickname" "Bee",
    ⟨3, 7, .insert .empty "nickname" ""⟩]

def oneAtATime : Evaluator := ⟨.cardDav, ⟨1, .nameAscending, [.contact]⟩⟩

def longPages : Mailbox :=
  (InMemory.mailbox nicknames).withFaults
    { Faults.harmless with pageExtra := 1 }

theorem blank_nickname_listed :
    longPages.ServesPieces (oneAtATime.pageAt "user" 7 0)
        (InMemory.folder nicknames 7 oneAtATime.config.sort) 1 ∧
      (oneAtATime.listMissing longPages "user" 7 "NICKNAME").value =
        .ok [⟨3, 7, .insert .empty "nickname" ""⟩] := by
  have hpieces := (Mailbox.pagesOf_withFaults nicknames
    { Faults.harmless with pageExtra := 1 }).servesPieces
    (oneAtATime.pageAt "user" 7 0)
  have hfolder :
      InMemory.folder nicknames 7 oneAtATime.config.sort = nicknames :=
    SortOrder.sort_of_sorted (by decide +kernel)
  obtain ⟨hlisted, -⟩ := Evaluator.listMissing_exact hpieces
  refine ⟨hpieces, (hlisted fun _ => ⟨_, rfl⟩).trans ?_⟩
  unfold Evaluator.lacking
  rw [hfolder]
  decide +kernel

end AddressBook

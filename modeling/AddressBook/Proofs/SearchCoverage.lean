import AddressBook.Proofs.PatternPlacement
import AddressBook.Proofs.RecordAgreement
import AddressBook.Proofs.SeveralValues
import AddressBook.Property.CardDav

/-!
# Searching covers matching

A search knows neither the match type nor the collation of a text-match and
skips the param-filters beside it, but on ASCII text it is on the safe side:
whatever way a pattern has to lie in a value, in lower case it lies somewhere in
it (`contains_lower_of_finds`).  This is carried through the compiled query, the
branches and the test of the filter.
-/

namespace AddressBook

/-! ## Found means contained -/

namespace TextMatch

variable {t : TextMatch}

/-- Whatever the match type and the collation, a value in which the pattern is
found contains it up to case. -/
theorem contains_lower_of_finds (hpattern : Text.IsAscii t.pattern)
    {value : String} (hvalue : Text.IsAscii value)
    (hfinds : t.finds value = true) :
    Text.contains (Text.lower value) (Text.lower t.pattern) = true := by
  have hfolded :
      MatchType.contains.test (t.collation.fold value)
        (t.collation.fold t.pattern) = true :=
    MatchType.contains_of_test hfinds
  rw [Text.lower_eq_asciiLower hvalue, Text.lower_eq_asciiLower hpattern]
  cases hcollation : t.collation with
  | asciiCasemap =>
      rw [hcollation] at hfolded
      exact hfolded
  | unicodeCasemap =>
      rw [hcollation] at hfolded
      simp only [Collation.fold, Text.fold_eq_asciiLower hvalue,
        Text.fold_eq_asciiLower hpattern] at hfolded
      exact hfolded
  | octet =>
      rw [hcollation] at hfolded
      exact MatchType.test_fold .asciiCasemap hfolded

theorem any_contains_lower_of_any_finds (hpattern : Text.IsAscii t.pattern)
    {values : List String} (hvalues : ∀ value ∈ values, Text.IsAscii value)
    (hfinds : values.any t.finds = true) :
    values.any
      (fun value => Text.contains (Text.lower value) (Text.lower t.pattern)) =
        true := by
  obtain ⟨value, hvalue, hfound⟩ := List.any_eq_true.mp hfinds
  have hcontains :=
    contains_lower_of_finds hpattern (hvalues value hvalue) hfound
  exact List.any_eq_true.mpr ⟨value, hvalue, hcontains⟩

end TextMatch

/-! ## The compiled query -/

section Queries

variable {table : PropertyTable} {contact : Contact} {p : PropFilter}
  {t : TextMatch} {query : Query}

/-- A contact answers the query of a text-match when the pattern lies in one of
its values, or for a negated one when it lies in none. -/
theorem Contact.satisfies_compileTextMatch
    (hquery : table.compileTextMatch t = some query) :
    contact.satisfies query =
      ((table.valuesOf contact t.enclosing).any
          (fun value =>
            Text.contains (Text.lower value) (Text.lower t.pattern)) !=
        t.negate) := by
  rw [PropertyTable.eq_of_compile hquery, Contact.satisfies_compiled]
  rfl

/-- What a contact needs for a prop-filter with a text-match to hold of it. -/
theorem PropFilter.valuesOf_of_accepts (hpresence : p.isNotDefined = false)
    (htext : p.textMatch = some t) (haccepts : p.accepts table contact = true) :
    table.valuesOf contact p.name ≠ [] ∧
      t.acceptsAny (table.valuesOf contact p.name) = true := by
  unfold PropFilter.accepts PropFilter.acceptsValues at haccepts
  rw [hpresence, htext] at haccepts
  cases hvalues : table.valuesOf contact p.name with
  | nil => simp [hvalues] at haccepts
  | cons value rest =>
      rw [hvalues] at haccepts
      have hboth : (p.paramFilters.all (·.acceptsValues (value :: rest)) &&
          t.acceptsAny (value :: rest)) = true := haccepts
      exact ⟨List.cons_ne_nil _ _, (Bool.and_eq_true_iff.mp hboth).2⟩

theorem PropFilter.valuesOf_eq_nil_of_accepts (habsence : p.isNotDefined = true)
    (haccepts : p.accepts table contact = true) :
    table.valuesOf contact p.name = [] := by
  unfold PropFilter.accepts PropFilter.acceptsValues at haccepts
  rw [habsence] at haccepts
  cases hvalues : table.valuesOf contact p.name with
  | nil => rfl
  | cons value rest => simp [hvalues] at haccepts

theorem PropertyTable.exists_compileTextMatch
    (hvalues : table.valuesOf contact t.enclosing ≠ []) :
    ∃ query, table.compileTextMatch t = some query := by
  apply PropertyTable.exists_compile
  intro hunmapped
  apply hvalues
  unfold PropertyTable.valuesOf
  rw [PropertyTable.keysOf_eq_nil_iff.mpr hunmapped, List.filterMap_nil]

end Queries

/-! ## The branches -/

/-- Asks for absence, or for an ASCII pattern in the property that it names. -/
def PropFilter.IsPositive (p : PropFilter) : Prop :=
  p.isNotDefined = true ∨
    ∃ t, p.textMatch = some t ∧ t.negate = false ∧ t.enclosing = p.name ∧
      Text.IsAscii t.pattern

namespace Evaluator

variable {evaluator : Evaluator} {contacts : List Contact} {user : String}
  {contact : Contact} {p : PropFilter}

/-- Evaluating a positive prop-filter brings every contact of the folder that it
holds of. -/
theorem mem_evaluateProp_of_accepts (hpositive : p.IsPositive)
    (hascii : contact.IsAscii)
    (htypes : ItemType.contact ∈ evaluator.config.targetTypes)
    (hlimit : contacts.length ≤ evaluator.config.maxResults)
    (hcontact : contact ∈ contacts)
    (haccepts : p.accepts evaluator.table contact = true) :
    .mk contact ∈ (evaluator.evaluateProp p
      ⟨user, some (InMemory.mailbox contacts)⟩ contact.folder).value := by
  by_cases habsence : p.isNotDefined = true
  · have hlacks : evaluator.table.valuesOf contact p.name = [] :=
      PropFilter.valuesOf_eq_nil_of_accepts habsence haccepts
    rw [evaluateProp_of_absence _ _ _ habsence, mem_missing_iff hlimit]
    exact ⟨hcontact, rfl, hlacks⟩
  · have hpresence : p.isNotDefined = false := Bool.not_eq_true _ ▸ habsence
    obtain ⟨t, htext, hnegate, henclosing, hpattern⟩ :=
      hpositive.resolve_left habsence
    obtain ⟨hvalues, hany⟩ :=
      PropFilter.valuesOf_of_accepts hpresence htext haccepts
    rw [← henclosing] at hvalues hany
    have hfinds :
        (evaluator.table.valuesOf contact t.enclosing).any t.finds = true := by
      unfold TextMatch.acceptsAny at hany
      rw [hnegate] at hany
      simpa using hany
    have hcontains := TextMatch.any_contains_lower_of_any_finds hpattern
      (hascii.valuesOf evaluator.table t.enclosing) hfinds
    obtain ⟨query, hquery⟩ := PropertyTable.exists_compileTextMatch hvalues
    have hsatisfies : contact.satisfies query = true := by
      rw [Contact.satisfies_compileTextMatch hquery, hcontains, hnegate]
      rfl
    rw [evaluateProp_of_textMatch _ _ _ hpresence htext,
      mem_search_iff htypes hlimit hquery]
    exact ⟨hcontact, rfl, hsatisfies⟩

/-- The other way round for a negated pattern: whatever contact its search
brings, the prop-filter holds of it, unless the contact lacks the property.  The
limit does not matter here. -/
theorem accepts_of_mem_evaluateProp {t : TextMatch} {folder : UInt32}
    {object : AddressObject} (htext : p.textMatch = some t)
    (hnegate : t.negate = true) (hparams : p.paramFilters = [])
    (henclosing : t.enclosing = p.name) (hpattern : Text.IsAscii t.pattern)
    (hascii : ∀ c ∈ contacts, c.IsAscii)
    (hobject : object ∈ (evaluator.evaluateProp p
      ⟨user, some (InMemory.mailbox contacts)⟩ folder).value)
    (hvalues : evaluator.table.valuesOf object.contact p.name ≠ []) :
    p.accepts evaluator.table object.contact = true := by
  cases hpresence : p.isNotDefined with
  | true =>
      rw [evaluateProp_of_absence _ _ _ hpresence] at hobject
      obtain ⟨-, -, hlacks⟩ := of_mem_missing hobject
      exact absurd hlacks hvalues
  | false =>
      rw [evaluateProp_of_textMatch _ _ _ hpresence htext] at hobject
      obtain ⟨query, hquery⟩ :=
        PropertyTable.exists_compileTextMatch (henclosing ▸ hvalues)
      obtain ⟨hstored, -, hsatisfies⟩ := of_mem_search hquery hobject
      have hnone :
          (evaluator.table.valuesOf object.contact t.enclosing).any t.finds =
            false := by
        rw [Bool.eq_false_iff]
        intro hfinds
        have hcontains := TextMatch.any_contains_lower_of_any_finds hpattern
          ((hascii _ hstored).valuesOf evaluator.table t.enclosing) hfinds
        rw [Contact.satisfies_compileTextMatch hquery, hcontains,
          hnegate] at hsatisfies
        exact Bool.false_ne_true hsatisfies
      rw [PropFilter.accepts_eq_acceptsAny hpresence htext hparams hvalues]
      unfold TextMatch.acceptsAny
      rw [← henclosing, hnone, hnegate]
      rfl

end Evaluator

/-! ## The filter -/

theorem Filter.holdsBy_of_imp {filter : Filter}
    {holds stronger : PropFilter → Bool}
    (himp : ∀ p ∈ filter.propFilters, stronger p = true → holds p = true)
    (hstronger : filter.holdsBy stronger = true) :
    filter.holdsBy holds = true := by
  unfold Filter.holdsBy at hstronger ⊢
  cases htest : filter.test with
  | anyOf =>
      rw [htest] at hstronger
      obtain ⟨p, hp, hholds⟩ := List.any_eq_true.mp hstronger
      exact List.any_eq_true.mpr ⟨p, hp, himp p hp hholds⟩
  | allOf =>
      rw [htest] at hstronger
      obtain ⟨hsome, hall⟩ := Bool.and_eq_true_iff.mp hstronger
      have himplied : filter.propFilters.all holds = true := by
        rw [List.all_eq_true] at hall ⊢
        intro p hp
        exact himp p hp (hall p hp)
      exact Bool.and_eq_true_iff.mpr ⟨hsome, himplied⟩

/-- An evaluation brings a contact when the filter's test holds of prop-filters
whose branches are known to bring it. -/
theorem Evaluator.id_mem_evaluate_of_holdsBy {evaluator : Evaluator}
    {filter : Filter} {context : RequestContext} {folder id : UInt32}
    {holds : PropFilter → Bool}
    (hbranch : ∀ p ∈ filter.propFilters, holds p = true →
      id ∈ (evaluator.evaluateProp p context folder).value.map AddressObject.id)
    (hholds : filter.holdsBy holds = true) :
    id ∈ (evaluator.evaluate filter context folder).value.map
      AddressObject.id := by
  have hbrought :
      id ∈
          (evaluator.evaluate filter context folder).value.map
            AddressObject.id ↔
        filter.holdsBy (fun p => decide (id ∈
          (evaluator.evaluateProp p context folder).value.map
            AddressObject.id)) = true := by
    apply Evaluator.id_mem_evaluate_iff
    intro p _
    exact decide_eq_true_iff.symm
  rw [hbrought]
  refine Filter.holdsBy_of_imp ?_ hholds
  intro p hp hstronger
  exact decide_eq_true (hbranch p hp hstronger)

/-- Searching brings every contact of the folder that a positive filter holds
of, whatever match types, collations and param-filters it has; and the search
for a negated pattern brings none with values that the prop-filter does not hold
of. -/
theorem search_covers_positive_filters (table : PropertyTable) (config : Config)
    (contacts : List Contact) (user : String) (folder : UInt32)
    (hascii : ∀ c ∈ contacts, c.IsAscii) :
    (∀ filter : Filter, ItemType.contact ∈ config.targetTypes →
      contacts.length ≤ config.maxResults →
      (∀ p ∈ filter.propFilters, p.IsPositive) →
      ∀ contact ∈ contacts, contact.folder = folder →
      filter.accepts table contact = true →
      contact.id ∈ ((Evaluator.mk table config).evaluate filter
        ⟨user, some (InMemory.mailbox contacts)⟩ folder).value.map
          AddressObject.id) ∧
    (∀ (p : PropFilter) (t : TextMatch), p.textMatch = some t →
      t.negate = true → p.paramFilters = [] → t.enclosing = p.name →
      Text.IsAscii t.pattern →
      ∀ object ∈ ((Evaluator.mk table config).evaluateProp p
        ⟨user, some (InMemory.mailbox contacts)⟩ folder).value,
      table.valuesOf object.contact p.name ≠ [] →
      p.accepts table object.contact = true) := by
  constructor
  · intro filter htypes hlimit hpositive contact hcontact hfolder haccepts
    subst hfolder
    rw [Filter.accepts_eq_holdsBy] at haccepts
    refine Evaluator.id_mem_evaluate_of_holdsBy ?_ haccepts
    intro p hp hholds
    exact List.mem_map_of_mem
      (Evaluator.mem_evaluateProp_of_accepts (hpositive p hp)
        (hascii contact hcontact) htypes hlimit hcontact hholds)
  · intro p t htext hnegate hparams henclosing hpattern object hobject hvalues
    exact Evaluator.accepts_of_mem_evaluateProp htext hnegate hparams henclosing
      hpattern hascii hobject hvalues

def dora : Contact :=
  ((Contact.ofId 3 7).set "fullName" "Dora").set "email" "dora@x.org"

/-- Asks for contacts without a nickname whose e-mail address starts with a
text, case included, and ends with another. -/
def startsWithAlice : Filter where
  test := .allOf
  propFilters :=
    [⟨"EMAIL", false, some ⟨"Alice@", false, .octet, .startsWith, "EMAIL"⟩,
        [⟨"TYPE", false,
          some ⟨"X.ORG", false, .unicodeCasemap, .endsWith, "TYPE"⟩⟩]⟩,
      ⟨"NICKNAME", true, none, []⟩]

def notAliceItself : PropFilter :=
  ⟨"EMAIL", false, some ⟨"Alice@", true, .asciiCasemap, .equals, "EMAIL"⟩, []⟩

/-- Alice is found by the part of the filter that a search knows, and Dora, whom
the search for others finds, is one. -/
theorem search_covers_alice_and_dora :
    1 ∈ ((Evaluator.mk .cardDav default).evaluate startsWithAlice
        ⟨"user", some (InMemory.mailbox [alice, dora])⟩ 7).value.map
          AddressObject.id ∧
      .mk dora ∈ ((Evaluator.mk .cardDav default).evaluateProp notAliceItself
        ⟨"user", some (InMemory.mailbox [alice, dora])⟩ 7).value ∧
      notAliceItself.accepts .cardDav dora = true := by
  have hpositive : ∀ p ∈ startsWithAlice.propFilters, p.IsPositive := by
    intro p hp
    rcases List.mem_pair.mp hp with rfl | rfl
    · exact .inr ⟨_, rfl, rfl, rfl, by decide⟩
    · exact .inl rfl
  have hdora :
      AddressObject.mk dora ∈
        ((Evaluator.mk .cardDav default).evaluateProp notAliceItself
          ⟨"user", some (InMemory.mailbox [alice, dora])⟩ 7).value := by
    decide +kernel
  obtain ⟨hcovers, hexcludes⟩ :=
    search_covers_positive_filters .cardDav default [alice, dora] "user" 7
      (by decide)
  have halice :=
    hcovers startsWithAlice (by decide) (by decide) hpositive alice (by simp)
      rfl (by decide +kernel)
  have hother :=
    hexcludes notAliceItself _ rfl rfl rfl rfl (by decide) _ hdora
      (by decide +kernel)
  exact ⟨halice, hdora, hother⟩

end AddressBook

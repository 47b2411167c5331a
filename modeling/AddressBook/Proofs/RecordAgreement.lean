import AddressBook.Evaluation.Record
import AddressBook.Proofs.BranchAnswers
import Mathlib.Data.List.Nodup

/-!
# Searching agrees with matching records

A filter can be evaluated by searching an in-memory mailbox or be held against
each contact of the folder.  On ASCII text the two agree for absences and for
patterns under their own name, except that a search for a negated pattern also
finds the contacts without a value.  `Contact.satisfies_compiled` brings the two
ways into one form.
-/

namespace AddressBook

/-! ## Matching with the difference -/

namespace PropFilter

variable {ρ : Type} [Record ρ] {p : PropFilter} {t : TextMatch}
  {table : PropertyTable} {record : ρ}

/-- Whether the record lacks the property and the prop-filter does not mind: it
looks for something that is not there, under a property that is mapped. -/
def toleratesLack (p : PropFilter) (table : PropertyTable) (record : ρ) :
    Bool :=
  !p.isNotDefined && p.textMatch.any (·.negate) &&
    (table.lookup p.name).isSome &&
    (table.valuesOf record p.name).isEmpty

def acceptsOrLacks (p : PropFilter) (table : PropertyTable) (record : ρ) :
    Bool :=
  p.accepts table record || p.toleratesLack table record

theorem acceptsOrLacks_of_absence (habsence : p.isNotDefined = true) :
    p.acceptsOrLacks table record = (table.valuesOf record p.name).isEmpty := by
  unfold acceptsOrLacks accepts acceptsValues toleratesLack
  rw [habsence]
  cases (table.valuesOf record p.name).isEmpty <;> rfl

theorem acceptsOrLacks_of_unmapped (hpresence : p.isNotDefined = false)
    (hunmapped : table.lookup p.name = none) :
    p.acceptsOrLacks table record = false := by
  have hvalues : table.valuesOf record p.name = [] := by
    unfold PropertyTable.valuesOf
    rw [PropertyTable.keysOf_eq_nil_iff.mpr hunmapped, List.filterMap_nil]
  unfold acceptsOrLacks accepts acceptsValues toleratesLack
  rw [hvalues, hpresence, hunmapped]
  simp

/-- On a mapped property the tolerated lack is the text-match held against no
values at all. -/
theorem acceptsOrLacks_of_mapped (hpresence : p.isNotDefined = false)
    (htext : p.textMatch = some t) (hparams : p.paramFilters = [])
    (hmapped : table.lookup p.name ≠ none) :
    p.acceptsOrLacks table record =
      t.acceptsAny (table.valuesOf record p.name) := by
  have hsome : (table.lookup p.name).isSome = true :=
    Option.isSome_iff_ne_none.mpr hmapped
  unfold acceptsOrLacks accepts acceptsValues toleratesLack
  rw [hpresence, htext, hparams, hsome]
  cases hvalues : table.valuesOf record p.name with
  | nil => simp [TextMatch.acceptsAny]
  | cons value rest => simp

end PropFilter

namespace Filter

/-- The verdict of a filter whose prop-filters are judged by the given test. -/
def holdsBy (filter : Filter) (holds : PropFilter → Bool) : Bool :=
  match filter.test with
  | .anyOf => filter.propFilters.any holds
  | .allOf => !filter.isEmpty && filter.propFilters.all holds

/-- Whether the filter holds of the record, where a negated text-match on a
mapped property also holds of a record without values for it. -/
def acceptsOrLacks {ρ : Type} [Record ρ] (filter : Filter)
    (table : PropertyTable) (record : ρ) : Bool :=
  filter.holdsBy (·.acceptsOrLacks table record)

theorem accepts_eq_holdsBy {ρ : Type} [Record ρ] (filter : Filter)
    (table : PropertyTable) (record : ρ) :
    filter.accepts table record = filter.holdsBy (·.accepts table record) := rfl

end Filter

/-- An evaluation brings a contact when the filter's test holds of the branches
that bring it. -/
theorem Evaluator.id_mem_evaluate_iff {evaluator : Evaluator} {filter : Filter}
    {context : RequestContext} {folder id : UInt32} {holds : PropFilter → Bool}
    (hbranch : ∀ p ∈ filter.propFilters,
      (id ∈
        (evaluator.evaluateProp p context folder).value.map AddressObject.id ↔
        holds p = true)) :
    id ∈ (evaluator.evaluate filter context folder).value.map AddressObject.id ↔
      filter.holdsBy holds = true := by
  rw [Evaluator.value_evaluate]
  unfold Filter.holdsBy
  cases filter.test with
  | anyOf =>
      rw [mem_ids_combine_anyOf, List.any_eq_true]
      constructor
      · rintro ⟨list, hlist, hmem⟩
        obtain ⟨p, hp, rfl⟩ := List.mem_map.mp hlist
        exact ⟨p, hp, (hbranch p hp).mp hmem⟩
      · rintro ⟨p, hp, hholds⟩
        exact ⟨_, List.mem_map_of_mem hp, (hbranch p hp).mpr hholds⟩
  | allOf =>
      rw [mem_ids_combine_allOf, List.forall_mem_map, Bool.and_eq_true,
        List.all_eq_true]
      apply and_congr
      · simp [Filter.isEmpty]
      · constructor
        · intro hall p hp
          exact (hbranch p hp).mp (hall p hp)
        · intro hall p hp
          exact (hbranch p hp).mpr (hall p hp)

/-! ## One form for both ways -/

/-- A contact answers a query with one pattern under several keys when some
value under these keys contains the pattern, or when none does and the query is
negated. -/
theorem Contact.satisfies_compiled (contact : Contact) (negated : Bool)
    (keys : List String) (pattern : String) :
    contact.satisfies ⟨negated, keys.map fun key => ⟨key, pattern⟩⟩ =
      ((keys.filterMap (Record.value? contact)).any
        (fun value => Text.contains (Text.lower value) (Text.lower pattern)) !=
          negated) := by
  unfold Contact.satisfies
  congr 1
  induction keys with
  | nil => rfl
  | cons key rest ih =>
      rw [List.map_cons, List.any_cons, ih, List.filterMap_cons]
      unfold Contact.holds
      cases Record.value? contact key with
      | none => rfl
      | some value => rfl

namespace TextMatch

variable {t : TextMatch}

/-- Looks for its pattern anywhere in a value, up to case. -/
def ContainsUpToCase (t : TextMatch) : Prop :=
  t.matchType = .contains ∧
  (t.collation = .asciiCasemap ∨ t.collation = .unicodeCasemap)

theorem finds_eq_of_ascii (hcontains : t.ContainsUpToCase)
    (hpattern : Text.IsAscii t.pattern) {value : String}
    (hvalue : Text.IsAscii value) :
    t.finds value =
      Text.contains (Text.lower value) (Text.lower t.pattern) := by
  obtain ⟨hmatchType, hcollation⟩ := hcontains
  unfold finds
  rw [hmatchType, Text.lower_eq_asciiLower hvalue,
    Text.lower_eq_asciiLower hpattern]
  rcases hcollation with hascii | hunicode
  · rw [hascii]
    rfl
  · rw [hunicode]
    unfold Collation.fold
    simp only [Text.fold_eq_asciiLower hvalue, Text.fold_eq_asciiLower hpattern]
    rfl

theorem acceptsAny_eq_of_ascii (hcontains : t.ContainsUpToCase)
    (hpattern : Text.IsAscii t.pattern) {values : List String}
    (hvalues : ∀ value ∈ values, Text.IsAscii value) :
    t.acceptsAny values =
      (values.any
          (fun value =>
            Text.contains (Text.lower value) (Text.lower t.pattern)) !=
        t.negate) := by
  unfold acceptsAny
  congr 1
  induction values with
  | nil => rfl
  | cons value rest ih =>
      obtain ⟨hvalue, hrest⟩ := List.forall_mem_cons.mp hvalues
      rw [List.any_cons, List.any_cons, ih hrest,
        finds_eq_of_ascii hcontains hpattern hvalue]

end TextMatch

/-- A contact all of whose stored values are ASCII. -/
def Contact.IsAscii (contact : Contact) : Prop :=
  ∀ entry ∈ contact.attributes.entries, Text.IsAscii entry.2

instance (contact : Contact) : Decidable contact.IsAscii :=
  inferInstanceAs
    (Decidable (∀ entry ∈ contact.attributes.entries, Text.IsAscii entry.2))

theorem Contact.IsAscii.valuesOf {contact : Contact} (hascii : contact.IsAscii)
    (table : PropertyTable) (property : String) :
    ∀ value ∈ table.valuesOf contact property, Text.IsAscii value := by
  intro value hmem
  obtain ⟨key, -, hvalue⟩ := List.mem_filterMap.mp hmem
  have hget : contact.attributes.get? key = some value :=
    (Option.filter_eq_some_iff.mp hvalue).1
  exact hascii (key, value) ((contact.attributes.get?_eq_some_iff).mp hget)

/-! ## Branch by branch -/

/-- The prop-filters on which both ways are compared: those that ask for
absence, and those that look for an ASCII pattern, up to case, anywhere in the
property that they name. -/
def PropFilter.Comparable (p : PropFilter) : Prop :=
  p.isNotDefined = true ∨
    ∃ t, p.textMatch = some t ∧ t.ContainsUpToCase ∧ Text.IsAscii t.pattern ∧
      t.enclosing = p.name ∧ p.paramFilters = []

section Branches

variable {table : PropertyTable} {config : Config} {contacts : List Contact}
  {user : String} {contact : Contact}

/-- Where no two contacts share a number, a list of objects made of them holds a
contact when it holds its number. -/
theorem id_mem_iff_of_distinct (hdistinct : (contacts.map Contact.id).Nodup)
    (hcontact : contact ∈ contacts) {objects : List AddressObject}
    (hstored : ∀ object ∈ objects, object.contact ∈ contacts) :
    contact.id ∈ objects.map AddressObject.id ↔ .mk contact ∈ objects := by
  constructor
  · intro hmem
    obtain ⟨object, hobject, hid⟩ := List.mem_map.mp hmem
    have hsame : object.contact = contact :=
      List.inj_on_of_nodup_map hdistinct (hstored object hobject) hcontact hid
    rw [← hsame]
    exact hobject
  · intro hmem
    exact List.mem_map.mpr ⟨_, hmem, rfl⟩

theorem id_mem_missing_iff (hdistinct : (contacts.map Contact.id).Nodup)
    (hlimit : contacts.length ≤ config.maxResults)
    (hcontact : contact ∈ contacts) (property : String) :
    contact.id ∈ ((Evaluator.mk table config).missing property
        ⟨user, some (InMemory.mailbox contacts)⟩ contact.folder).value.map
          AddressObject.id ↔
      (table.valuesOf contact property).isEmpty = true := by
  rw [id_mem_iff_of_distinct hdistinct hcontact,
    Evaluator.mem_missing_iff hlimit]
  · simp [hcontact]
  · intro object hobject
    exact ((Evaluator.mem_missing_iff hlimit).mp hobject).1

theorem id_mem_search_iff {t : TextMatch} {query : Query}
    (hdistinct : (contacts.map Contact.id).Nodup)
    (htypes : ItemType.contact ∈ config.targetTypes)
    (hlimit : contacts.length ≤ config.maxResults)
    (hcontact : contact ∈ contacts)
    (hquery : table.compileTextMatch t = some query) :
    contact.id ∈ ((Evaluator.mk table config).search t
        ⟨user, some (InMemory.mailbox contacts)⟩ contact.folder).value.map
          AddressObject.id ↔
      contact.satisfies query = true := by
  rw [id_mem_iff_of_distinct hdistinct hcontact,
    Evaluator.mem_search_iff htypes hlimit hquery]
  · simp [hcontact]
  · intro object hobject
    exact (Evaluator.of_mem_search hquery hobject).1

theorem id_mem_evaluateProp_iff {p : PropFilter} (hp : p.Comparable)
    (hdistinct : (contacts.map Contact.id).Nodup) (hascii : contact.IsAscii)
    (htypes : ItemType.contact ∈ config.targetTypes)
    (hlimit : contacts.length ≤ config.maxResults)
    (hcontact : contact ∈ contacts) :
    contact.id ∈ ((Evaluator.mk table config).evaluateProp p
        ⟨user, some (InMemory.mailbox contacts)⟩ contact.folder).value.map
          AddressObject.id ↔
      p.acceptsOrLacks table contact = true := by
  by_cases habsence : p.isNotDefined = true
  · rw [Evaluator.evaluateProp_of_absence _ _ _ habsence,
      id_mem_missing_iff hdistinct hlimit hcontact,
      PropFilter.acceptsOrLacks_of_absence habsence]
  · have hpresence : p.isNotDefined = false := Bool.not_eq_true _ ▸ habsence
    obtain ⟨t, htext, hcontains, hpattern, henclosing, hparams⟩ :=
      hp.resolve_left habsence
    rw [Evaluator.evaluateProp_of_textMatch _ _ _ hpresence htext]
    by_cases hmapped : table.lookup p.name = none
    · have hquery : table.compileTextMatch t = none := by
        unfold PropertyTable.compileTextMatch
        rw [henclosing]
        exact PropertyTable.compile_eq_none_iff.mpr hmapped
      rw [Evaluator.search_of_unmapped hquery,
        PropFilter.acceptsOrLacks_of_unmapped hpresence hmapped]
      simp
    · obtain ⟨query, hquery⟩ :
          ∃ query, table.compileTextMatch t = some query := by
        unfold PropertyTable.compileTextMatch
        rw [henclosing]
        exact PropertyTable.exists_compile hmapped
      rw [id_mem_search_iff hdistinct htypes hlimit hcontact hquery,
        PropertyTable.eq_of_compile hquery, henclosing,
        Contact.satisfies_compiled,
        PropFilter.acceptsOrLacks_of_mapped hpresence htext hparams hmapped,
        TextMatch.acceptsAny_eq_of_ascii hcontains hpattern
          (hascii.valuesOf table p.name)]
      rfl

end Branches

/-- A contact of the folder is found by searching when the filter holds of it,
where a negated pattern also counts as not found in a mapped property that the
contact lacks. -/
theorem id_mem_evaluate_iff_acceptsOrLacks (table : PropertyTable)
    (config : Config) (contacts : List Contact) (user : String)
    (folder : UInt32) (filter : Filter)
    (hdistinct : (contacts.map Contact.id).Nodup)
    (hascii : ∀ c ∈ contacts, c.IsAscii)
    (htypes : ItemType.contact ∈ config.targetTypes)
    (hlimit : contacts.length ≤ config.maxResults)
    (hfilter : ∀ p ∈ filter.propFilters, p.Comparable) (contact : Contact)
    (hcontact : contact ∈ contacts) (hfolder : contact.folder = folder) :
    contact.id ∈ ((Evaluator.mk table config).evaluate filter
        ⟨user, some (InMemory.mailbox contacts)⟩ folder).value.map
          AddressObject.id ↔
      filter.acceptsOrLacks table contact = true := by
  subst hfolder
  apply Evaluator.id_mem_evaluate_iff
  intro p hp
  exact id_mem_evaluateProp_iff (hfilter p hp) hdistinct
    (hascii contact hcontact) htypes hlimit hcontact

def alice : Contact :=
  ((Contact.ofId 1 7).set "fullName" "Alice").set "email" "Alice@x.org"

def bob : Contact :=
  (Contact.ofId 2 7).set "fullName" "Bob"

def emailTable : PropertyTable :=
  .ofRegistrations
    [.subtype "EMAIL" "internet" ["email", "email2"], .simple "nickname" "nick"]

/-- Asks for contacts without a nickname whose e-mail addresses are not
Alice's. -/
def notAlice : Filter where
  test := .allOf
  propFilters :=
    [⟨"email", false, some (.ofPattern "email" "ALICE@" true), []⟩,
      ⟨"NICKNAME", true, some (.ofPattern "FN" "b" false), []⟩]

/-- Bob, who has no e-mail address, is found, although the filter does not hold
of him. -/
theorem bob_mem_evaluate_notAlice :
    2 ∈ ((Evaluator.mk emailTable default).evaluate notAlice
        ⟨"user", some (InMemory.mailbox [alice, bob])⟩ 7).value.map
          AddressObject.id ∧
      1 ∉ ((Evaluator.mk emailTable default).evaluate notAlice
        ⟨"user", some (InMemory.mailbox [alice, bob])⟩ 7).value.map
          AddressObject.id ∧
      notAlice.accepts emailTable bob = false := by
  have hcomparable : ∀ p ∈ notAlice.propFilters, p.Comparable := by
    intro p hp
    rcases List.mem_pair.mp hp with rfl | rfl
    · exact .inr ⟨_, rfl, ⟨rfl, .inl rfl⟩, by decide, rfl, rfl⟩
    · exact .inl rfl
  have hagree :=
    id_mem_evaluate_iff_acceptsOrLacks emailTable default [alice, bob] "user" 7
      notAlice (by decide) (by decide) (by decide) (by decide) hcomparable
  refine ⟨(hagree bob (by simp) rfl).mpr (by decide), ?_, by decide⟩
  intro hmem
  have haccepts := (hagree alice (by simp) rfl).mp hmem
  revert haccepts
  decide

end AddressBook

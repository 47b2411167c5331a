import AddressBook.Evaluation.Record
import AddressBook.Property.CardDav

/-!
# Values tested together

A text-match tests several values together by negating the outcome for all of
them, and a single value by negating what was found there.  The two are one
test: without negation some value has to be accepted, and with it every value
(`TextMatch.acceptsAny_eq`).  So only the set of the values counts, and a
text-match and its negation always disagree.
-/

namespace AddressBook

namespace TextMatch

variable {t : TextMatch} {values others : List String}

theorem acceptsAny_eq (t : TextMatch) (values : List String) :
    t.acceptsAny values =
      if t.negate then values.all t.accepts else values.any t.accepts := by
  unfold acceptsAny accepts
  cases t.negate with
  | false => simp
  | true => simp [List.all_eq_not_any_not]

theorem acceptsAny_iff_exists (hplain : t.negate = false) :
    t.acceptsAny values = true ↔ ∃ value ∈ values, t.accepts value = true := by
  rw [acceptsAny_eq, hplain, if_neg Bool.false_ne_true, List.any_eq_true]

theorem acceptsAny_iff_forall (hnegated : t.negate = true) :
    t.acceptsAny values = true ↔ ∀ value ∈ values, t.accepts value = true := by
  rw [acceptsAny_eq, if_pos hnegated, List.all_eq_true]

theorem acceptsAny_congr (hsame : ∀ value, value ∈ values ↔ value ∈ others) :
    t.acceptsAny values = t.acceptsAny others := by
  cases hnegate : t.negate with
  | false =>
      rw [Bool.eq_iff_iff, acceptsAny_iff_exists hnegate,
        acceptsAny_iff_exists hnegate]
      simp only [hsame]
  | true =>
      rw [Bool.eq_iff_iff, acceptsAny_iff_forall hnegate,
        acceptsAny_iff_forall hnegate]
      simp only [hsame]

theorem acceptsAny_flipped (t : TextMatch) (values : List String) :
    { t with negate := !t.negate }.acceptsAny values =
      !t.acceptsAny values := by
  unfold acceptsAny
  exact Bool.bne_not _ _

end TextMatch

/-- What a prop-filter with nothing but a text-match asks of the values of a
record that has some. -/
theorem PropFilter.accepts_eq_acceptsAny {ρ : Type} [Record ρ] {p : PropFilter}
    {t : TextMatch} {table : PropertyTable} {record : ρ}
    (hpresence : p.isNotDefined = false) (htext : p.textMatch = some t)
    (hparams : p.paramFilters = [])
    (hvalues : table.valuesOf record p.name ≠ []) :
    p.accepts table record = t.acceptsAny (table.valuesOf record p.name) := by
  unfold accepts acceptsValues
  rw [hpresence, htext, hparams]
  simp [hvalues]

/-- Testing values together and testing each of them are one test, whose
quantifier turns with the negation: some value has to be accepted without it,
and all values with it.  Hence only the set of the values counts, and flipping
the negation flips the answer, also that of a prop-filter which asks nothing
else of a record with values. -/
theorem acceptsAny_unites_accepts (t : TextMatch) :
    (t.negate = false → ∀ values : List String,
      (t.acceptsAny values = true ↔ ∃ value ∈ values, t.accepts value = true)) ∧
    (t.negate = true → ∀ values : List String,
      (t.acceptsAny values = true ↔ ∀ value ∈ values, t.accepts value = true)) ∧
    t.acceptsAny [] = t.negate ∧
    (∀ values others : List String, (∀ value, value ∈ values ↔ value ∈ others) →
      t.acceptsAny values = t.acceptsAny others) ∧
    (∀ values : List String,
      { t with negate := !t.negate }.acceptsAny values = !t.acceptsAny values) ∧
    (∀ {ρ : Type} [Record ρ] (table : PropertyTable) (record : ρ)
      (name : String), table.valuesOf record name ≠ [] →
        PropFilter.accepts
            ⟨name, false, some { t with negate := !t.negate }, []⟩ table
            record =
          !PropFilter.accepts ⟨name, false, some t, []⟩ table record) := by
  refine ⟨?_, ?_, ?_, ?_, ?_, ?_⟩
  · intro hplain values
    exact TextMatch.acceptsAny_iff_exists hplain
  · intro hnegated values
    exact TextMatch.acceptsAny_iff_forall hnegated
  · exact Bool.false_bne t.negate
  · intro values others hsame
    exact TextMatch.acceptsAny_congr hsame
  · intro values
    exact t.acceptsAny_flipped values
  · intro ρ _ table record name hvalues
    have htested : ∀ tested : TextMatch,
        PropFilter.accepts ⟨name, false, some tested, []⟩ table record =
          tested.acceptsAny (table.valuesOf record name) := by
      intro tested
      exact PropFilter.accepts_eq_acceptsAny rfl rfl rfl hvalues
    rw [htested, htested]
    exact t.acceptsAny_flipped _

def notAl : TextMatch :=
  .ofPattern "EMAIL" "al@" true

def withTwoAddresses : Contact :=
  ((Contact.ofId 1 7).set "email" "AL@x.org").set "email2" "bo@x.org"

/-- One address of two holds the pattern, so they are refused together, in
either order, although the other one is accepted; and what the negation refuses
is accepted without it. -/
theorem two_addresses_refused :
    notAl.negate = true ∧ notAl.accepts "bo@x.org" = true ∧
    notAl.acceptsAny ["AL@x.org", "bo@x.org"] = false ∧
    notAl.acceptsAny ["bo@x.org", "AL@x.org", "bo@x.org"] = false ∧
    PropertyTable.cardDav.valuesOf withTwoAddresses "EMAIL" ≠ [] ∧
    PropFilter.accepts ⟨"EMAIL", false, some notAl, []⟩ .cardDav
      withTwoAddresses = false ∧
    PropFilter.accepts
      ⟨"EMAIL", false, some (.ofPattern "EMAIL" "al@" false), []⟩ .cardDav
      withTwoAddresses = true := by
  have hvalues :
      PropertyTable.cardDav.valuesOf withTwoAddresses "EMAIL" ≠ [] := by
    decide +kernel
  have hrefused :
      PropFilter.accepts ⟨"EMAIL", false, some notAl, []⟩ .cardDav
        withTwoAddresses = false := by
    decide +kernel
  obtain ⟨-, hforall, -, hsame, -, hflipped⟩ := acceptsAny_unites_accepts notAl
  have htogether : notAl.acceptsAny ["AL@x.org", "bo@x.org"] = false := by
    rw [Bool.eq_false_iff, ne_eq, hforall rfl]
    decide +kernel
  refine ⟨rfl, by decide, htogether, ?_, hvalues, hrefused, ?_⟩
  · rw [hsame _ ["AL@x.org", "bo@x.org"] (by simp), htogether]
  · have hopposite := hflipped .cardDav withTwoAddresses "EMAIL" hvalues
    rw [hrefused] at hopposite
    exact hopposite

end AddressBook

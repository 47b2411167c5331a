import AddressBook.Filter.TextMatch

/-!
# Where a pattern lies in a value

A match type says what may stand before and after the pattern, and its test is
whether the value splits into the pattern and such surroundings
(`MatchType.test_iff`).  A collation folds a text piece by piece, so a value
that splits around the pattern splits around the folded pattern once it is
folded (`MatchType.test_fold`).
-/

namespace AddressBook

namespace Text

variable {value pattern : String}

theorem contains_iff_append :
    contains value pattern = true ↔
      ∃ before after, value = before ++ pattern ++ after := by
  rw [contains_iff]
  constructor
  · rintro ⟨before, after, hsplit⟩
    refine ⟨String.ofList before, String.ofList after, ?_⟩
    simp [← String.toList_inj, ← hsplit]
  · rintro ⟨before, after, rfl⟩
    exact ⟨before.toList, after.toList, by simp⟩

theorem startsWith_iff_append :
    startsWith value pattern = true ↔ ∃ after, value = pattern ++ after := by
  rw [startsWith_iff]
  constructor
  · rintro ⟨after, hsplit⟩
    refine ⟨String.ofList after, ?_⟩
    simp [← String.toList_inj, ← hsplit]
  · rintro ⟨after, rfl⟩
    exact ⟨after.toList, by simp⟩

theorem endsWith_iff_append :
    endsWith value pattern = true ↔ ∃ before, value = before ++ pattern := by
  rw [endsWith_iff]
  constructor
  · rintro ⟨before, hsplit⟩
    refine ⟨String.ofList before, ?_⟩
    simp [← String.toList_inj, ← hsplit]
  · rintro ⟨before, rfl⟩
    exact ⟨before.toList, by simp⟩

end Text

namespace MatchType

/-- What may stand before and after a pattern that is found. -/
def AllowsAround : MatchType → (before after : String) → Prop
  | equals, before, after => before = "" ∧ after = ""
  | contains, _, _ => True
  | startsWith, before, _ => before = ""
  | endsWith, _, after => after = ""

variable {matchType looser : MatchType} {value pattern before after : String}

theorem test_iff :
    matchType.test value pattern = true ↔
      ∃ before after, matchType.AllowsAround before after ∧
        value = before ++ pattern ++ after := by
  cases matchType with
  | equals =>
      simp only [test, AllowsAround, beq_iff_eq]
      constructor
      · rintro rfl
        exact ⟨"", "", ⟨rfl, rfl⟩, by simp⟩
      · rintro ⟨before, after, ⟨rfl, rfl⟩, hsplit⟩
        simpa using hsplit
  | contains => simp [test, AllowsAround, Text.contains_iff_append]
  | startsWith => simp [test, AllowsAround, Text.startsWith_iff_append]
  | endsWith => simp [test, AllowsAround, Text.endsWith_iff_append]

theorem test_of_looser
    (hlooser : ∀ before after, matchType.AllowsAround before after →
      looser.AllowsAround before after)
    (htest : matchType.test value pattern = true) :
    looser.test value pattern = true := by
  obtain ⟨before, after, hallowed, hsplit⟩ := test_iff.mp htest
  exact test_iff.mpr ⟨before, after, hlooser before after hallowed, hsplit⟩

theorem contains_of_test (htest : matchType.test value pattern = true) :
    contains.test value pattern = true :=
  test_of_looser (fun _ _ _ => trivial) htest

theorem AllowsAround.fold (collation : Collation)
    (hallowed : matchType.AllowsAround before after) :
    matchType.AllowsAround (collation.fold before) (collation.fold after) := by
  cases matchType with
  | equals =>
      obtain ⟨rfl, rfl⟩ := hallowed
      exact ⟨collation.fold_empty, collation.fold_empty⟩
  | contains => trivial
  | startsWith =>
      cases hallowed
      exact collation.fold_empty
  | endsWith =>
      cases hallowed
      exact collation.fold_empty

theorem test_fold (collation : Collation)
    (htest : matchType.test value pattern = true) :
    matchType.test (collation.fold value) (collation.fold pattern) = true := by
  obtain ⟨before, after, hallowed, rfl⟩ := test_iff.mp htest
  rw [test_iff]
  refine ⟨collation.fold before, collation.fold after, hallowed.fold collation,
    ?_⟩
  rw [collation.fold_append, collation.fold_append]

end MatchType

namespace TextMatch

/-- The same pattern, looked for in another way. -/
def reading (t : TextMatch) (collation : Collation) (matchType : MatchType) :
    TextMatch :=
  { t with collation := collation, matchType := matchType }

variable {t : TextMatch} {collation : Collation} {matchType : MatchType}
  {value : String}

theorem accepts_reading (hplain : t.negate = false) :
    (t.reading collation matchType).accepts value =
      matchType.test (collation.fold value) (collation.fold t.pattern) := by
  unfold accepts finds reading
  rw [hplain, Bool.bne_false]

theorem accepts_reading_around {before after : String}
    (hplain : t.negate = false) (collation : Collation)
    (hallowed : matchType.AllowsAround before after) :
    (t.reading collation matchType).accepts (before ++ t.pattern ++ after) =
      true := by
  rw [accepts_reading hplain]
  exact MatchType.test_fold collation
    (MatchType.test_iff.mpr ⟨before, after, hallowed, rfl⟩)

theorem accepts_reading_of_looser {looser : MatchType}
    (hplain : t.negate = false)
    (hlooser : ∀ before after, matchType.AllowsAround before after →
      looser.AllowsAround before after)
    (haccepts : (t.reading collation matchType).accepts value = true) :
    (t.reading collation looser).accepts value = true := by
  rw [accepts_reading hplain] at haccepts ⊢
  exact MatchType.test_of_looser hlooser haccepts

theorem accepts_reading_of_octet (hplain : t.negate = false)
    (haccepts : (t.reading .octet matchType).accepts value = true)
    (collation : Collation) :
    (t.reading collation matchType).accepts value = true := by
  rw [accepts_reading hplain] at haccepts ⊢
  exact MatchType.test_fold collation haccepts

/-- A text-match without negation accepts a value exactly when the folded value
splits around the folded pattern as the match type allows.  So under every
collation it accepts its pattern with what the match type allows around it; what
it accepts under one match type it accepts under any that allows more; and what
it accepts character by character it accepts under every collation. -/
theorem accepts_respects_containment (t : TextMatch)
    (hplain : t.negate = false) :
    (∀ (collation : Collation) (matchType : MatchType) (value : String),
      (t.reading collation matchType).accepts value = true ↔
        ∃ before after, matchType.AllowsAround before after ∧
          collation.fold value = before ++ collation.fold t.pattern ++ after) ∧
    (∀ (collation : Collation) (before after : String),
      (t.reading collation .contains).accepts
          (before ++ t.pattern ++ after) = true ∧
      (t.reading collation .startsWith).accepts (t.pattern ++ after) = true ∧
      (t.reading collation .endsWith).accepts (before ++ t.pattern) = true ∧
      (t.reading collation .equals).accepts t.pattern = true) ∧
    (∀ (collation : Collation) (value : String),
      ((t.reading collation .equals).accepts value = true →
        (t.reading collation .startsWith).accepts value = true ∧
        (t.reading collation .endsWith).accepts value = true) ∧
      ((t.reading collation .startsWith).accepts value = true ∨
          (t.reading collation .endsWith).accepts value = true →
        (t.reading collation .contains).accepts value = true)) ∧
    (∀ (matchType : MatchType) (value : String),
      (t.reading .octet matchType).accepts value = true →
        (t.reading .asciiCasemap matchType).accepts value = true ∧
        (t.reading .unicodeCasemap matchType).accepts value = true) := by
  refine ⟨?_, ?_, ?_, ?_⟩
  · intro collation matchType value
    rw [accepts_reading hplain, MatchType.test_iff]
  · intro collation before after
    have hstarts : MatchType.startsWith.AllowsAround "" after := rfl
    have hends : MatchType.endsWith.AllowsAround before "" := rfl
    have hequals : MatchType.equals.AllowsAround "" "" := ⟨rfl, rfl⟩
    refine ⟨accepts_reading_around hplain collation trivial, ?_, ?_, ?_⟩
    · simpa using accepts_reading_around hplain collation hstarts
    · simpa using accepts_reading_around hplain collation hends
    · simpa using accepts_reading_around hplain collation hequals
  · intro collation value
    have hstarts : ∀ before after, MatchType.equals.AllowsAround before after →
        MatchType.startsWith.AllowsAround before after :=
      fun _ _ hallowed => hallowed.1
    have hends : ∀ before after, MatchType.equals.AllowsAround before after →
        MatchType.endsWith.AllowsAround before after :=
      fun _ _ hallowed => hallowed.2
    constructor
    · intro hequals
      exact ⟨accepts_reading_of_looser hplain hstarts hequals,
        accepts_reading_of_looser hplain hends hequals⟩
    · rintro (hstarts | hends)
      · exact accepts_reading_of_looser hplain (fun _ _ _ => trivial) hstarts
      · exact accepts_reading_of_looser hplain (fun _ _ _ => trivial) hends
  · intro matchType value hoctet
    exact ⟨accepts_reading_of_octet hplain hoctet .asciiCasemap,
      accepts_reading_of_octet hplain hoctet .unicodeCasemap⟩

/-- The sharp s folds into two letters, and a street is still found where it
ends the value. -/
theorem strasse_found_in_hauptstrasse :
    (ofPattern "ADR" "straße" false).negate = false ∧
    ((ofPattern "ADR" "straße" false).reading .octet .endsWith).accepts
      "Hauptstraße" = true ∧
    ((ofPattern "ADR" "straße" false).reading .unicodeCasemap .endsWith).accepts
      "Hauptstraße" = true ∧
    ((ofPattern "ADR" "straße" false).reading .unicodeCasemap .equals).accepts
      "STRASSE" = true ∧
    ((ofPattern "ADR" "straße" false).reading .unicodeCasemap
      .startsWith).accepts "STRASSE" = true ∧
    ((ofPattern "ADR" "straße" false).reading .asciiCasemap .equals).accepts
      "STRASSE" = false := by
  have hplain : (ofPattern "ADR" "straße" false).negate = false := rfl
  have hoctet :
      ((ofPattern "ADR" "straße" false).reading .octet .endsWith).accepts
        "Hauptstraße" = true := by
    decide +kernel
  have hequals :
      ((ofPattern "ADR" "straße" false).reading .unicodeCasemap .equals).accepts
        "STRASSE" = true := by
    decide +kernel
  obtain ⟨-, -, hlooser, hfolds⟩ := accepts_respects_containment _ hplain
  exact ⟨hplain, hoctet, (hfolds .endsWith _ hoctet).2, hequals,
    ((hlooser .unicodeCasemap _).1 hequals).1, by decide +kernel⟩

end TextMatch
end AddressBook

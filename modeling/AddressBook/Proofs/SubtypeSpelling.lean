import AddressBook.Proofs.CaseStability
import AddressBook.Proofs.RegistrationOutcome

/-!
# Spellings of a sub-type

A sub-type is stored in lower case but looked up without regard to the case of
ASCII letters alone, so a look-up reads the keys that were given last under the
name in ASCII lower case (`PropertyTable.keysOfSubtype_eq_lastKeys`).  For a
spelling that the two ways of lower-casing treat alike this is the stored name,
and for any other it is none.
-/

namespace AddressBook
namespace Text

open Unicode

/-! ## The case of ASCII letters -/

theorem isUpper_iff_toNat {c : Char} :
    c.isUpper = true ↔ 65 ≤ c.toNat ∧ c.toNat ≤ 90 :=
  decide_eq_true_iff

theorem isAlpha_iff_toNat {c : Char} :
    c.isAlpha = true ↔
      65 ≤ c.toNat ∧ c.toNat ≤ 90 ∨ 97 ≤ c.toNat ∧ c.toNat ≤ 122 := by
  have hsmall : c.isLower = true ↔ 97 ≤ c.toNat ∧ c.toNat ≤ 122 :=
    Bool.and_eq_true_iff.trans (and_congr decide_eq_true_iff decide_eq_true_iff)
  exact Bool.or_eq_true_iff.trans (or_congr isUpper_iff_toNat hsmall)

theorem toNat_toLower (c : Char) :
    c.toLower.toNat = if c.isUpper then c.toNat + 32 else c.toNat := by
  by_cases hcapital : c.isUpper = true
  · have hcode : c.val.toNat ≤ 90 := (isUpper_iff_toNat.mp hcapital).2
    have hlower : c.toLower = ⟨c.val + 32, _⟩ :=
      dif_pos (of_decide_eq_true hcapital)
    rw [if_pos hcapital, hlower]
    change (c.val + 32).toNat = c.val.toNat + 32
    rw [UInt32.toNat_add]
    apply Nat.mod_eq_of_lt
    change c.val.toNat + 32 < 2 ^ 32
    omega
  · have hsame : c.toLower = c :=
      dif_neg fun hcode => hcapital (decide_eq_true hcode)
    rw [if_neg hcapital, hsame]

theorem toLower_toLower (c : Char) : c.toLower.toLower = c.toLower := by
  have hsmall : ¬c.toLower.isUpper = true := by
    rw [isUpper_iff_toNat, toNat_toLower]
    split
    next hcapital =>
      have hcode := isUpper_iff_toNat.mp hcapital
      omega
    next hother => exact isUpper_iff_toNat.not.mp hother
  rw [← Char.toNat_inj, toNat_toLower c.toLower, if_neg hsmall]

theorem isAlpha_toLower {c : Char} (hletter : c.isAlpha = true) :
    c.toLower.isAlpha = true := by
  have hcode := isAlpha_iff_toNat.mp hletter
  rw [isAlpha_iff_toNat, toNat_toLower]
  split
  next hcapital =>
    have hrange := isUpper_iff_toNat.mp hcapital
    omega
  next => exact hcode

theorem toLower_of_not_isAlpha {c : Char} (hother : ¬c.isAlpha = true) :
    c.toLower = c := by
  have hsmall : ¬c.isUpper = true := by
    intro hcapital
    exact hother (isAlpha_iff_toNat.mpr (.inl (isUpper_iff_toNat.mp hcapital)))
  rw [← Char.toNat_inj, toNat_toLower, if_neg hsmall]

theorem isCased_of_isAlpha {c : Char} (hletter : c.isAlpha = true) :
    isCased c = true := by
  rw [isCased, covered, List.any_eq_true]
  rcases isAlpha_iff_toNat.mp hletter with hcapital | hsmall
  · exact ⟨⟨0x41, 0x5A⟩, by decide +kernel, decide_eq_true hcapital⟩
  · exact ⟨⟨0x61, 0x7A⟩, by decide +kernel, decide_eq_true hsmall⟩

theorem isCaseIgnorable_of_isAlpha {c : Char} (hletter : c.isAlpha = true) :
    isCaseIgnorable c = false := by
  have hapart : ∀ range ∈ caseIgnorableRanges,
      range.last < 65 ∨ 90 < range.first ∧ range.last < 97 ∨
        122 < range.first := by
    decide +kernel
  rw [isCaseIgnorable, covered, List.any_eq_false]
  intro range hrange hcovers
  have hcode : range.first ≤ c.toNat ∧ c.toNat ≤ range.last :=
    of_decide_eq_true hcovers
  have hgap := hapart range hrange
  have hcode' := isAlpha_iff_toNat.mp hletter
  omega

/-- What all ASCII letters have in common is the same for a character in lower
case. -/
theorem toLower_congr {α : Type} {f : Char → α} {x : α}
    (hletters : ∀ c : Char, c.isAlpha = true → f c = x) (c : Char) :
    f c.toLower = f c := by
  by_cases hletter : c.isAlpha = true
  · rw [hletters c hletter, hletters c.toLower (isAlpha_toLower hletter)]
  · rw [toLower_of_not_isAlpha hletter]

theorem isCased_toLower (c : Char) : isCased c.toLower = isCased c :=
  toLower_congr (fun _ => isCased_of_isAlpha) c

theorem isCaseIgnorable_toLower (c : Char) :
    isCaseIgnorable c.toLower = isCaseIgnorable c :=
  toLower_congr (fun _ => isCaseIgnorable_of_isAlpha) c

theorem lt_128_of_isAlpha {c : Char} (hletter : c.isAlpha = true) :
    c.val < 128 := by
  have hcode := isAlpha_iff_toNat.mp hletter
  apply UInt32.lt_iff_toNat_lt.mpr
  change c.toNat < 128
  omega

theorem lt_128_toLower (c : Char) : (c.toLower.val < 128) = (c.val < 128) := by
  apply toLower_congr (f := fun c : Char => c.val < 128)
  intro c hletter
  exact eq_true (lt_128_of_isAlpha hletter)

theorem toLower_of_not_ascii {c : Char} (hascii : ¬c.val < 128) :
    c.toLower = c := by
  apply toLower_of_not_isAlpha
  intro hletter
  exact hascii (lt_128_of_isAlpha hletter)

theorem meetsCased_map_toLower (cs : List Char) :
    meetsCased (cs.map Char.toLower) = meetsCased cs := by
  unfold meetsCased
  induction cs with
  | nil => rfl
  | cons c rest ih =>
      rw [List.map_cons, List.dropWhile_cons, List.dropWhile_cons,
        isCaseIgnorable_toLower]
      cases isCaseIgnorable c with
      | true => exact ih
      | false => simp [isCased_toLower]

theorem lowerChar_map_toLower (before after : List Char) (c : Char) :
    lowerChar (before.map Char.toLower) (after.map Char.toLower) c.toLower =
      lowerChar before after c := by
  by_cases hascii : c.val < 128
  · unfold lowerChar
    rw [if_pos hascii, if_pos ((lt_128_toLower c).mpr hascii), toLower_toLower]
  · rw [toLower_of_not_ascii hascii]
    unfold lowerChar endsWord
    rw [if_neg hascii, if_neg hascii, meetsCased_map_toLower,
      meetsCased_map_toLower]

theorem lowerAfter_map_toLower (before cs : List Char) :
    lowerAfter (before.map Char.toLower) (cs.map Char.toLower) =
      lowerAfter before cs := by
  induction cs generalizing before with
  | nil => rfl
  | cons c after ih =>
      rw [List.map_cons, lowerAfter, lowerAfter, lowerChar_map_toLower,
        ← List.map_cons, ih]

theorem lower_asciiLower (s : String) : lower (asciiLower s) = lower s := by
  rw [← String.toList_inj, toList_lower, toList_lower, toList_asciiLower]
  exact lowerAfter_map_toLower [] s.toList

theorem toLower_of_settled {c : Char} (hsettled : lowercase.apply c = [c]) :
    c.toLower = c := by
  by_cases hascii : c.val < 128
  · have hlower : lowerChar [] [] c = [c.toLower] := if_pos hascii
    rw [lowerChar_of_settled [] [] hsettled] at hlower
    exact (List.singleton_inj.mp hlower).symm
  · exact toLower_of_not_ascii hascii

theorem asciiLower_lower (s : String) : asciiLower (lower s) = lower s := by
  rw [← String.toList_inj, toList_asciiLower, toList_lower]
  have hsettled : ∀ c ∈ lowerAfter [] s.toList, c.toLower = c := by
    intro c hc
    exact toLower_of_settled (settled_of_mem_lowerAfter hc)
  exact (List.map_congr_left hsettled).trans (List.map_id _)

end Text

/-! ## Looking a sub-type up -/

section LastKeys

variable {part : String} {given : List SubtypeKeys} {s : SubtypeKeys}

theorem keys_of_mem_lastOfEach (hs : s ∈ lastOfEach given) :
    s.keys = lastKeys s.subtype given := by
  obtain ⟨name, -, rfl⟩ := List.mem_map.mp hs
  rfl

theorem mem_subtypes_lastOfEach :
    part ∈ (lastOfEach given).map (·.subtype) ↔
      part ∈ given.map (·.subtype) := by
  rw [map_subtype_lastOfEach, mem_keepFirst_id]

theorem lastKeys_append_cons {before after : List SubtypeKeys}
    (hafter : s.subtype ∉ after.map (·.subtype)) :
    lastKeys s.subtype (before ++ s :: after) = s.keys := by
  simp [lastKeys, filter_subtype_of_new hafter]

/-- A lower-cased name is the one asked for up to the case of ASCII letters just
if it is that in ASCII lower case. -/
theorem Text.equalUpToAsciiCase_lower (name asked : String) :
    Text.equalUpToAsciiCase (Text.lower name) asked = true ↔
      Text.lower name = Text.asciiLower asked := by
  rw [Text.equalUpToAsciiCase, beq_iff_eq, Text.asciiLower_lower]

theorem Mapping.keysFor_lastOfEach
    (hlowered : ∀ s ∈ given, ∃ name, s.subtype = Text.lower name)
    (asked : String) :
    (Mapping.structured (lastOfEach given)).keysFor asked =
      lastKeys (Text.asciiLower asked) given := by
  have hname : ∀ s ∈ lastOfEach given,
      (Text.equalUpToAsciiCase s.subtype asked = true ↔
        s.subtype = Text.asciiLower asked) := by
    intro s hs
    obtain ⟨name, hlower⟩ := hlowered s (mem_of_mem_lastOfEach hs)
    rw [hlower]
    exact Text.equalUpToAsciiCase_lower name asked
  dsimp only [Mapping.keysFor]
  cases hfound :
      (lastOfEach given).find? fun s =>
        Text.equalUpToAsciiCase s.subtype asked with
  | some s =>
      have hs : s ∈ lastOfEach given := List.mem_of_find?_eq_some hfound
      have hsame : Text.equalUpToAsciiCase s.subtype asked = true := by
        simpa using List.find?_some hfound
      rw [← (hname s hs).mp hsame]
      exact keys_of_mem_lastOfEach hs
  | none =>
      symm
      apply lastKeys_of_new
      intro hmem
      obtain ⟨s, hs, hsame⟩ :=
        List.mem_map.mp (mem_subtypes_lastOfEach.mpr hmem)
      exact List.find?_eq_none.mp hfound s hs ((hname s hs).mpr hsame)

end LastKeys

namespace PropertyTable

open Registration (simpleKey? subtypeKeys?)

variable {steps before after : List Registration} {property part : String}
  {keys : List String}

/-- A look-up reads the keys given last under the name in ASCII lower case. -/
theorem keysOfSubtype_eq_lastKeys
    (hnone :
      (steps.filter fun step => step.name = Text.upper property).filterMap
        simpleKey? = [])
    (asked : String) :
    (ofRegistrations steps).keysOfSubtype property asked =
      lastKeys (Text.asciiLower asked)
        ((steps.filter fun step => step.name = Text.upper property).filterMap
          subtypeKeys?) := by
  have hlowered :
      ∀ s ∈ (steps.filter fun step => step.name = Text.upper property).filterMap
        subtypeKeys?, ∃ name, s.subtype = Text.lower name := by
    intro s hs
    exact (of_mem_given hs).1
  unfold keysOfSubtype lookup
  rw [get?_eq_outcome, Registration.outcome_of_no_simple hnone]
  by_cases hgiven :
      (steps.filter fun step => step.name = Text.upper property).filterMap
        subtypeKeys? = []
  · rw [if_pos hgiven, hgiven]
    rfl
  · rw [if_neg hgiven]
    exact Mapping.keysFor_lastOfEach hlowered asked

/-- The keys of a sub-type that no later step replaces are those given last
under its name. -/
theorem lastKeys_of_last_registration (hkeys : keys ≠ [])
    (hlast : ∀ name other others, .subtype name other others ∈ after →
      others ≠ [] → Text.upper name = Text.upper property →
      Text.lower other ≠ Text.lower part) :
    lastKeys (Text.lower part)
        (((before ++ .subtype property part keys :: after).filter
          fun step => step.name = Text.upper property).filterMap subtypeKeys?) =
      keepFirst id keys := by
  have hname :
      (Registration.subtype property part keys).name = Text.upper property :=
    rfl
  have hgives : (Registration.subtype property part keys).subtypeKeys? =
      some ⟨Text.lower part, keepFirst id keys⟩ := if_neg hkeys
  rw [List.filter_append, List.filter_cons_of_pos (by simpa using hname),
    List.filterMap_append, List.filterMap_cons_some hgives]
  apply lastKeys_append_cons (s := ⟨Text.lower part, keepFirst id keys⟩)
  intro hmem
  obtain ⟨s, hs, hsame⟩ := List.mem_map.mp hmem
  change s.subtype = Text.lower part at hsame
  obtain ⟨step, hstep, hstepGives⟩ := List.mem_filterMap.mp hs
  obtain ⟨hafter, hstepName⟩ := List.mem_filter.mp hstep
  cases step with
  | simple name key => cases hstepGives
  | subtype name other others =>
      obtain ⟨hothers, hstored⟩ := Option.ite_none_left_eq_some.mp hstepGives
      apply hlast name other others hafter hothers (of_decide_eq_true hstepName)
      rw [← hsame, ← Option.some.inj hstored]

/-- A sub-type that was registered with keys, that no later step replaces and
whose property is not registered as simple, is found in lower case with just
these keys.  As it was registered it is found if its ASCII lower case is its
lower case; otherwise nothing is found. -/
theorem keysOfSubtype_of_last_registration (before after : List Registration)
    (property part : String) (keys : List String) (hkeys : keys ≠ [])
    (hsimple : ∀ name key,
      .simple name key ∈ before ++ .subtype property part keys :: after →
      Text.upper name ≠ Text.upper property)
    (hlast : ∀ name other others, .subtype name other others ∈ after →
      others ≠ [] → Text.upper name = Text.upper property →
      Text.lower other ≠ Text.lower part) :
    (ofRegistrations
        (before ++ .subtype property part keys :: after)).keysOfSubtype
        property part =
      (if Text.asciiLower part = Text.lower part then keepFirst id keys
      else []) ∧
    (ofRegistrations
        (before ++ .subtype property part keys :: after)).keysOfSubtype
        property (Text.lower part) =
      keepFirst id keys := by
  have hnone : ((before ++ .subtype property part keys :: after).filter
      fun step => step.name = Text.upper property).filterMap simpleKey? =
        [] := by
    rw [List.filterMap_eq_nil_iff]
    intro step hstep
    obtain ⟨hmem, hname⟩ := List.mem_filter.mp hstep
    cases step with
    | simple name key =>
        exact absurd (of_decide_eq_true hname) (hsimple name key hmem)
    | subtype name other others => rfl
  constructor
  · rw [keysOfSubtype_eq_lastKeys hnone]
    by_cases hsame : Text.asciiLower part = Text.lower part
    · rw [if_pos hsame, hsame, lastKeys_of_last_registration hkeys hlast]
    · rw [if_neg hsame]
      apply lastKeys_of_new
      intro hmem
      obtain ⟨s, hs, hname⟩ := List.mem_map.mp hmem
      obtain ⟨name, hlowered⟩ := (of_mem_given hs).1
      -- the stored name is in lower case, so it is the lower case of what was
      -- asked for
      have hsettled :
          Text.lower (Text.asciiLower part) = Text.asciiLower part := by
        rw [← hname, hlowered, Text.lower_lower]
      rw [Text.lower_asciiLower] at hsettled
      exact hsame hsettled.symm
  · rw [keysOfSubtype_eq_lastKeys hnone, Text.asciiLower_lower,
      lastKeys_of_last_registration hkeys hlast]

/-- Not every sub-type is found as it was registered: the capital of an umlaut
is stored as a small one and then looked for as it stands. -/
theorem not_found_as_registered :
    ¬∀ (before after : List Registration) (property part : String)
      (keys : List String), keys ≠ [] →
      (∀ name key,
        .simple name key ∈ before ++ .subtype property part keys :: after →
        Text.upper name ≠ Text.upper property) →
      (∀ name other others, .subtype name other others ∈ after → others ≠ [] →
        Text.upper name = Text.upper property →
        Text.lower other ≠ Text.lower part) →
      (ofRegistrations
          (before ++ .subtype property part keys :: after)).keysOfSubtype
          property part =
        keepFirst id keys := by
  intro hfound
  have hoffice :=
    hfound [] [] "TEL" "BÜRO" ["officePhone"] (by simp) (by simp) (by simp)
  have hnothing :
      (ofRegistrations [.subtype "TEL" "BÜRO" ["officePhone"]]).keysOfSubtype
        "TEL" "BÜRO" = [] := by
    decide +kernel
  rw [List.nil_append, hnothing] at hoffice
  cases hoffice

/-- Steps that come before, have no keys or concern other names do not matter:
an ASCII spelling is found as it was registered, and one with the capital of an
umlaut in lower case alone. -/
theorem home_and_office_found :
    (ofRegistrations
        [.subtype "TEL" "home" ["a"], .subtype "tel" "HOME" ["b", "b"],
          .subtype "Tel" "Home" [], .subtype "TEL" "work" ["w"]]).keysOfSubtype
        "tel" "HOME" = ["b"] ∧
    (ofRegistrations
      [.simple "FN" "name", .subtype "TEL" "BÜRO" ["o"]]).keysOfSubtype "TEL"
        "BÜRO" = [] ∧
    (ofRegistrations
      [.simple "FN" "name", .subtype "TEL" "BÜRO" ["o"]]).keysOfSubtype "TEL"
        "büro" = ["o"] := by
  have hlater : ∀ name other others,
      .subtype name other others ∈
        [Registration.subtype "Tel" "Home" [], .subtype "TEL" "work" ["w"]] →
      others ≠ [] → Text.upper name = Text.upper "tel" →
      Text.lower other ≠ Text.lower "HOME" := by
    intro name other others hmem hothers _
    rcases List.mem_cons.mp hmem with hempty | hwork
    · exact absurd (Registration.subtype.inj hempty).2.2 hothers
    · rw [(Registration.subtype.inj (List.mem_singleton.mp hwork)).2.1]
      decide +kernel
  have hname : ∀ name key,
      .simple name key ∈
        [Registration.simple "FN" "name", .subtype "TEL" "BÜRO" ["o"]] →
      Text.upper name ≠ Text.upper "TEL" := by
    intro name key hmem
    rcases List.mem_cons.mp hmem with hfull | hother
    · rw [(Registration.simple.inj hfull).1]
      decide +kernel
    · cases List.mem_singleton.mp hother
  have hhome := keysOfSubtype_of_last_registration [.subtype "TEL" "home" ["a"]]
    [.subtype "Tel" "Home" [], .subtype "TEL" "work" ["w"]] "tel" "HOME"
    ["b", "b"] (by simp) (by simp) hlater
  have hoffice :=
    keysOfSubtype_of_last_registration [.simple "FN" "name"] [] "TEL" "BÜRO"
      ["o"] (by simp) hname (by simp)
  have hlower : Text.lower "BÜRO" = "büro" := by
    decide +kernel
  rw [if_pos (by decide +kernel)] at hhome
  rw [if_neg (by decide +kernel), hlower] at hoffice
  exact ⟨hhome.1, hoffice.1, hoffice.2⟩

end PropertyTable
end AddressBook

import AddressBook.Proofs.RegistrationHistory
import Mathlib.Data.List.Induction

/-!
# What a run of registrations amounts to

The registrations of one name amount to one mapping (`Registration.outcome`):
the last simple one if there is any, and otherwise one entry for each sub-type
that was given keys, where it first appears, with the keys given last.  One more
step takes the outcome of the steps before it to the outcome of all of them
(`Registration.after_outcome`).
-/

namespace AddressBook

open PropertyTable (setSubtype withSubtype)

/-! ## The keys given last -/

def lastKeys (part : String) (given : List SubtypeKeys) : List String :=
  ((given.filter fun s => s.subtype = part).getLast?.map (·.keys)).getD []

/-- One entry for each name, in the order of first appearance, with the keys
given last. -/
def lastOfEach (given : List SubtypeKeys) : List SubtypeKeys :=
  (keepFirst id (given.map (·.subtype))).map fun part =>
    ⟨part, lastKeys part given⟩

section LastKeys

variable {part : String} {keys : List String} {given : List SubtypeKeys}
  {s : SubtypeKeys}

theorem lastKeys_concat (part : String) (given : List SubtypeKeys)
    (s : SubtypeKeys) :
    lastKeys part (given ++ [s]) =
      if part = s.subtype then s.keys else lastKeys part given := by
  unfold lastKeys
  rw [List.filter_append]
  by_cases hpart : part = s.subtype
  · simp [hpart]
  · simp [hpart, Ne.symm hpart]

theorem filter_subtype_of_new (hnew : part ∉ given.map (·.subtype)) :
    given.filter (fun s => s.subtype = part) = [] := by
  rw [List.filter_eq_nil_iff]
  intro s hs hpart
  exact hnew (List.mem_map.mpr ⟨s, hs, of_decide_eq_true hpart⟩)

theorem lastKeys_of_new (hnew : part ∉ given.map (·.subtype)) :
    lastKeys part given = [] := by
  rw [lastKeys, filter_subtype_of_new hnew]
  rfl

theorem map_subtype_lastOfEach (given : List SubtypeKeys) :
    (lastOfEach given).map (·.subtype) =
      keepFirst id (given.map (·.subtype)) := by
  unfold lastOfEach
  rw [List.map_map]
  exact List.map_id _

theorem nodup_keepFirst_id (names : List String) : (keepFirst id names).Nodup :=
  keepFirst_distinct id names

theorem mem_keepFirst_id {names : List String} {name : String} :
    name ∈ keepFirst id names ↔ name ∈ names := by
  rw [← List.map_id (keepFirst id names), key_mem_keepFirst, List.map_id]

theorem lastOfEach_ne_nil (hgiven : given ≠ []) : lastOfEach given ≠ [] := by
  obtain ⟨s, rest, rfl⟩ := List.exists_cons_of_ne_nil hgiven
  simp [lastOfEach, keepFirst]

/-- Every entry is one of those given. -/
theorem mem_of_mem_lastOfEach (hs : s ∈ lastOfEach given) : s ∈ given := by
  obtain ⟨part, hpart, rfl⟩ := List.mem_map.mp hs
  obtain ⟨first, hfirst, hname⟩ := List.mem_map.mp (mem_keepFirst_id.mp hpart)
  have hsome : given.filter (fun s => s.subtype = part) ≠ [] := by
    apply List.ne_nil_of_mem
    exact List.mem_filter.mpr ⟨hfirst, decide_eq_true hname⟩
  obtain ⟨hlast, hlastName⟩ := List.mem_filter.mp (List.getLast_mem hsome)
  have hentry : (⟨part, lastKeys part given⟩ : SubtypeKeys) =
      (given.filter fun s => s.subtype = part).getLast hsome := by
    unfold lastKeys
    rw [List.getLast?_eq_some_getLast hsome, Option.map_some, Option.getD_some]
    congr 1
    exact (of_decide_eq_true hlastName).symm
  rw [hentry]
  exact hlast

theorem keepFirst_id_concat (names : List String) (part : String) :
    keepFirst id (names ++ [part]) =
      if part ∈ keepFirst id names then keepFirst id names
      else keepFirst id names ++ [part] := by
  rw [keepFirst_append, List.map_id]
  by_cases hold : part ∈ names
  · simp [keepFirst, mem_keepFirst_id, hold]
  · simp [keepFirst, mem_keepFirst_id, hold]

/-- Setting a sub-type, where the entries are given by their names. -/
theorem setSubtype_map {names : List String} (hdistinct : names.Nodup)
    (keysUnder : String → List String) (part : String) (keys : List String) :
    setSubtype part keys (names.map fun name => ⟨name, keysUnder name⟩) =
      (if part ∈ names then names else names ++ [part]).map fun name =>
        ⟨name, if name = part then keys else keysUnder name⟩ := by
  induction names with
  | nil => simp [setSubtype]
  | cons name rest ih =>
      obtain ⟨hname, hrest⟩ := List.nodup_cons.mp hdistinct
      rw [List.map_cons, setSubtype]
      by_cases hpart : name = part
      · subst hpart
        have hothers : ∀ other ∈ rest, other ≠ name := by
          rintro other hother rfl
          exact hname hother
        rw [if_pos rfl, if_pos List.mem_cons_self, List.map_cons, if_pos rfl]
        congr 1
        apply List.map_congr_left
        intro other hother
        rw [if_neg (hothers other hother)]
      · have hsame : part ∈ name :: rest ↔ part ∈ rest := by
          rw [List.mem_cons, or_iff_right (Ne.symm hpart)]
        rw [if_neg hpart, ih hrest]
        by_cases hold : part ∈ rest
        · rw [if_pos hold, if_pos (hsame.mpr hold), List.map_cons, if_neg hpart]
        · rw [if_neg hold, if_neg (hsame.not.mpr hold), List.cons_append,
            List.map_cons, if_neg hpart]

/-- A sub-type that is given keys once more keeps its place and changes its
keys. -/
theorem setSubtype_lastOfEach (given : List SubtypeKeys) (s : SubtypeKeys) :
    setSubtype s.subtype s.keys (lastOfEach given) =
      lastOfEach (given ++ [s]) := by
  unfold lastOfEach
  rw [setSubtype_map (nodup_keepFirst_id _), List.map_append,
    List.map_singleton, keepFirst_id_concat]
  simp only [lastKeys_concat]

end LastKeys

/-! ## The outcome of the registrations of one name -/

namespace Registration

def simpleKey? : Registration → Option String
  | .simple _ key => some key
  | .subtype _ _ _ => none

/-- The keys that the step stores under a sub-type.  Without keys it stores
nothing. -/
def subtypeKeys? : Registration → Option SubtypeKeys
  | .simple _ _ => none
  | .subtype _ part keys =>
      if keys = [] then none else some ⟨Text.lower part, keepFirst id keys⟩

/-- The mapping that registrations of one name amount to. -/
def outcome (steps : List Registration) : Option Mapping :=
  match (steps.filterMap simpleKey?).getLast? with
  | some key => some (.simple key)
  | none =>
    match steps.filterMap subtypeKeys? with
    | [] => none
    | given => some (.structured (lastOfEach given))

variable {steps past : List Registration}

theorem keepFirst_eq_nil_iff (keys : List String) :
    keepFirst id keys = [] ↔ keys = [] := by
  cases keys <;> simp [keepFirst]

theorem outcome_of_simple {key : String}
    (hlast : (steps.filterMap simpleKey?).getLast? = some key) :
    outcome steps = some (.simple key) := by
  unfold outcome
  rw [hlast]

theorem outcome_of_no_simple (hnone : steps.filterMap simpleKey? = []) :
    outcome steps =
      if steps.filterMap subtypeKeys? = [] then none
      else some (.structured (lastOfEach (steps.filterMap subtypeKeys?))) := by
  unfold outcome
  rw [hnone]
  cases steps.filterMap subtypeKeys? with
  | nil => rfl
  | cons s rest => simp

theorem outcome_concat_of_idle {step : Registration}
    (hnotSimple : step.simpleKey? = none)
    (hnothing : step.subtypeKeys? = none) :
    outcome (past ++ [step]) = outcome past := by
  simp [outcome, hnotSimple, hnothing]

theorem of_outcome_eq_structured {subtypes : List SubtypeKeys}
    (houtcome : outcome steps = some (.structured subtypes)) :
    steps.filterMap subtypeKeys? ≠ [] ∧
    subtypes = lastOfEach (steps.filterMap subtypeKeys?) := by
  cases hlast : (steps.filterMap simpleKey?).getLast? with
  | some key =>
      rw [outcome_of_simple hlast] at houtcome
      cases houtcome
  | none =>
      rw [outcome_of_no_simple (List.getLast?_eq_none_iff.mp hlast)] at houtcome
      obtain ⟨hgiven, hsubtypes⟩ := Option.ite_none_left_eq_some.mp houtcome
      exact ⟨hgiven, (Mapping.structured.inj (Option.some.inj hsubtypes)).symm⟩

/-- A step that gives keys to a sub-type sets them in the outcome of the steps
before it. -/
theorem withSubtype_outcome {s : SubtypeKeys} {step : Registration}
    (hnotSimple : step.simpleKey? = none)
    (hgives : step.subtypeKeys? = some s) :
    some (withSubtype s.subtype s.keys (outcome past)) =
      outcome (past ++ [step]) := by
  have hsimples :
      (past ++ [step]).filterMap simpleKey? = past.filterMap simpleKey? := by
    simp [hnotSimple]
  have hgiven :
      (past ++ [step]).filterMap subtypeKeys? =
        past.filterMap subtypeKeys? ++ [s] := by
    simp [hgives]
  cases hlast : (past.filterMap simpleKey?).getLast? with
  | some key =>
      rw [outcome_of_simple hlast, outcome_of_simple (hsimples ▸ hlast)]
      rfl
  | none =>
      have hnone : past.filterMap simpleKey? = [] :=
        List.getLast?_eq_none_iff.mp hlast
      rw [outcome_of_no_simple hnone,
        outcome_of_no_simple (hsimples.trans hnone), hgiven,
        if_neg (List.append_ne_nil_of_right_ne_nil _ (List.cons_ne_nil _ _))]
      by_cases hfirst : past.filterMap subtypeKeys? = []
      · rw [if_pos hfirst, hfirst]
        simp [withSubtype, lastOfEach, keepFirst, lastKeys]
      · rw [if_neg hfirst, withSubtype, setSubtype_lastOfEach]

theorem after_outcome (past : List Registration) (step : Registration) :
    step.after (outcome past) = outcome (past ++ [step]) := by
  cases step with
  | simple property key =>
      have hlast :
          ((past ++ [simple property key]).filterMap simpleKey?).getLast? =
            some key := by
        rw [List.filterMap_append]
        exact List.getLast?_concat
      rw [outcome_of_simple hlast]
      rfl
  | subtype property part keys =>
      by_cases hkeys : keys = []
      · have hnothing : (subtype property part keys).subtypeKeys? = none :=
          if_pos hkeys
        rw [after, if_pos ((keepFirst_eq_nil_iff keys).mpr hkeys),
          outcome_concat_of_idle rfl hnothing]
      · have hgives : (subtype property part keys).subtypeKeys? =
            some ⟨Text.lower part, keepFirst id keys⟩ := if_neg hkeys
        rw [after, if_neg ((keepFirst_eq_nil_iff keys).not.mpr hkeys)]
        exact withSubtype_outcome rfl hgives

theorem replay_eq_outcome (steps : List Registration) :
    replay steps none = outcome steps := by
  induction steps using List.reverseRecOn with
  | nil => rfl
  | append_singleton past step ih =>
      rw [replay_concat, ih, after_outcome]

end Registration

namespace PropertyTable

open Registration (outcome subtypeKeys?)

theorem get?_eq_outcome (steps : List Registration) (name : String) :
    (ofRegistrations steps).mappings.get? name =
      outcome (steps.filter fun step => step.name = name) := by
  rw [get?_ofRegistrations, Registration.replay_eq_outcome]

/-- Steps of different names do not meet, whatever stands in the table
before. -/
theorem register_comm (table : PropertyTable) {first second : Registration}
    (hnames : first.name ≠ second.name) :
    (table.register first).register second =
      (table.register second).register first := by
  apply ext_get?
  intro name
  simp only [get?_register]
  by_cases hfirst : name = first.name
  · have hsecond : name ≠ second.name := hfirst ▸ hnames
    rw [if_pos hfirst, if_pos hfirst, if_neg hsecond, if_neg hsecond]
  · rw [if_neg hfirst, if_neg hfirst]

theorem of_mem_given {steps : List Registration} {s : SubtypeKeys}
    (hs : s ∈ steps.filterMap subtypeKeys?) :
    (∃ part, s.subtype = Text.lower part) ∧ s.keys ≠ [] ∧ s.keys.Nodup := by
  obtain ⟨step, -, hgives⟩ := List.mem_filterMap.mp hs
  cases step with
  | simple property key => cases hgives
  | subtype property part keys =>
      obtain ⟨hkeys, hstored⟩ := Option.ite_none_left_eq_some.mp hgives
      rw [← Option.some.inj hstored]
      exact ⟨⟨part, rfl⟩,
        (Registration.keepFirst_eq_nil_iff keys).not.mpr hkeys,
        keepFirst_distinct id keys⟩

/-- The steps of a name say what its mapping is.  A property is looked up as the
outcome of the steps that bear its name, in their order; steps of different
names may change places; and the sub-types of a structured property are
different names in lower case, each with keys and none of them twice. -/
theorem lookup_after_registrations :
    (∀ (steps : List Registration) (property : String),
      (ofRegistrations steps).lookup property =
        outcome (steps.filter fun step => step.name = Text.upper property)) ∧
    (∀ (table : PropertyTable) (first second : Registration),
      first.name ≠ second.name →
      (table.register first).register second =
        (table.register second).register first) ∧
    (∀ (steps : List Registration) (property : String)
      (subtypes : List SubtypeKeys),
      (ofRegistrations steps).lookup property = some (.structured subtypes) →
        subtypes ≠ [] ∧ (subtypes.map (·.subtype)).Nodup ∧
          ∀ s ∈ subtypes, (∃ part, s.subtype = Text.lower part) ∧ s.keys ≠ [] ∧
            s.keys.Nodup) := by
  refine ⟨?_, ?_, ?_⟩
  · intro steps property
    exact get?_eq_outcome steps _
  · intro table first second hnames
    exact register_comm table hnames
  · intro steps property subtypes hlookup
    obtain ⟨hgiven, hsubtypes⟩ := Registration.of_outcome_eq_structured
      ((get?_eq_outcome steps _).symm.trans hlookup)
    refine ⟨?_, ?_, ?_⟩
    · rw [hsubtypes]
      exact lastOfEach_ne_nil hgiven
    · rw [hsubtypes, map_subtype_lastOfEach]
      exact nodup_keepFirst_id _
    · intro s hs
      rw [hsubtypes] at hs
      exact of_mem_given (mem_of_mem_lastOfEach hs)

/-- The keys of a sub-type are replaced under another spelling, one step has no
keys, and one that is simple bears another name. -/
def phoneSteps : List Registration :=
  [.subtype "tel" "HOME" ["phone", "phone2", "phone"], .subtype "Tel" "fax" [],
    .simple "straße" "street", .subtype "TEL" "Work" ["office"],
    .subtype "tel" "home" ["phone3", "phone3"]]

theorem phone_settled :
    (ofRegistrations phoneSteps).lookup "tEl" =
        some (.structured [⟨"home", ["phone3"]⟩, ⟨"work", ["office"]⟩]) ∧
      (ofRegistrations (.simple "Tel" "anyPhone" :: phoneSteps)).lookup "tel" =
        some (.simple "anyPhone") ∧
      ((ofRegistrations phoneSteps).register
          (.simple "STRASSE" "lane")).register (.simple "tel" "anyPhone") =
        ((ofRegistrations phoneSteps).register
          (.simple "tel" "anyPhone")).register (.simple "STRASSE" "lane") ∧
      (∃ part, "home" = Text.lower part) ∧ ["phone3"].Nodup := by
  obtain ⟨hlookup, hcommute, hsubtypes⟩ := lookup_after_registrations
  have htel : (ofRegistrations phoneSteps).lookup "tEl" =
      some (.structured [⟨"home", ["phone3"]⟩, ⟨"work", ["office"]⟩]) := by
    rw [hlookup]
    decide +kernel
  have hsimple :
      (ofRegistrations (.simple "Tel" "anyPhone" :: phoneSteps)).lookup "tel" =
        some (.simple "anyPhone") := by
    rw [hlookup]
    decide +kernel
  have hhome :=
    (hsubtypes phoneSteps "tEl" _ htel).2.2 ⟨"home", ["phone3"]⟩
      List.mem_cons_self
  exact ⟨htel, hsimple, hcommute _ _ _ (by decide +kernel), hhome.1, hhome.2.2⟩

end PropertyTable
end AddressBook

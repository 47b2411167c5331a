import AddressBook.Json.Property
import AddressBook.Proofs.CaseStability
import AddressBook.Proofs.RegistrationHistory

/-!
# Storing a property table

Reading a stored table registers every stored mapping anew.  Registration has
nothing left to change in it, as its names are in upper case already and its
sub-types in lower case (`PropertyTable.Normal`), and each mapping is what its
own registrations build (`Registration.replay_registrationsOf`).  Mappings of
different names do not meet, so their order is free.
-/

namespace AddressBook

/-! ## Normal tables -/

/-- Every sub-type is in lower case. -/
def Mapping.Normal : Mapping → Prop
  | .simple _ => True
  | .structured subtypes => ∀ s ∈ subtypes, Text.lower s.subtype = s.subtype

theorem Registration.name_settled (step : Registration) :
    Text.upper step.name = step.name := by
  cases step with
  | simple property key => exact Text.upper_upper property
  | subtype property part keys => exact Text.upper_upper property

theorem Mapping.Normal.withSubtype {old : Option Mapping} (part : String)
    (keys : List String)
    (hold : ∀ mapping, old = some mapping → mapping.Normal) :
    (PropertyTable.withSubtype (Text.lower part) keys old).Normal := by
  match old with
  | none =>
      intro s hs
      rw [List.mem_singleton.mp hs]
      exact Text.lower_lower part
  | some (.simple key) => exact hold _ rfl
  | some (.structured subtypes) =>
      intro s hs
      rcases PropertyTable.mem_setSubtype hs with hnew | hstored
      · rw [hnew]
        exact Text.lower_lower part
      · exact hold _ rfl s hstored

theorem Mapping.Normal.after {step : Registration} {old : Option Mapping}
    {mapping : Mapping} (hold : ∀ mapping, old = some mapping → mapping.Normal)
    (hafter : step.after old = some mapping) : mapping.Normal := by
  cases step with
  | simple property key =>
      rw [← Option.some.inj hafter]
      trivial
  | subtype property part keys =>
      unfold Registration.after at hafter
      dsimp only at hafter
      split at hafter
      next => exact hold mapping hafter
      next =>
        rw [← Option.some.inj hafter]
        exact Mapping.Normal.withSubtype part _ hold

namespace PropertyTable

/-- Names are in upper case and sub-types in lower case. -/
def Normal (table : PropertyTable) : Prop :=
  ∀ name mapping, table.mappings.get? name = some mapping →
    Text.upper name = name ∧ mapping.Normal

theorem normal_empty : empty.Normal := by
  intro name mapping hget
  cases hget

theorem Normal.register {table : PropertyTable} (hnormal : table.Normal)
    (step : Registration) :
    (table.register step).Normal := by
  intro name mapping hget
  rw [get?_register] at hget
  split at hget
  next hname =>
    constructor
    · rw [hname]
      exact step.name_settled
    · exact Mapping.Normal.after (fun old hold => (hnormal name old hold).2)
        hget
  next => exact hnormal name mapping hget

theorem normal_foldl_register {table : PropertyTable} (hnormal : table.Normal)
    (steps : List Registration) : (steps.foldl register table).Normal := by
  induction steps generalizing table with
  | nil => exact hnormal
  | cons step rest ih => exact ih (hnormal.register step)

theorem normal_ofRegistrations (steps : List Registration) :
    (ofRegistrations steps).Normal :=
  normal_foldl_register normal_empty steps

end PropertyTable

/-! ## Replaying one mapping -/

namespace PropertyTable

theorem setSubtype_of_new {part : String} {keys : List String}
    {subtypes : List SubtypeKeys} (hnew : part ∉ subtypes.map (·.subtype)) :
    setSubtype part keys subtypes = subtypes ++ [⟨part, keys⟩] := by
  induction subtypes with
  | nil => rfl
  | cons first rest ih =>
      rw [List.map_cons, List.mem_cons, not_or] at hnew
      rw [setSubtype, if_neg (Ne.symm hnew.1), ih hnew.2, List.cons_append]

end PropertyTable

namespace Registration

open PropertyTable (registrationsOf)

variable {property : String} {subtypes : List SubtypeKeys}

theorem after_subtype {s : SubtypeKeys}
    (hlower : Text.lower s.subtype = s.subtype)
    (hkeys : s.keys ≠ [] ∧ s.keys.Nodup) (old : Option Mapping) :
    (Registration.subtype property s.subtype s.keys).after old =
      some (PropertyTable.withSubtype s.subtype s.keys old) := by
  have hkept : keepFirst id s.keys = s.keys := keepFirst_of_distinct hkeys.2
  rw [after, hkept, hlower, if_neg hkeys.1]

theorem registrationsOf_cons (property : String) (s : SubtypeKeys)
    (rest : List SubtypeKeys) :
    registrationsOf property (.structured (s :: rest)) =
      .subtype property s.subtype s.keys ::
        registrationsOf property (.structured rest) := rfl

/-- Sub-types of other names join those registered before them, in their
order. -/
theorem replay_subtypes (registered : List SubtypeKeys)
    (hlower : ∀ s ∈ subtypes, Text.lower s.subtype = s.subtype)
    (hkeys : ∀ s ∈ subtypes, s.keys ≠ [] ∧ s.keys.Nodup)
    (hdistinct : ((registered ++ subtypes).map (·.subtype)).Nodup) :
    replay (registrationsOf property (.structured subtypes))
        (some (.structured registered)) =
      some (.structured (registered ++ subtypes)) := by
  induction subtypes generalizing registered with
  | nil =>
      rw [List.append_nil]
      rfl
  | cons s rest ih =>
      obtain ⟨hsLower, hrestLower⟩ := List.forall_mem_cons.mp hlower
      obtain ⟨hsKeys, hrestKeys⟩ := List.forall_mem_cons.mp hkeys
      have hnew : s.subtype ∉ registered.map (·.subtype) := by
        rw [List.map_append, List.map_cons] at hdistinct
        intro hmem
        exact (List.nodup_append.mp hdistinct).2.2 _ hmem _ List.mem_cons_self
          rfl
      rw [List.append_cons] at hdistinct ⊢
      rw [registrationsOf_cons, replay_cons, after_subtype hsLower hsKeys,
        PropertyTable.withSubtype, PropertyTable.setSubtype_of_new hnew]
      exact ih (registered ++ [s]) hrestLower hrestKeys hdistinct

/-- A mapping in order is what its own registrations build from nothing. -/
theorem replay_registrationsOf (property : String) {mapping : Mapping}
    (hwellFormed : mapping.WellFormed) (hnormal : mapping.Normal) :
    replay (registrationsOf property mapping) none = some mapping := by
  cases mapping with
  | simple key => rfl
  | structured subtypes =>
      obtain ⟨hsome, hdistinct, hkeys⟩ := hwellFormed
      obtain ⟨s, rest, rfl⟩ := List.exists_cons_of_ne_nil hsome
      obtain ⟨hsLower, hrestLower⟩ := List.forall_mem_cons.mp hnormal
      obtain ⟨hsKeys, hrestKeys⟩ := List.forall_mem_cons.mp hkeys
      rw [registrationsOf_cons, replay_cons, after_subtype hsLower hsKeys]
      exact replay_subtypes [s] hrestLower hrestKeys hdistinct

end Registration

/-! ## Replaying a table -/

/-- In lists whose elements have different keys, a key picks out the same
element whatever the order. -/
theorem filter_key_eq_of_perm {α β : Type} [DecidableEq β] {key : α → β}
    {xs ys : List α} (hdistinct : (ys.map key).Nodup) (hperm : xs.Perm ys)
    (b : β) :
    (xs.filter fun x => key x = b) = ys.filter fun y => key y = b := by
  have hpicked := hperm.filter fun x => key x = b
  cases hys : ys.filter fun y => key y = b with
  | nil =>
      rw [hys] at hpicked
      exact hpicked.eq_nil
  | cons first others =>
      have hsublist : (first :: others).Sublist ys := hys ▸ List.filter_sublist
      have hapart := List.nodup_cons.mp (hdistinct.sublist (hsublist.map key))
      have hkeys : ∀ y ∈ first :: others, key y = b := by
        intro y hy
        rw [← hys] at hy
        exact of_decide_eq_true (List.mem_filter.mp hy).2
      have halone : others = [] := by
        apply List.eq_nil_iff_forall_not_mem.mpr
        intro other hother
        apply hapart.1
        rw [hkeys first List.mem_cons_self,
          ← hkeys other (List.mem_cons_of_mem _ hother)]
        exact List.mem_map_of_mem hother
      rw [hys, halone] at hpicked
      rw [halone]
      exact List.perm_singleton.mp hpicked

namespace PropertyTable

open Registration (replay)

variable {table : PropertyTable} {entries stored : List (String × Mapping)}

theorem name_of_mem_registrationsOf {property : String} {mapping : Mapping}
    {step : Registration} (hstep : step ∈ registrationsOf property mapping) :
    step.name = Text.upper property := by
  cases mapping with
  | simple key =>
      rw [List.mem_singleton.mp hstep]
      rfl
  | structured subtypes =>
      obtain ⟨s, -, rfl⟩ := List.mem_map.mp hstep
      rfl

theorem filter_registrationsOf (entries : List (String × Mapping))
    (name : String) :
    ((entries.flatMap fun entry => registrationsOf entry.1 entry.2).filter
        fun step => step.name = name) =
      (entries.filter fun entry => Text.upper entry.1 = name).flatMap
        fun entry => registrationsOf entry.1 entry.2 := by
  induction entries with
  | nil => rfl
  | cons entry rest ih =>
      rw [List.flatMap_cons, List.filter_append, ih]
      by_cases hname : Text.upper entry.1 = name
      · have hkept :
            (registrationsOf entry.1 entry.2).filter
                (fun step => step.name = name) =
              registrationsOf entry.1 entry.2 := by
          rw [List.filter_eq_self]
          intro step hstep
          exact decide_eq_true ((name_of_mem_registrationsOf hstep).trans hname)
        rw [hkept, List.filter_cons_of_pos (by simpa using hname),
          List.flatMap_cons]
      · have hdropped :
            (registrationsOf entry.1 entry.2).filter
              (fun step => step.name = name) = [] := by
          rw [List.filter_eq_nil_iff]
          intro step hstep hsame
          exact hname
            ((name_of_mem_registrationsOf hstep).symm.trans
              (of_decide_eq_true hsame))
        rw [hdropped, List.filter_cons_of_neg (by simpa using hname),
          List.nil_append]

/-- Of stored mappings, those under the name of a property make its mapping. -/
theorem get?_ofEntries (entries : List (String × Mapping)) (name : String) :
    (ofEntries entries).mappings.get? name =
      replay
        ((entries.filter fun entry => Text.upper entry.1 = name).flatMap
          fun entry => registrationsOf entry.1 entry.2) none := by
  unfold ofEntries
  rw [get?_ofRegistrations, filter_registrationsOf]

theorem ofEntries_eq_of_perm
    (hdistinct : (entries.map fun entry => Text.upper entry.1).Nodup)
    (hperm : stored.Perm entries) : ofEntries stored = ofEntries entries := by
  apply ext_get?
  intro name
  rw [get?_ofEntries, get?_ofEntries,
    filter_key_eq_of_perm hdistinct hperm name]

theorem Normal.upper_toEntries (hnormal : table.Normal)
    {entry : String × Mapping} (hentry : entry ∈ table.toEntries) :
    Text.upper entry.1 = entry.1 :=
  (hnormal entry.1 entry.2 (table.mappings.get?_eq_some_iff.mpr hentry)).1

theorem Normal.distinct_toEntries (hnormal : table.Normal) :
    (table.toEntries.map fun entry => Text.upper entry.1).Nodup := by
  have hnames : (table.toEntries.map fun entry => Text.upper entry.1) =
      table.toEntries.map fun entry => entry.1 := by
    apply List.map_congr_left
    intro entry hentry
    exact hnormal.upper_toEntries hentry
  rw [hnames, List.Nodup, List.pairwise_map]
  apply table.mappings.sorted.imp
  intro a b hless hsame
  exact String.lt_irrefl a.1 (hsame ▸ hless)

theorem Normal.ofEntries_toEntries (hnormal : table.Normal) :
    ofEntries table.toEntries = table := by
  apply ext_get?
  intro name
  have hfilter :
      (table.toEntries.filter fun entry => Text.upper entry.1 = name) =
        table.mappings.entries.filter fun entry => entry.1 = name := by
    apply List.filter_congr
    intro entry hentry
    rw [hnormal.upper_toEntries hentry]
  rw [get?_ofEntries, hfilter, Dictionary.filter_key]
  cases hget : table.mappings.get? name with
  | none => rfl
  | some mapping =>
      have hreplayed := Registration.replay_registrationsOf name
        (table.wellFormed_of_get? hget) (hnormal name mapping hget).2
      simpa using hreplayed

theorem Normal.ofEntries_of_perm (hnormal : table.Normal)
    (hperm : stored.Perm table.toEntries) :
    ofEntries stored = table := by
  rw [ofEntries_eq_of_perm hnormal.distinct_toEntries hperm,
    hnormal.ofEntries_toEntries]

end PropertyTable

/-! ## The stored form -/

theorem ofJson?_toJson_text (s : String) : ofJson? (toJson s) = some s := rfl

theorem ofJson?_toJson_list {α : Type} [JsonForm α]
    (hitem : ∀ value : α, ofJson? (toJson value) = some value)
    (values : List α) :
    ofJson? (toJson values) = some values := by
  have hitems : (values.map toJson).mapM ofJson? = some values := by
    induction values with
    | nil => rfl
    | cons value rest ih =>
        rw [List.map_cons, List.mapM_cons, hitem value, ih]
        rfl
  exact hitems

theorem ofJson?_toJson_subtypeKeys (s : SubtypeKeys) :
    ofJson? (toJson s) = some s := by
  have hkeys : ofJson? (toJson s.keys) = some s.keys :=
    ofJson?_toJson_list ofJson?_toJson_text s.keys
  have hread : ofJson? (toJson s) =
      (ofJson? (toJson s.keys)).bind fun keys =>
        some (SubtypeKeys.mk s.subtype keys) := rfl
  rw [hread, hkeys]
  rfl

theorem ofJson?_toJson_mapping (mapping : Mapping) :
    ofJson? (toJson mapping) = some mapping := by
  cases mapping with
  | simple key => rfl
  | structured subtypes =>
      have hsubtypes := ofJson?_toJson_list ofJson?_toJson_subtypeKeys subtypes
      exact congrArg (Option.map Mapping.structured) hsubtypes

namespace PropertyTable

def storedForm (entries : List (String × Mapping)) : Json :=
  .object
    [("mappings", .object (entries.map fun entry => (entry.1, toJson entry.2)))]

theorem toJson_eq_storedForm (table : PropertyTable) :
    toJson table = storedForm table.toEntries := rfl

theorem ofJson?_storedForm (entries : List (String × Mapping)) :
    ofJson? (storedForm entries) = some (ofEntries entries) := by
  have hentries : (entries.map fun entry => (entry.1, toJson entry.2)).mapM
      (fun field => (ofJson? field.2).map (field.1, ·)) = some entries := by
    induction entries with
    | nil => rfl
    | cons entry rest ih =>
        rw [List.map_cons, List.mapM_cons, ofJson?_toJson_mapping, ih]
        rfl
  have hread : ofJson? (storedForm entries) =
      (entriesOfJson?
        (.object (entries.map fun entry => (entry.1, toJson entry.2)))).bind
        fun entries => some (ofEntries entries) := rfl
  rw [hread, entriesOfJson?, hentries]
  rfl

theorem exists_ofRegistrations_of_ofJson? {json : Json} {table : PropertyTable}
    (hread : ofJson? json = some table) :
    ∃ steps, table = ofRegistrations steps := by
  obtain ⟨fields, -, hmappings⟩ := Option.bind_eq_some_iff.mp hread
  obtain ⟨entries, -, htable⟩ := Option.bind_eq_some_iff.mp hmappings
  exact ⟨_, (Option.some.inj htable).symm⟩

/-- The table is read from its stored form, whatever the order in which that
gives its mappings. -/
structure ReadsBack (table : PropertyTable) : Prop where
  as_stored : ofJson? (toJson table) = some table
  in_any_order : ∀ stored, stored.Perm table.toEntries →
    ofJson? (storedForm stored) = some table

theorem Normal.readsBack {table : PropertyTable} (hnormal : table.Normal) :
    table.ReadsBack := by
  constructor
  · rw [toJson_eq_storedForm, ofJson?_storedForm, hnormal.ofEntries_toEntries]
  · intro stored hperm
    rw [ofJson?_storedForm, hnormal.ofEntries_of_perm hperm]

/-- Storing a table loses nothing.  A table that registrations built and one
that was read itself are read back as they were, in whatever order their
mappings come; and what is read in the first place does not depend on the order
of its mappings, if their names stay apart in upper case. -/
theorem readsBack_of_built_or_read :
    (∀ steps : List Registration, (ofRegistrations steps).ReadsBack) ∧
    (∀ (json : Json) (table : PropertyTable), ofJson? json = some table →
      table.ReadsBack) ∧
    (∀ entries given : List (String × Mapping),
      (entries.map fun entry => Text.upper entry.1).Nodup → given.Perm entries →
        (ofJson? (storedForm given) : Option PropertyTable) =
          ofJson? (storedForm entries)) := by
  refine ⟨?_, ?_, ?_⟩
  · intro steps
    exact (normal_ofRegistrations steps).readsBack
  · intro json table hread
    obtain ⟨steps, rfl⟩ := exists_ofRegistrations_of_ofJson? hread
    exact (normal_ofRegistrations steps).readsBack
  · intro entries given hdistinct hperm
    rw [ofJson?_storedForm, ofJson?_storedForm,
      ofEntries_eq_of_perm hdistinct hperm]

/-- A sub-type replaced under another spelling, one without keys, and names that
change their length in upper case. -/
def officeSteps : List Registration :=
  [.subtype "tel" "WORK" ["phone", "phone2", "phone"],
    .simple "straße" "street", .subtype "Tel" "Fax" [],
    .subtype "TEL" "work" ["phone2"], .subtype "tel" "ΟΔΟΣ" ["odos"]]

def officeStored : List (String × Mapping) :=
  [("TEL", .structured [⟨"work", ["phone2"]⟩, ⟨"οδος", ["odos"]⟩]),
    ("STRASSE", .simple "street")]

/-- The table as it might be written by hand. -/
def officeByHand : Json :=
  .object [("mappings", .object
    [("tel", .object [("Structured", .list
      [.object
        [("subtype", .text "Work"),
          ("attrs", .list [.text "phone2", .text "phone2"])],
        .object
          [("subtype", .text "οδος"), ("attrs", .list [.text "odos"])]])]),
      ("Straße", .object [("Simple", .text "street")])])]

theorem office_reads_back :
    officeStored.Perm (ofRegistrations officeSteps).toEntries ∧
      ofJson? (storedForm officeStored) = some (ofRegistrations officeSteps) ∧
      ofJson? officeByHand = some (ofRegistrations officeSteps) ∧
      (ofRegistrations officeSteps).ReadsBack ∧
      (ofJson? (storedForm [("b", .simple "x"), ("a", .simple "y")]) :
          Option PropertyTable) =
        ofJson? (storedForm [("a", .simple "y"), ("b", .simple "x")]) := by
  have hentries :
      (ofRegistrations officeSteps).toEntries = officeStored.reverse := by
    decide +kernel
  have hperm : officeStored.Perm (ofRegistrations officeSteps).toEntries := by
    rw [hentries]
    exact (List.reverse_perm officeStored).symm
  have hbyHand : ofJson? officeByHand = some (ofRegistrations officeSteps) := by
    decide +kernel
  obtain ⟨hbuilt, hread, horder⟩ := readsBack_of_built_or_read
  exact ⟨hperm, (hbuilt officeSteps).in_any_order officeStored hperm, hbyHand,
    hread officeByHand _ hbyHand,
    horder _ _ (by decide +kernel) (List.Perm.swap _ _ _)⟩

end PropertyTable

end AddressBook

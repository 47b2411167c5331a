import AddressBook.Proofs.RegistrationOutcome
import AddressBook.Proofs.TableStorage
import AddressBook.Query.Compile

/-!
# The keys of a compiled query

A text-match on a mapped property is compiled to one term for each key of the
mapping, whichever sub-types list it, in the order in which the keys first
appear (`Query.Covers`).  Compilation gives up where there are no keys, which
happens to unmapped properties only (`PropertyTable.keysOf_eq_nil_iff`), in
tables that were built and in those that were read.
-/

namespace AddressBook

namespace Mapping

/-- The keys as the sub-types list them one after another, a key as often as it
is listed. -/
def listing : Mapping → List String
  | simple key => [key]
  | structured subtypes => subtypes.flatMap (·.keys)

/-- The key is that of the mapping, or one of a sub-type's. -/
def Lists (key : String) : Mapping → Prop
  | simple own => own = key
  | structured subtypes => ∃ s ∈ subtypes, key ∈ s.keys

variable {mapping : Mapping} {key part : String}

theorem keys_eq_keepFirst (mapping : Mapping) :
    mapping.keys = keepFirst id mapping.listing := by
  cases mapping with
  | simple key => rfl
  | structured subtypes => rfl

theorem mem_listing : key ∈ mapping.listing ↔ mapping.Lists key := by
  cases mapping with
  | simple own => rw [listing, List.mem_singleton, Lists, eq_comm]
  | structured subtypes => exact List.mem_flatMap

theorem mem_keys : key ∈ mapping.keys ↔ mapping.Lists key := by
  rw [keys_eq_keepFirst, mem_keepFirst_id, mem_listing]

theorem nodup_keys (mapping : Mapping) : mapping.keys.Nodup := by
  rw [keys_eq_keepFirst]
  exact nodup_keepFirst_id _

theorem keys_in_order (mapping : Mapping) :
    mapping.keys.Pairwise fun first second =>
      mapping.listing.idxOf first < mapping.listing.idxOf second := by
  rw [keys_eq_keepFirst]
  simpa using keepFirst_idxOf_lt id mapping.listing

theorem lists_of_mem_keysFor (hkey : key ∈ mapping.keysFor part) :
    mapping.Lists key := by
  cases mapping with
  | simple own => exact (List.mem_singleton.mp hkey).symm
  | structured subtypes =>
      rw [keysFor] at hkey
      split at hkey
      next s hfound => exact ⟨s, List.mem_of_find?_eq_some hfound, hkey⟩
      next => cases hkey

end Mapping

/-- The query asks for the pattern of the text-match under every key of the
mapping and under no other, once for each of them, in the order in which the
mapping first lists them. -/
structure Query.Covers (query : Query) (t : TextMatch) (mapping : Mapping) :
    Prop where
  negated_eq : query.negated = t.negate
  terms_ne_nil : query.terms ≠ []
  pattern_eq : ∀ term ∈ query.terms, term.pattern = t.pattern
  keys_nodup : query.keys.Nodup
  mem_keys_iff : ∀ key, key ∈ query.keys ↔ mapping.Lists key
  keys_in_order : query.keys.Pairwise fun first second =>
    mapping.listing.idxOf first < mapping.listing.idxOf second

namespace PropertyTable

variable {table : PropertyTable} {t : TextMatch} {property : String}
  {mapping : Mapping} {query : Query}

theorem keysOf_of_lookup (hlookup : table.lookup property = some mapping) :
    table.keysOf property = mapping.keys := by
  rw [keysOf, hlookup]

theorem keysOfSubtype_of_lookup (hlookup : table.lookup property = some mapping)
    (part : String) :
    table.keysOfSubtype property part = mapping.keysFor part := by
  rw [keysOfSubtype, hlookup]

theorem keys_of_compile (hcompile : table.compile t property = some query) :
    query.keys = table.keysOf property := by
  rw [eq_of_compile hcompile]
  simp [Query.keys, Function.comp_def]

theorem covers_of_compile (hlookup : table.lookup property = some mapping)
    (hcompile : table.compile t property = some query) :
    query.Covers t mapping := by
  have hquery : query =
      { negated := t.negate
        terms := mapping.keys.map fun key =>
          { key := key, pattern := t.pattern } } := by
    rw [eq_of_compile hcompile, keysOf_of_lookup hlookup]
  have hkeys : query.keys = mapping.keys :=
    (keys_of_compile hcompile).trans (keysOf_of_lookup hlookup)
  refine ⟨?_, ?_, ?_, ?_, ?_, ?_⟩
  · rw [hquery]
  · rw [hquery]
    intro hempty
    exact (table.wellFormed_of_get? hlookup).keys_ne_nil
      (List.map_eq_nil_iff.mp hempty)
  · intro term hterm
    rw [hquery] at hterm
    obtain ⟨key, -, rfl⟩ := List.mem_map.mp hterm
    rfl
  · rw [hkeys]
    exact mapping.nodup_keys
  · intro key
    rw [hkeys, Mapping.mem_keys]
  · rw [hkeys]
    exact mapping.keys_in_order

/-- The sub-types of a property that steps of a run give keys to, in the order
of the steps. -/
def partsGiven (steps : List Registration) (property : String) : List String :=
  ((steps.filter fun step => step.name = Text.upper property).filterMap
    Registration.subtypeKeys?).map (·.subtype)

theorem subtypes_of_lookup {steps : List Registration}
    {subtypes : List SubtypeKeys}
    (hlookup :
      (ofRegistrations steps).lookup property = some (.structured subtypes)) :
    subtypes.map (·.subtype) = keepFirst id (partsGiven steps property) := by
  obtain ⟨-, hsubtypes⟩ := Registration.of_outcome_eq_structured
    ((get?_eq_outcome steps _).symm.trans hlookup)
  rw [hsubtypes, map_subtype_lastOfEach]
  rfl

/-- A text-match on a property is compiled unless the property is unmapped, and
its query then covers the mapping, the keys of every sub-type among the others.
The sub-types of the mapping stand in the order in which registration first gave
them keys, and a table that was read was registered too. -/
theorem compile_covers_mapped_keys :
    (∀ (table : PropertyTable) (t : TextMatch) (property : String),
      (table.compile t property = none ↔ table.lookup property = none) ∧
        ∀ mapping, table.lookup property = some mapping →
          ∃ query, table.compile t property = some query ∧
            query.Covers t mapping ∧
            ∀ part, table.keysOfSubtype property part ⊆ query.keys) ∧
    (∀ (steps : List Registration) (property : String)
      (subtypes : List SubtypeKeys),
      (ofRegistrations steps).lookup property = some (.structured subtypes) →
        (subtypes.map (·.subtype)).Pairwise fun first second =>
          (partsGiven steps property).idxOf first <
            (partsGiven steps property).idxOf second) ∧
    (∀ (json : Json) (table : PropertyTable), ofJson? json = some table →
      ∃ steps, table = ofRegistrations steps) := by
  refine ⟨?_, ?_, ?_⟩
  · intro table t property
    refine ⟨compile_eq_none_iff, ?_⟩
    intro mapping hlookup
    have hmapped : table.lookup property ≠ none := by simp [hlookup]
    obtain ⟨query, hcompile⟩ : ∃ query, table.compile t property = some query :=
      exists_compile hmapped
    have hcovers := covers_of_compile hlookup hcompile
    refine ⟨query, hcompile, hcovers, ?_⟩
    intro part key hkey
    rw [keysOfSubtype_of_lookup hlookup] at hkey
    exact (hcovers.mem_keys_iff key).mpr (Mapping.lists_of_mem_keysFor hkey)
  · intro steps property subtypes hlookup
    rw [subtypes_of_lookup hlookup]
    simpa using keepFirst_idxOf_lt id (partsGiven steps property)
  · intro json table hread
    exact exists_ofRegistrations_of_ofJson? hread

/-- Sub-types that share keys, one of them given other keys under another
spelling. -/
def sharedSteps : List Registration :=
  [.subtype "TEL" "work" ["a", "b"], .subtype "tel" "home" ["b", "c", "b"],
    .subtype "Tel" "fax" [], .subtype "TEL" "WORK" ["c", "a"]]

def sharedMapping : Mapping :=
  .structured [⟨"work", ["c", "a"]⟩, ⟨"home", ["b", "c"]⟩]

/-- The same sub-types as they might be stored. -/
def sharedStored : Json :=
  .object [("mappings", .object
    [("tel", .object [("Structured", .list
      [.object
        [("subtype", .text "Work"),
          ("attrs", .list [.text "c", .text "a", .text "c"])],
        .object
          [("subtype", .text "home"),
            ("attrs", .list [.text "b", .text "c"])]])])])]

theorem shared_keys_compiled :
    (ofRegistrations sharedSteps).lookup "Tel" = some sharedMapping ∧
      (∃ query,
        (ofRegistrations sharedSteps).compile (.ofPattern "TEL" "555" true)
            "Tel" = some query ∧
          query.Covers (.ofPattern "TEL" "555" true) sharedMapping ∧
          (ofRegistrations sharedSteps).keysOfSubtype "Tel" "HOME" ⊆
            query.keys) ∧
      ["work", "home"].Pairwise (fun first second =>
        (partsGiven sharedSteps "Tel").idxOf first <
          (partsGiven sharedSteps "Tel").idxOf second) ∧
      ofJson? sharedStored = some (ofRegistrations sharedSteps) ∧
      ∃ steps, ofRegistrations sharedSteps = ofRegistrations steps := by
  obtain ⟨hcompiled, horder, hread⟩ := compile_covers_mapped_keys
  have hlookup :
      (ofRegistrations sharedSteps).lookup "Tel" = some sharedMapping := by
    decide +kernel
  have hstored : ofJson? sharedStored = some (ofRegistrations sharedSteps) := by
    decide +kernel
  obtain ⟨query, hquery, hcovers, hparts⟩ :=
    (hcompiled (ofRegistrations sharedSteps) (.ofPattern "TEL" "555" true)
      "Tel").2 _ hlookup
  exact ⟨hlookup, ⟨query, hquery, hcovers, hparts "HOME"⟩,
    horder sharedSteps "Tel" _ hlookup, hstored, hread sharedStored _ hstored⟩

end PropertyTable
end AddressBook

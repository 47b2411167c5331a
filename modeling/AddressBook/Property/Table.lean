import AddressBook.Data.Dictionary
import AddressBook.Property.Mapping

/-!
# Property tables

The registry of attribute mappings by property name.  A table is built by
registration steps: names are upper-cased and sub-types lower-cased, a simple
mapping replaces what stood under its name, a sub-type replaces or joins the
sub-types already there, and a property registered as simple stays simple.  No
mapping of a table is without keys (`keysOf_eq_nil_iff`).
-/

namespace AddressBook

/-- One registration: the key of a simple property, or the keys of one sub-type
of a property. -/
inductive Registration
  | simple (property key : String)
  | subtype (property subtype : String) (keys : List String)
deriving DecidableEq, Repr

/-- The mappings by upper-cased name, each of them as registration leaves it. -/
structure PropertyTable where
  mappings : Dictionary Mapping
  wellFormed : ∀ entry ∈ mappings.entries, entry.2.WellFormed
deriving DecidableEq, Repr

namespace PropertyTable

def empty : PropertyTable := ⟨.empty, fun _ hmem => nomatch hmem⟩

instance : Inhabited PropertyTable := ⟨empty⟩

/-- Sets the keys of a sub-type where it stands, or adds it at the end. -/
def setSubtype (subtype : String) (keys : List String) :
    List SubtypeKeys → List SubtypeKeys
  | [] => [⟨subtype, keys⟩]
  | s :: rest =>
    if s.subtype = subtype then ⟨subtype, keys⟩ :: rest
    else s :: setSubtype subtype keys rest

theorem mem_setSubtype {subtype : String} {keys : List String}
    {subtypes : List SubtypeKeys} {s : SubtypeKeys}
    (hmem : s ∈ setSubtype subtype keys subtypes) :
    s = ⟨subtype, keys⟩ ∨ s ∈ subtypes := by
  induction subtypes with
  | nil => simpa [setSubtype] using hmem
  | cons first rest ih =>
    rw [setSubtype] at hmem
    split at hmem
    · exact (List.mem_cons.mp hmem).imp id (List.mem_cons_of_mem _)
    · rcases List.mem_cons.mp hmem with hsame | hlater
      · exact .inr (hsame ▸ List.mem_cons_self)
      · exact (ih hlater).imp id (List.mem_cons_of_mem _)

theorem setSubtype_ne_nil (subtype : String) (keys : List String)
    (subtypes : List SubtypeKeys) :
    setSubtype subtype keys subtypes ≠ [] := by
  cases subtypes with
  | nil => simp [setSubtype]
  | cons first rest =>
    rw [setSubtype]
    split <;> simp

theorem nodup_setSubtype (subtype : String) (keys : List String)
    {subtypes : List SubtypeKeys}
    (hdistinct : (subtypes.map (·.subtype)).Nodup) :
    ((setSubtype subtype keys subtypes).map (·.subtype)).Nodup := by
  induction subtypes with
  | nil => simp [setSubtype]
  | cons first rest ih =>
    obtain ⟨hfirst, hrest⟩ := List.nodup_cons.mp hdistinct
    rw [setSubtype]
    split
    next hsame => exact List.nodup_cons.mpr ⟨hsame ▸ hfirst, hrest⟩
    next hne =>
      refine List.nodup_cons.mpr ⟨fun hmem => ?_, ih hrest⟩
      obtain ⟨s, hlater, hname⟩ := List.mem_map.mp hmem
      rcases mem_setSubtype hlater with hnew | hold
      · exact hne (hname.symm.trans (congrArg SubtypeKeys.subtype hnew))
      · exact hfirst (List.mem_map.mpr ⟨s, hold, hname⟩)

def withSubtype (subtype : String) (keys : List String) :
    Option Mapping → Mapping
  | none => .structured [⟨subtype, keys⟩]
  | some (.simple key) => .simple key
  | some (.structured subtypes) =>
    .structured (setSubtype subtype keys subtypes)

theorem wellFormed_withSubtype {subtype : String} {keys : List String}
    {old : Option Mapping} (hkeys : keys ≠ []) (hdistinctKeys : keys.Nodup)
    (hformed : ∀ mapping, old = some mapping → mapping.WellFormed) :
    (withSubtype subtype keys old).WellFormed := by
  match old with
  | none => simp [withSubtype, Mapping.WellFormed, hkeys, hdistinctKeys]
  | some (.simple key) => exact hformed _ rfl
  | some (.structured subtypes) =>
    obtain ⟨_, hdistinct, heach⟩ := hformed _ rfl
    refine ⟨setSubtype_ne_nil _ _ _, nodup_setSubtype _ _ hdistinct,
      fun s hmem => ?_⟩
    rcases mem_setSubtype hmem with hnew | hold
    · exact hnew ▸ ⟨hkeys, hdistinctKeys⟩
    · exact heach s hold

def put (table : PropertyTable) (name : String) (mapping : Mapping)
    (hmapping : mapping.WellFormed) : PropertyTable where
  mappings := table.mappings.insert name mapping
  wellFormed entry hmem := by
    rcases Dictionary.mem_insertEntry hmem with hnew | hold
    · exact hnew ▸ hmapping
    · exact table.wellFormed entry hold

theorem wellFormed_of_get? (table : PropertyTable) {name : String}
    {mapping : Mapping} (hfound : table.mappings.get? name = some mapping) :
    mapping.WellFormed :=
  table.wellFormed _ ((table.mappings.get?_eq_some_iff).mp hfound)

/-- Registers one mapping.  A sub-type without keys is not registered. -/
def register (table : PropertyTable) : Registration → PropertyTable
  | .simple property key =>
    table.put (Text.upper property) (.simple key) trivial
  | .subtype property subtype keys =>
    if hnone : keepFirst id keys = [] then table
    else
      let name := Text.upper property
      table.put name
        (withSubtype (Text.lower subtype) (keepFirst id keys)
          (table.mappings.get? name))
        (wellFormed_withSubtype hnone (keepFirst_distinct id keys)
          fun _ hfound => table.wellFormed_of_get? hfound)

def ofRegistrations (steps : List Registration) : PropertyTable :=
  steps.foldl register empty

/-- The registrations that a stored mapping stands for. -/
def registrationsOf (property : String) : Mapping → List Registration
  | .simple key => [.simple property key]
  | .structured subtypes =>
    subtypes.map fun s => .subtype property s.subtype s.keys

def ofEntries (entries : List (String × Mapping)) : PropertyTable :=
  ofRegistrations (entries.flatMap fun entry => registrationsOf entry.1 entry.2)

def toEntries (table : PropertyTable) : List (String × Mapping) :=
  table.mappings.entries

/-- The mapping of a property, whatever the case of its name. -/
def lookup (table : PropertyTable) (property : String) : Option Mapping :=
  table.mappings.get? (Text.upper property)

def keysOf (table : PropertyTable) (property : String) : List String :=
  match table.lookup property with
  | some mapping => mapping.keys
  | none => []

theorem keysOf_eq_nil_iff {table : PropertyTable} {property : String} :
    table.keysOf property = [] ↔ table.lookup property = none := by
  unfold keysOf
  cases hfound : table.lookup property with
  | none => simp
  | some mapping => simp [(table.wellFormed_of_get? hfound).keys_ne_nil]

def keysOfSubtype (table : PropertyTable) (property subtype : String) :
    List String :=
  match table.lookup property with
  | some mapping => mapping.keysFor subtype
  | none => []

def propertyNames (table : PropertyTable) : List String :=
  table.mappings.keys

def size (table : PropertyTable) : Nat :=
  table.mappings.size

def isEmpty (table : PropertyTable) : Bool :=
  table.mappings.isEmpty

end PropertyTable
end AddressBook

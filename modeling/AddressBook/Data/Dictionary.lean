/-!
# Dictionaries

A finite map with string keys, kept in increasing order of its keys.  The order
leaves each map one representation, so two dictionaries that answer every lookup
alike are equal (`Dictionary.ext_get?`).  Lookups after an update are given by
`get?_insert` and `get?_erase`.
-/

namespace AddressBook

/-- A finite map from strings, its entries in increasing order of their keys. -/
structure Dictionary (α : Type) where
  entries : List (String × α)
  sorted : entries.Pairwise (fun a b => a.1 < b.1)
deriving DecidableEq, Repr

namespace Dictionary

variable {α : Type}

def empty : Dictionary α := ⟨[], .nil⟩

instance : Inhabited (Dictionary α) := ⟨empty⟩

def get? (d : Dictionary α) (key : String) : Option α :=
  d.entries.lookup key

def keys (d : Dictionary α) : List String :=
  d.entries.map (·.1)

def size (d : Dictionary α) : Nat :=
  d.entries.length

def isEmpty (d : Dictionary α) : Bool :=
  d.entries.isEmpty

/-- Puts an entry in its place, over one with the same key. -/
def insertEntry (key : String) (value : α) :
    List (String × α) → List (String × α)
  | [] => [(key, value)]
  | (k, v) :: rest =>
    if key < k then (key, value) :: (k, v) :: rest
    else if key = k then (key, value) :: rest
    else (k, v) :: insertEntry key value rest

theorem lt_of_not_lt_of_ne {a b : String} (hnotLess : ¬ a < b) (hne : a ≠ b) :
    b < a := by
  rcases String.le_total a b with hbelow | habove
  · exact absurd (String.le_antisymm hbelow (String.not_lt.mp hnotLess)) hne
  · exact String.not_le.mp fun hbelow => hne (String.le_antisymm hbelow habove)

theorem mem_insertEntry {key : String} {value : α} {entries : List (String × α)}
    {entry : String × α} (hmem : entry ∈ insertEntry key value entries) :
    entry = (key, value) ∨ entry ∈ entries := by
  induction entries with
  | nil => simpa [insertEntry] using hmem
  | cons first rest ih =>
    obtain ⟨k, v⟩ := first
    rw [insertEntry] at hmem
    split at hmem
    · simpa using hmem
    · split at hmem
      · rcases List.mem_cons.mp hmem with hnew | hold
        · exact .inl hnew
        · exact .inr (List.mem_cons_of_mem _ hold)
      · rcases List.mem_cons.mp hmem with hsame | hlater
        · exact .inr (hsame ▸ List.mem_cons_self)
        · exact (ih hlater).imp id (List.mem_cons_of_mem _)

theorem sorted_insertEntry (key : String) (value : α)
    {entries : List (String × α)}
    (hsorted : entries.Pairwise (fun a b => a.1 < b.1)) :
    (insertEntry key value entries).Pairwise (fun a b => a.1 < b.1) := by
  induction entries with
  | nil => simp [insertEntry]
  | cons first rest ih =>
    obtain ⟨k, v⟩ := first
    obtain ⟨hfirst, hrest⟩ := List.pairwise_cons.mp hsorted
    rw [insertEntry]
    split
    next hless =>
      refine List.pairwise_cons.mpr ⟨fun entry hmem => ?_, hsorted⟩
      rcases List.mem_cons.mp hmem with hsame | hlater
      · exact hsame ▸ hless
      · exact String.lt_trans hless (hfirst entry hlater)
    next hnotLess =>
      split
      next hsame => exact List.pairwise_cons.mpr ⟨hsame ▸ hfirst, hrest⟩
      next hne =>
        refine List.pairwise_cons.mpr ⟨fun entry hmem => ?_, ih hrest⟩
        rcases mem_insertEntry hmem with hnew | hold
        · exact hnew ▸ lt_of_not_lt_of_ne hnotLess hne
        · exact hfirst entry hold

def insert (d : Dictionary α) (key : String) (value : α) : Dictionary α :=
  ⟨insertEntry key value d.entries, sorted_insertEntry key value d.sorted⟩

def erase (d : Dictionary α) (key : String) : Dictionary α :=
  ⟨d.entries.filter (fun entry => entry.1 != key), d.sorted.filter _⟩

/-- The dictionary of a list of entries; of entries with one key the last
counts. -/
def ofList (entries : List (String × α)) : Dictionary α :=
  entries.foldl (fun d entry => d.insert entry.1 entry.2) empty

def filterValues (d : Dictionary α) (keep : α → Bool) : Dictionary α :=
  ⟨d.entries.filter (fun entry => keep entry.2), d.sorted.filter _⟩

@[simp] theorem get?_empty (key : String) :
    (empty : Dictionary α).get? key = none := rfl

theorem lookup_insertEntry_self (key : String) (value : α)
    (entries : List (String × α)) :
    (insertEntry key value entries).lookup key = some value := by
  induction entries with
  | nil => simp [insertEntry]
  | cons first rest ih =>
    obtain ⟨k, v⟩ := first
    rw [insertEntry]
    split
    · simp
    · split
      · simp
      next hne => simp [List.lookup_cons, beq_false_of_ne hne, ih]

theorem lookup_insertEntry_of_ne {key other : String} (hne : other ≠ key)
    (value : α) (entries : List (String × α)) :
    (insertEntry key value entries).lookup other = entries.lookup other := by
  induction entries with
  | nil => simp [insertEntry, List.lookup_cons, beq_false_of_ne hne]
  | cons first rest ih =>
    obtain ⟨k, v⟩ := first
    rw [insertEntry]
    split
    · simp [List.lookup_cons, beq_false_of_ne hne]
    · split
      next hsame => simp [List.lookup_cons, ← hsame, beq_false_of_ne hne]
      · simp [List.lookup_cons, ih]

theorem get?_insert (d : Dictionary α) (key other : String) (value : α) :
    (d.insert key value).get? other =
      if other = key then some value else d.get? other := by
  split
  next hsame => subst hsame; exact lookup_insertEntry_self _ _ _
  next hne => exact lookup_insertEntry_of_ne hne _ _

theorem lookup_filter_ne (entries : List (String × α)) (key other : String) :
    (entries.filter (fun entry => entry.1 != key)).lookup other =
      if other = key then none else entries.lookup other := by
  induction entries with
  | nil => simp
  | cons first rest ih =>
    obtain ⟨k, v⟩ := first
    by_cases herased : k = key
    · subst herased
      rw [List.filter_cons_of_neg (by simp), ih]
      by_cases hsame : other = k
      · simp [hsame]
      · simp [hsame, List.lookup_cons, beq_false_of_ne hsame]
    · rw [List.filter_cons_of_pos (by simpa using herased), List.lookup_cons,
        ih, List.lookup_cons]
      by_cases hfound : other = k
      · subst hfound; simp [herased]
      · simp [beq_false_of_ne hfound]

theorem get?_erase (d : Dictionary α) (key other : String) :
    (d.erase key).get? other = if other = key then none else d.get? other :=
  lookup_filter_ne d.entries key other

theorem lookup_eq_some_iff {entries : List (String × α)}
    (hsorted : entries.Pairwise (fun a b => a.1 < b.1)) {key : String}
    {value : α} :
    entries.lookup key = some value ↔ (key, value) ∈ entries := by
  induction entries with
  | nil => simp
  | cons first rest ih =>
    obtain ⟨k, v⟩ := first
    obtain ⟨hfirst, hrest⟩ := List.pairwise_cons.mp hsorted
    rw [List.lookup_cons]
    by_cases hsame : key = k
    · subst hsame
      have habsent : ∀ w, (key, w) ∉ rest := fun w hmem =>
        String.lt_irrefl key (hfirst _ hmem)
      simp [habsent, eq_comm]
    · simp [beq_false_of_ne hsame, hsame, ih hrest]

theorem get?_eq_some_iff (d : Dictionary α) {key : String} {value : α} :
    d.get? key = some value ↔ (key, value) ∈ d.entries :=
  lookup_eq_some_iff d.sorted

theorem filter_key_of_sorted {entries : List (String × α)}
    (hsorted : entries.Pairwise (fun a b => a.1 < b.1)) (key : String) :
    entries.filter (fun entry => entry.1 = key) =
      ((entries.lookup key).map fun value => (key, value)).toList := by
  induction entries with
  | nil => rfl
  | cons first rest ih =>
    obtain ⟨k, v⟩ := first
    obtain ⟨hfirst, hrest⟩ := List.pairwise_cons.mp hsorted
    rw [List.lookup_cons]
    by_cases hsame : k = key
    · subst hsame
      have hothers : rest.filter (fun entry => entry.1 = k) = [] := by
        rw [List.filter_eq_nil_iff]
        intro entry hmem heq
        exact String.lt_irrefl k (of_decide_eq_true heq ▸ hfirst entry hmem)
      rw [List.filter_cons_of_pos (by simp), hothers]
      simp
    · rw [List.filter_cons_of_neg (by simpa using hsame), ih hrest,
        beq_false_of_ne (Ne.symm hsame)]

/-- The entries under one key are the value found there, if there is one. -/
theorem filter_key (d : Dictionary α) (key : String) :
    d.entries.filter (fun entry => entry.1 = key) =
      ((d.get? key).map fun value => (key, value)).toList :=
  filter_key_of_sorted d.sorted key

theorem get?_filterValues (d : Dictionary α) (keep : α → Bool) (key : String) :
    (d.filterValues keep).get? key = (d.get? key).filter keep := by
  apply Option.ext
  intro value
  rw [get?_eq_some_iff, Option.filter_eq_some_iff, get?_eq_some_iff]
  exact List.mem_filter

theorem eq_of_mem_iff {first second : List (String × α)}
    (hfirstSorted : first.Pairwise (fun a b => a.1 < b.1))
    (hsecondSorted : second.Pairwise (fun a b => a.1 < b.1))
    (hsame : ∀ entry, entry ∈ first ↔ entry ∈ second) : first = second := by
  induction first generalizing second with
  | nil =>
    cases second with
    | nil => rfl
    | cons b _ => simpa using hsame b
  | cons a as ih =>
    cases second with
    | nil => simpa using hsame a
    | cons b bs =>
      obtain ⟨ha, has⟩ := List.pairwise_cons.mp hfirstSorted
      obtain ⟨hb, hbs⟩ := List.pairwise_cons.mp hsecondSorted
      have hheads : a = b := by
        rcases List.mem_cons.mp ((hsame a).mp List.mem_cons_self) with
          heq | haLater
        · exact heq
        · rcases List.mem_cons.mp ((hsame b).mpr List.mem_cons_self) with
            heq | hbLater
          · exact heq.symm
          · exact absurd (ha b hbLater) (String.lt_asymm (hb a haLater))
      subst hheads
      have htails : ∀ entry, entry ∈ as ↔ entry ∈ bs := by
        intro entry
        constructor
        · intro hmem
          rcases List.mem_cons.mp
            ((hsame entry).mp (List.mem_cons_of_mem _ hmem)) with heq | hlater
          · subst heq; exact absurd (ha entry hmem) (String.lt_irrefl _)
          · exact hlater
        · intro hmem
          rcases List.mem_cons.mp
            ((hsame entry).mpr (List.mem_cons_of_mem _ hmem)) with heq | hlater
          · subst heq; exact absurd (hb entry hmem) (String.lt_irrefl _)
          · exact hlater
      rw [ih has hbs htails]

theorem ext_get? {d e : Dictionary α} (hsame : ∀ key, d.get? key = e.get? key) :
    d = e := by
  obtain ⟨dEntries, hd⟩ := d
  obtain ⟨eEntries, he⟩ := e
  have hentries : dEntries = eEntries := by
    apply eq_of_mem_iff hd he
    rintro ⟨key, value⟩
    rw [← lookup_eq_some_iff hd, ← lookup_eq_some_iff he]
    exact iff_of_eq (congrArg (· = some value) (hsame key))
  subst hentries
  rfl

end Dictionary
end AddressBook

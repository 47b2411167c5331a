import AddressBook.Filter.TextMatch
import AddressBook.Property.Table
import AddressBook.Query.Basic

/-!
# Compiling text-matches

A text-match on a mapped property becomes a query with one term for each key of
the property, under whichever sub-type the key is listed.  On an unmapped
property there is nothing to search for.
-/

namespace AddressBook
namespace PropertyTable

/-- The query of a text-match read as a predicate on the property
`enclosing`. -/
def compile (table : PropertyTable) (t : TextMatch) (enclosing : String) :
    Option Query :=
  match table.keysOf enclosing with
  | [] => none
  | key :: rest =>
    some { negated := t.negate
           terms := (key :: rest).map fun k =>
             { key := k, pattern := t.pattern } }

theorem compile_eq_none_iff {table : PropertyTable} {t : TextMatch}
    {enclosing : String} :
    table.compile t enclosing = none ↔ table.lookup enclosing = none := by
  rw [← keysOf_eq_nil_iff]
  unfold compile
  cases table.keysOf enclosing <;> simp

theorem exists_compile {table : PropertyTable} {t : TextMatch}
    {enclosing : String} (hmapped : table.lookup enclosing ≠ none) :
    ∃ query, table.compile t enclosing = some query :=
  Option.ne_none_iff_exists'.mp fun hnone =>
    hmapped (compile_eq_none_iff.mp hnone)

/-- A compiled query asks for the pattern under every key of the property. -/
theorem eq_of_compile {table : PropertyTable} {t : TextMatch}
    {enclosing : String} {query : Query}
    (hcompiled : table.compile t enclosing = some query) :
    query =
      { negated := t.negate
        terms := (table.keysOf enclosing).map fun k =>
          { key := k, pattern := t.pattern } } := by
  unfold compile at hcompiled
  split at hcompiled
  next => cases hcompiled
  next key rest hkeys => rw [hkeys, Option.some.inj hcompiled]

/-- The query of a text-match on the node it was written under. -/
def compileTextMatch (table : PropertyTable) (t : TextMatch) : Option Query :=
  table.compile t t.enclosing

end PropertyTable
end AddressBook

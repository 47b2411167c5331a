import AddressBook.Contact.Basic
import AddressBook.Filter.Basic
import AddressBook.Property.Table

/-!
# Matching a record in hand

Whether a filter holds of a record, read through a property table.  The values
of a property are those stored under its keys; an unmapped property has none.  A
property without values satisfies just the prop-filters that ask for its
absence; one with values has to satisfy the text-match and every param-filter.
Records carry no parameters, so param-filters test the values of the property.
-/

namespace AddressBook
namespace PropertyTable

variable {ρ : Type} [Record ρ]

/-- The values a record has for a property, over all its keys. -/
def valuesOf (table : PropertyTable) (record : ρ) (property : String) :
    List String :=
  (table.keysOf property).filterMap (Record.value? record)

end PropertyTable

def ParamFilter.acceptsValues (p : ParamFilter) (values : List String) : Bool :=
  p.textMatch.all (·.acceptsAny values)

namespace PropFilter

def acceptsValues (p : PropFilter) (values : List String) : Bool :=
  if values.isEmpty then p.isNotDefined
  else if p.isNotDefined then false
  else
    p.paramFilters.all (·.acceptsValues values) &&
      p.textMatch.all (·.acceptsAny values)

def accepts {ρ : Type} [Record ρ] (p : PropFilter) (table : PropertyTable)
    (record : ρ) : Bool :=
  p.acceptsValues (table.valuesOf record p.name)

end PropFilter

/-- Whether the filter holds of the record.  A filter without prop-filters holds
of nothing. -/
def Filter.accepts {ρ : Type} [Record ρ] (filter : Filter)
    (table : PropertyTable) (record : ρ) : Bool :=
  match filter.test with
  | .anyOf => filter.propFilters.any (·.accepts table record)
  | .allOf => !filter.isEmpty && filter.propFilters.all (·.accepts table record)

end AddressBook

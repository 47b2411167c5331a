import AddressBook.Filter.TextMatch

/-!
# Filters

The predicate tree of an address-book query: a filter combines prop-filters, a
prop-filter holds a text-match and param-filters, a param-filter holds a
text-match.  The element that a node is read from decides by its nesting level
which children it may have.
-/

namespace AddressBook

structure ParamFilter where
  name : String
  isNotDefined : Bool
  textMatch : Option TextMatch
deriving DecidableEq, Repr, Inhabited

structure PropFilter where
  name : String
  isNotDefined : Bool
  textMatch : Option TextMatch
  paramFilters : List ParamFilter
deriving DecidableEq, Repr, Inhabited

inductive Filter.Test
  | anyOf
  | allOf
deriving DecidableEq, Repr, Inhabited

structure Filter where
  test : Filter.Test
  propFilters : List PropFilter
deriving DecidableEq, Repr, Inhabited

namespace Filter

def isEmpty (filter : Filter) : Bool :=
  filter.propFilters.isEmpty

inductive Level
  | root
  | property
  | parameter
deriving DecidableEq, Repr

namespace Level

def allowsPropFilters : Level → Bool
  | root => true
  | _ => false

def allowsParamFilters : Level → Bool
  | property => true
  | _ => false

/-- Text-matches and is-not-defined constrain a named node, and the root has no
name. -/
def allowsPredicates : Level → Bool
  | root => false
  | _ => true

end Level

inductive Node
  | root (filter : Filter)
  | property (propFilter : PropFilter)
  | parameter (paramFilter : ParamFilter)
deriving DecidableEq, Repr

namespace Node

def name : Node → String
  | root _ => ""
  | property p => p.name
  | parameter p => p.name

def level : Node → Level
  | root _ => .root
  | property _ => .property
  | parameter _ => .parameter

end Node
end Filter
end AddressBook

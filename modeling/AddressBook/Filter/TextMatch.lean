import AddressBook.Filter.Collation
import AddressBook.Filter.MatchType

/-!
# Text-matches

A text-match tests the values of the property or parameter that encloses it.
Over several values the pattern is looked for in any of them and the negation
applies to that outcome, so a negated text-match accepts only values that all
lack the pattern.
-/

namespace AddressBook

/-- A text predicate; `enclosing` names the property or parameter whose values
it tests. -/
structure TextMatch where
  pattern : String
  negate : Bool
  collation : Collation
  matchType : MatchType
  enclosing : String
deriving DecidableEq, Repr

namespace TextMatch

def ofPattern (enclosing pattern : String) (negate : Bool) : TextMatch where
  pattern := pattern
  negate := negate
  collation := default
  matchType := default
  enclosing := enclosing

/-- Whether the pattern is found in a value, negation aside. -/
def finds (t : TextMatch) (value : String) : Bool :=
  t.matchType.test (t.collation.fold value) (t.collation.fold t.pattern)

def accepts (t : TextMatch) (value : String) : Bool :=
  t.finds value != t.negate

def acceptsAny (t : TextMatch) (values : List String) : Bool :=
  values.any t.finds != t.negate

end TextMatch
end AddressBook

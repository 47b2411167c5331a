import AddressBook.Text.Search

/-!
# Match types

How the pattern of a text-match has to lie in a value, once both have been
folded.
-/

namespace AddressBook

inductive MatchType
  | equals
  | contains
  | startsWith
  | endsWith
deriving DecidableEq, Repr

namespace MatchType

instance : Inhabited MatchType := ⟨contains⟩

def name : MatchType → String
  | equals => "equals"
  | contains => "contains"
  | startsWith => "starts-with"
  | endsWith => "ends-with"

def ofName? (name : String) : Option MatchType :=
  [equals, contains, startsWith, endsWith].find? (·.name == name)

def test : MatchType → (value pattern : String) → Bool
  | equals => (· == ·)
  | contains => Text.contains
  | startsWith => Text.startsWith
  | endsWith => Text.endsWith

theorem ofName?_name (matchType : MatchType) :
    ofName? matchType.name = some matchType := by
  cases matchType <;> decide

end MatchType
end AddressBook

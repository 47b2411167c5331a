import AddressBook.Text.Case

/-!
# Collations

The collations a text-match may ask for.  A collation compares two texts by
folding both and comparing the results character by character; `fold_append`
lets a match inside a text be found piece by piece.
-/

namespace AddressBook

inductive Collation
  | asciiCasemap
  | unicodeCasemap
  | octet
deriving DecidableEq, Repr

namespace Collation

instance : Inhabited Collation := ⟨asciiCasemap⟩

def name : Collation → String
  | asciiCasemap => "i;ascii-casemap"
  | unicodeCasemap => "i;unicode-casemap"
  | octet => "i;octet"

def ofName? (name : String) : Option Collation :=
  [asciiCasemap, unicodeCasemap, octet].find? (·.name == name)

def fold : Collation → String → String
  | asciiCasemap => Text.asciiLower
  | unicodeCasemap => Text.fold
  | octet => id

theorem ofName?_name (collation : Collation) :
    ofName? collation.name = some collation := by
  cases collation <;> decide

theorem fold_empty (collation : Collation) : collation.fold "" = "" := by
  cases collation <;> rfl

theorem fold_append (collation : Collation) (s t : String) :
    collation.fold (s ++ t) = collation.fold s ++ collation.fold t := by
  cases collation
  · exact Text.asciiLower_append s t
  · exact Text.fold_append s t
  · rfl

end Collation
end AddressBook

import AddressBook.Contact.Basic
import AddressBook.Data.Distinct
import AddressBook.Filter.Basic

/-!
# Combining results

The union or the intersection of lists of address objects, by the number of
their contact.  Each contact appears once, where it is first seen.
-/

namespace AddressBook

def Filter.Test.combine :
    Filter.Test → List (List AddressObject) → List AddressObject
  | anyOf, lists => keepFirst AddressObject.id lists.flatten
  | allOf, [] => []
  | allOf, first :: rest =>
    keepFirst AddressObject.id
      (first.filter fun object => rest.all fun list =>
        list.any (·.id == object.id))

end AddressBook

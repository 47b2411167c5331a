import AddressBook.Data.Dictionary
import AddressBook.Text.Case

/-!
# Contacts

A contact of a mailbox: its identity, the folder it lies in, and its attributes
by key.  A stored blank value counts as no value (`Record.value?`), so a record
is read alike whether its blanks are stored or left out.
-/

namespace AddressBook

abbrev Attributes := Dictionary String

class Record (ρ : Type) where
  value? : ρ → String → Option String

instance : Record Attributes where
  value? attributes key := (attributes.get? key).filter (· ≠ "")

structure Contact where
  id : UInt32
  folder : UInt32
  attributes : Attributes
deriving DecidableEq, Repr

instance : Record Contact where
  value? contact key := Record.value? contact.attributes key

namespace Contact

def ofId (id folder : UInt32) : Contact := ⟨id, folder, .empty⟩

/-- Sets an attribute, or removes it when the value is blank. -/
def set (contact : Contact) (key value : String) : Contact :=
  if value = "" then { contact with attributes := contact.attributes.erase key }
  else { contact with attributes := contact.attributes.insert key value }

/-- The name a contact is ordered by: its full name or else its first e-mail
address. -/
def sortName (contact : Contact) : String :=
  Text.lower
    (((Record.value? contact "fullName").or
      (Record.value? contact "email")).getD "")

def withoutBlanks (contact : Contact) : Contact :=
  { contact with attributes := contact.attributes.filterValues (· ≠ "") }

end Contact

/-- A matched contact as it is handed out: a resource of the address-book
collection. -/
structure AddressObject where
  contact : Contact
deriving DecidableEq, Repr

namespace AddressObject

def id (object : AddressObject) : UInt32 := object.contact.id

def href (object : AddressObject) : String :=
  toString object.id.toNat ++ ".vcf"

end AddressObject
end AddressBook

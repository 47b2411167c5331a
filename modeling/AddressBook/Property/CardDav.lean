import AddressBook.Property.Table

/-!
# The CardDAV property table

The mapping of the common vCard properties onto the attribute keys of mailbox
contacts.
-/

namespace AddressBook
namespace PropertyTable

def cardDav : PropertyTable :=
  ofRegistrations
    [.simple "FN" "fullName",
     .simple "NICKNAME" "nickname",
     .simple "TITLE" "jobTitle",
     .simple "NOTE" "notes",
     .subtype "ADR" "home" ["homeStreet"],
     .subtype "ADR" "work" ["workStreet"],
     .subtype "URL" "home" ["homeURL"],
     .subtype "URL" "work" ["workURL"],
     .subtype "TEL" "car" ["carPhone"],
     .subtype "TEL" "cell" ["mobilePhone"],
     .subtype "TEL" "pager" ["pager"],
     .subtype "TEL" "other" ["otherPhone"],
     .subtype "TEL" "work" ["workPhone", "workPhone2"],
     .subtype "TEL" "home" ["homePhone", "homePhone2"],
     .subtype "TEL" "fax" ["homeFax", "workFax"],
     .subtype "EMAIL" "internet" ["email", "email2", "email3"],
     .subtype "ORG" "work" ["company", "department"]]

end PropertyTable
end AddressBook

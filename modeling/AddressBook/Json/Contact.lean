import AddressBook.Contact.Basic
import AddressBook.Json.Value

/-!
# Contacts in JSON

Attributes are read as they are stored, blank ones included.
-/

namespace AddressBook

instance : JsonForm Attributes where
  toJson attributes :=
    .object (attributes.entries.map fun entry => (entry.1, toJson entry.2))
  ofJson?
    | .object fields =>
      (fields.mapM fun field => (ofJson? field.2).map (field.1, ·)).map
        Dictionary.ofList
    | _ => none

instance : JsonForm Contact where
  toJson contact :=
    .object
      [("id", toJson contact.id), ("folder", toJson contact.folder),
       ("attrs", toJson contact.attributes)]
  ofJson? json := do
    let fields ← json.structure? ["id", "folder", "attrs"]
    return {
      id := ← Json.required? fields "id"
      folder := ← Json.required? fields "folder"
      attributes := ← Json.required? fields "attrs" }

instance : JsonForm AddressObject where
  toJson object := .object [("contact", toJson object.contact)]
  ofJson? json := do
    let fields ← json.structure? ["contact"]
    return { contact := ← Json.required? fields "contact" }

end AddressBook

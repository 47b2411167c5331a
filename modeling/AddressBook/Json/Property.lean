import AddressBook.Json.Value
import AddressBook.Property.Table

/-!
# Property tables in JSON

A table is stored as an object of mappings by property name.  Reading one
registers its mappings anew, so that names are normalized and what cannot be
registered is left out.
-/

namespace AddressBook

instance : JsonForm SubtypeKeys where
  toJson s := .object [("subtype", toJson s.subtype), ("attrs", toJson s.keys)]
  ofJson? json := do
    let fields ← json.structure? ["subtype", "attrs"]
    return {
      subtype := ← Json.required? fields "subtype"
      keys := ← Json.required? fields "attrs" }

instance : JsonForm Mapping where
  toJson
    | .simple key => .object [("Simple", toJson key)]
    | .structured subtypes => .object [("Structured", toJson subtypes)]
  ofJson? json :=
    match json.caseOf? with
    | some ("Simple", content) => (ofJson? content).map .simple
    | some ("Structured", content) => (ofJson? content).map .structured
    | _ => none

namespace PropertyTable

def entriesOfJson? : Json → Option (List (String × Mapping))
  | .object fields =>
    fields.mapM fun field => (ofJson? field.2).map (field.1, ·)
  | _ => none

end PropertyTable

instance : JsonForm PropertyTable where
  toJson table :=
    .object
      [("mappings",
        .object (table.toEntries.map fun entry => (entry.1, toJson entry.2)))]
  ofJson? json := do
    let fields ← json.structure? ["mappings"]
    let entries ← (Json.field? fields "mappings").bind
      PropertyTable.entriesOfJson?
    return PropertyTable.ofEntries entries

end AddressBook

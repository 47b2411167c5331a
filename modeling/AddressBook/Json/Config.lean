import AddressBook.Evaluation.Basic
import AddressBook.Json.Value

/-!
# Configurations in JSON

Every field of a configuration may be left out and then has its default value.
-/

namespace AddressBook

instance : JsonForm SortOrder where
  toJson
    | .nameAscending => .text "NameAscending"
    | .nameDescending => .text "NameDescending"
    | .unsorted => .text "Unsorted"
  ofJson? json :=
    match json.plainCase? with
    | some "NameAscending" => some .nameAscending
    | some "NameDescending" => some .nameDescending
    | some "Unsorted" => some .unsorted
    | _ => none

instance : JsonForm ItemType where
  toJson
    | .contact => .text "Contact"
    | .message => .text "Message"
    | .appointment => .text "Appointment"
  ofJson? json :=
    match json.plainCase? with
    | some "Contact" => some .contact
    | some "Message" => some .message
    | some "Appointment" => some .appointment
    | _ => none

instance : JsonForm Config where
  toJson config :=
    .object
      [("max_results", .whole config.maxResults), ("sort", toJson config.sort),
       ("target_types", toJson config.targetTypes)]
  ofJson? json := do
    let fields ← json.partialStructure? ["max_results", "sort", "target_types"]
    let maxResults ←
      match Json.field? fields "max_results" with
      | none => some (default : Config).maxResults
      | some count => count.count?
    return {
      maxResults := maxResults
      sort := ← Json.requiredOr? (default : Config).sort fields "sort"
      targetTypes :=
        ← Json.requiredOr? (default : Config).targetTypes fields
          "target_types" }

instance : JsonForm OperationContext where
  toJson operation := .object [("account", toJson operation.account)]
  ofJson? json := do
    let fields ← json.structure? ["account"]
    return { account := ← Json.required? fields "account" }

end AddressBook

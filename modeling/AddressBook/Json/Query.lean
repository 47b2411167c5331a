import AddressBook.Json.Value
import AddressBook.Query.Basic

/-!
# Queries in JSON
-/

namespace AddressBook

instance : JsonForm QueryTerm where
  toJson term :=
    .object [("key", toJson term.key), ("pattern", toJson term.pattern)]
  ofJson? json := do
    let fields ← json.structure? ["key", "pattern"]
    return {
      key := ← Json.required? fields "key"
      pattern := ← Json.required? fields "pattern" }

instance : JsonForm Query where
  toJson query :=
    .object [("negated", toJson query.negated), ("terms", toJson query.terms)]
  ofJson? json := do
    let fields ← json.structure? ["negated", "terms"]
    return {
      negated := ← Json.required? fields "negated"
      terms := ← Json.required? fields "terms" }

end AddressBook

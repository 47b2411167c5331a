import AddressBook.Filter.Basic
import AddressBook.Json.Value

/-!
# Filters in JSON

The JSON forms of the predicate tree and of the names that occur in it.
-/

namespace AddressBook

instance : JsonForm Collation where
  toJson
    | .asciiCasemap => .text "AsciiCasemap"
    | .unicodeCasemap => .text "UnicodeCasemap"
    | .octet => .text "Octet"
  ofJson? json :=
    match json.plainCase? with
    | some "AsciiCasemap" => some .asciiCasemap
    | some "UnicodeCasemap" => some .unicodeCasemap
    | some "Octet" => some .octet
    | _ => none

instance : JsonForm MatchType where
  toJson
    | .equals => .text "Equals"
    | .contains => .text "Contains"
    | .startsWith => .text "StartsWith"
    | .endsWith => .text "EndsWith"
  ofJson? json :=
    match json.plainCase? with
    | some "Equals" => some .equals
    | some "Contains" => some .contains
    | some "StartsWith" => some .startsWith
    | some "EndsWith" => some .endsWith
    | _ => none

instance : JsonForm Filter.Test where
  toJson
    | .anyOf => .text "AnyOf"
    | .allOf => .text "AllOf"
  ofJson? json :=
    match json.plainCase? with
    | some "AnyOf" => some .anyOf
    | some "AllOf" => some .allOf
    | _ => none

instance : JsonForm Filter.Level where
  toJson
    | .root => .text "Root"
    | .property => .text "Property"
    | .parameter => .text "Parameter"
  ofJson? json :=
    match json.plainCase? with
    | some "Root" => some .root
    | some "Property" => some .property
    | some "Parameter" => some .parameter
    | _ => none

instance : JsonForm TextMatch where
  toJson t :=
    .object
      [("pattern", toJson t.pattern), ("negate", toJson t.negate),
       ("collation", toJson t.collation), ("match_type", toJson t.matchType),
       ("enclosing", toJson t.enclosing)]
  ofJson? json := do
    let fields ← json.structure?
      ["pattern", "negate", "collation", "match_type", "enclosing"]
    return {
      pattern := ← Json.required? fields "pattern"
      negate := ← Json.required? fields "negate"
      collation := ← Json.required? fields "collation"
      matchType := ← Json.required? fields "match_type"
      enclosing := ← Json.required? fields "enclosing" }

instance : JsonForm ParamFilter where
  toJson p :=
    .object
      [("name", toJson p.name), ("is_not_defined", toJson p.isNotDefined),
       ("text_match", toJson p.textMatch)]
  ofJson? json := do
    let fields ← json.structure? ["name", "is_not_defined", "text_match"]
    return {
      name := ← Json.required? fields "name"
      isNotDefined := ← Json.required? fields "is_not_defined"
      textMatch := ← Json.optional? fields "text_match" }

instance : JsonForm PropFilter where
  toJson p :=
    .object
      [("name", toJson p.name), ("is_not_defined", toJson p.isNotDefined),
       ("text_match", toJson p.textMatch),
       ("param_filters", toJson p.paramFilters)]
  ofJson? json := do
    let fields ← json.structure?
      ["name", "is_not_defined", "text_match", "param_filters"]
    return {
      name := ← Json.required? fields "name"
      isNotDefined := ← Json.required? fields "is_not_defined"
      textMatch := ← Json.optional? fields "text_match"
      paramFilters := ← Json.required? fields "param_filters" }

instance : JsonForm Filter where
  toJson filter :=
    .object
      [("test", toJson filter.test),
        ("prop_filters", toJson filter.propFilters)]
  ofJson? json := do
    let fields ← json.structure? ["test", "prop_filters"]
    return {
      test := ← Json.required? fields "test"
      propFilters := ← Json.required? fields "prop_filters" }

instance : JsonForm Filter.Node where
  toJson
    | .root filter => .object [("Root", toJson filter)]
    | .property p => .object [("Property", toJson p)]
    | .parameter p => .object [("Parameter", toJson p)]
  ofJson? json :=
    match json.caseOf? with
    | some ("Root", content) => (ofJson? content).map .root
    | some ("Property", content) => (ofJson? content).map .property
    | some ("Parameter", content) => (ofJson? content).map .parameter
    | _ => none

end AddressBook

/-!
# JSON values

JSON as data, for the stored and exchanged forms of the library's types.  Whole
numbers are kept apart from numbers written with a fraction or an exponent,
because only the former are counts and identifiers.
-/

namespace AddressBook

inductive Json
  | null
  | bool (value : Bool)
  | whole (value : Int)
  /-- A number written with a fraction or an exponent, as written. -/
  | fractional (literal : String)
  | text (value : String)
  | list (items : List Json)
  | object (fields : List (String × Json))
deriving Repr, Inhabited

namespace Json

/-- The value of a field; of fields with one name the last counts. -/
def field? (fields : List (String × Json)) (name : String) : Option Json :=
  fields.reverse.lookup name

/-- The fields of a structure: those of an object, or the items of a list, which
stand for the named fields in order and have to be all of them. -/
def structure? (names : List String) : Json → Option (List (String × Json))
  | object fields => some fields
  | list items =>
    if items.length = names.length then some (names.zip items) else none
  | _ => none

/-- The fields of a structure whose fields may all be left out; of a list, the
last ones. -/
def partialStructure? (names : List String) :
    Json → Option (List (String × Json))
  | object fields => some fields
  | list items =>
    if items.length ≤ names.length then some (names.zip items) else none
  | _ => none

/-- The name of a plain case: a text, or an object that gives the case no
content. -/
def plainCase? : Json → Option String
  | text name => some name
  | object [(name, null)] => some name
  | _ => none

/-- The name and the content of a case: an object with one field. -/
def caseOf? : Json → Option (String × Json)
  | object [field] => some field
  | _ => none

def natBelow? (bound : Nat) : Json → Option Nat
  | whole value => if 0 ≤ value ∧ value < bound then some value.toNat else none
  | _ => none

def count? : Json → Option Nat :=
  natBelow? UInt64.size

end Json

/-- A type whose values have a form in JSON.  Reading refuses whatever is not
such a form. -/
class JsonForm (α : Type) where
  toJson : α → Json
  ofJson? : Json → Option α

export JsonForm (toJson ofJson?)

instance : JsonForm Bool where
  toJson := .bool
  ofJson?
    | .bool value => some value
    | _ => none

instance : JsonForm String where
  toJson := .text
  ofJson?
    | .text value => some value
    | _ => none

instance : JsonForm UInt32 where
  toJson id := .whole id.toNat
  ofJson? json := (json.natBelow? UInt32.size).map UInt32.ofNat

instance {α : Type} [JsonForm α] : JsonForm (List α) where
  toJson values := .list (values.map toJson)
  ofJson?
    | .list items => items.mapM ofJson?
    | _ => none

instance {α : Type} [JsonForm α] : JsonForm (Option α) where
  toJson
    | none => .null
    | some value => toJson value
  ofJson?
    | .null => some none
    | json => (ofJson? json).map some

namespace Json

variable {α : Type} [JsonForm α]

def required? (fields : List (String × Json)) (name : String) : Option α :=
  (field? fields name).bind ofJson?

/-- Reads a field for which a missing one stands like `null`. -/
def optional? (fields : List (String × Json)) (name : String) :
    Option (Option α) :=
  ofJson? ((field? fields name).getD null)

/-- Reads a field, or gives the default where it is missing. -/
def requiredOr? (default : α) (fields : List (String × Json)) (name : String) :
    Option α :=
  match field? fields name with
  | none => some default
  | some json => ofJson? json

end Json
end AddressBook

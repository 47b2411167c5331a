import AddressBook.Filter.Collation
import AddressBook.Mailbox.Basic

/-!
# Events

What reading and evaluating a filter report on the side: which parts of a
document were ignored, how each search ended, what a mailbox failed to do.  An
event is its cause; severity, message and fields are read off it.
-/

namespace AddressBook

inductive Severity
  | debug
  | info
  | warn
deriving DecidableEq, Repr

inductive Event
  /-- A prop-filter names a property that has no mapping. -/
  | unmappedPropFilter (property : String)
  | unsupportedCollation (name : String)
  | unsupportedMatchType (name : String)
  /-- An element is not one its parent may have, and is ignored. -/
  | ignoredElement (uri element : String)
  /-- A text-match searches a property that has no mapping, so nothing can match
  it. -/
  | unmappedTextMatch (property : String)
  | noMailbox (user : String)
  | searched (query : Query) (folder : UInt32) (hits : Nat)
  | searchFailed (error : BackendError) (query : Query)
  | listingFailed (error : BackendError) (folder : UInt32)
  | releaseFailed (error : BackendError)
deriving DecidableEq, Repr

inductive FieldValue
  | text (value : String)
  | number (value : Nat)
deriving DecidableEq, Repr

namespace Event

def severity : Event → Severity
  | unmappedPropFilter _ => .debug
  | unsupportedCollation _ => .info
  | unsupportedMatchType _ => .info
  | ignoredElement _ _ => .info
  | unmappedTextMatch _ => .debug
  | noMailbox _ => .debug
  | searched _ _ _ => .debug
  | searchFailed _ _ => .warn
  | listingFailed _ _ => .warn
  | releaseFailed _ => .debug

def message : Event → String
  | unmappedPropFilter _ => "prop-filter has no attribute mapping"
  | unsupportedCollation _ =>
    "unsupported collation, using " ++ Collation.name default
  | unsupportedMatchType _ => "unsupported match-type, using contains"
  | ignoredElement _ _ => "unrecognized filter"
  | unmappedTextMatch _ => "no attribute mapping, filter never matches"
  | noMailbox _ => "can't get target mailbox"
  | searched _ _ _ => "search filter"
  | searchFailed _ _ => "can't search target mailbox"
  | listingFailed _ _ => "can't list address book contacts"
  | releaseFailed _ => "can't release search results"

def fields : Event → List (String × FieldValue)
  | unmappedPropFilter property => [("property", .text property)]
  | unsupportedCollation name => [("collation", .text name)]
  | unsupportedMatchType name => [("match_type", .text name)]
  | ignoredElement uri element =>
    [("namespace", .text uri), ("element", .text element)]
  | unmappedTextMatch property => [("property", .text property)]
  | noMailbox user => [("user", .text user)]
  | searched query folder hits =>
    [("query", .text query.render), ("folder", .number folder.toNat),
      ("hits", .number hits)]
  | searchFailed error query =>
    [("error", .text error.message), ("query", .text query.render)]
  | listingFailed error folder =>
    [("error", .text error.message), ("folder", .number folder.toNat)]
  | releaseFailed error => [("error", .text error.message)]

end Event
end AddressBook

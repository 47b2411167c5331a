import AddressBook.Data.Traced
import AddressBook.Event
import AddressBook.Filter.Basic
import AddressBook.Property.Table
import AddressBook.Xml.Tree

/-!
# Reading filters from XML

A filter element holds prop-filters, a prop-filter holds param-filters,
text-matches and is-not-defined, a param-filter the last two.  A child element
that its parent may not have is ignored and reported; what else stands there is
ignored in silence.  Of several text-matches the last one counts.  A text-match
is bound to the name of the node it is read under.
-/

namespace AddressBook

def cardDavUri : String := "urn:ietf:params:xml:ns:carddav"

namespace Xml.Element

def isCardDav (e : Element) (localName : String) : Bool :=
  e.tag.name == ⟨some cardDavUri, localName⟩

def ignored (e : Element) : Event :=
  .ignoredElement (e.tag.name.uri.getD "") e.tag.name.localName

end Xml.Element

open Xml (Element Document)

/-- A supported value of an attribute, or the default and a report. -/
def supportedOr {α : Type} [Inhabited α] (ofName? : String → Option α)
    (report : String → Event) : Option String → Traced Event α
  | none => ⟨default, []⟩
  | some name =>
    match ofName? name with
    | some value => ⟨value, []⟩
    | none => ⟨default, [report name]⟩

def TextMatch.ofElement (enclosing : String) (e : Element) :
    Traced Event TextMatch :=
  let collation :=
    supportedOr Collation.ofName? .unsupportedCollation
      (e.tag.attribute? "collation")
  let matchType :=
    supportedOr MatchType.ofName? .unsupportedMatchType
      (e.tag.attribute? "match-type")
  ⟨{ pattern := e.directText
     negate := e.tag.attribute? "negate-condition" == some "yes"
     collation := collation.value
     matchType := matchType.value
     enclosing := enclosing },
    collation.trace ++ matchType.trace⟩

/-- What a child element says about the node it stands in. -/
inductive Clause
  | propFilter (p : PropFilter)
  | paramFilter (p : ParamFilter)
  | textMatch (t : TextMatch)
  | isNotDefined
  | ignored
deriving DecidableEq, Repr

namespace Clause

def propFilter? : Clause → Option PropFilter
  | propFilter p => some p
  | _ => none

def paramFilter? : Clause → Option ParamFilter
  | paramFilter p => some p
  | _ => none

def textMatch? : Clause → Option TextMatch
  | textMatch t => some t
  | _ => none

def predicate (name : String) (e : Element) : Traced Event Clause :=
  if e.isCardDav "text-match" then (TextMatch.ofElement name e).map textMatch
  else if e.isCardDav "is-not-defined" then ⟨isNotDefined, []⟩
  else ⟨ignored, [e.ignored]⟩

end Clause

/-- The name attribute of an element; blank when there is none. -/
def Xml.Element.nodeName (e : Element) : String :=
  (e.tag.attribute? "name").getD ""

namespace ParamFilter

def ofClauses (name : String) (clauses : List Clause) : ParamFilter where
  name := name
  isNotDefined := clauses.contains .isNotDefined
  textMatch := (clauses.filterMap Clause.textMatch?).getLast?

def ofElement (e : Element) : Traced Event ParamFilter :=
  (Traced.collect (e.childElements.map (Clause.predicate e.nodeName))).map
    (ofClauses e.nodeName)

end ParamFilter

namespace PropFilter

def ofClauses (name : String) (clauses : List Clause) : PropFilter where
  name := name
  isNotDefined := clauses.contains .isNotDefined
  textMatch := (clauses.filterMap Clause.textMatch?).getLast?
  paramFilters := clauses.filterMap Clause.paramFilter?

def clause (name : String) (e : Element) : Traced Event Clause :=
  if e.isCardDav "param-filter" then (ParamFilter.ofElement e).map .paramFilter
  else Clause.predicate name e

def ofElement (table : PropertyTable) (e : Element) : Traced Event PropFilter :=
  let name := e.nodeName
  let clauses := Traced.collect (e.childElements.map (clause name))
  ⟨ofClauses name clauses.value,
    (if (table.lookup name).isNone then [.unmappedPropFilter name] else []) ++
      clauses.trace⟩

end PropFilter

namespace Filter

def Test.ofAttribute : Option String → Test
  | some "allof" => allOf
  | _ => anyOf

def clause (table : PropertyTable) (e : Element) : Traced Event Clause :=
  if e.isCardDav "prop-filter" then
    (PropFilter.ofElement table e).map .propFilter
  else ⟨.ignored, [e.ignored]⟩

def ofElement (table : PropertyTable) (e : Element) : Traced Event Filter :=
  (Traced.collect (e.childElements.map (clause table))).map fun clauses =>
    { test := .ofAttribute (e.tag.attribute? "test")
      propFilters := clauses.filterMap Clause.propFilter? }

/-- Reads an element as a node of the given level, whatever its name. -/
def Node.ofElement (table : PropertyTable) (e : Element) :
    Level → Traced Event Node
  | .root => (Filter.ofElement table e).map .root
  | .property => (PropFilter.ofElement table e).map .property
  | .parameter => (ParamFilter.ofElement e).map .parameter

/-- Reads the first filter element of a document, if there is one. -/
def ofDocument? (table : PropertyTable) (document : Document) :
    Option (Traced Event Filter) :=
  (document.root.elements.find? (·.isCardDav "filter")).map (ofElement table)

end Filter
end AddressBook

import AddressBook.Xml.Reference
import AddressBook.Xml.Token

/-!
# Namespaces of XML

The attributes of a tag declare namespaces for its element or belong to it.  A
scope lists the declarations in force, the nearest first; names are resolved
through it.  A tag is rejected when it binds one of the reserved names or
namespaces wrongly, declares a qualifier twice, uses a qualifier that is not
declared, or has two attributes of one expanded name.
-/

namespace AddressBook
namespace Xml

def xmlUri : String := "http://www.w3.org/XML/1998/namespace"

def xmlnsUri : String := "http://www.w3.org/2000/xmlns/"

structure ExpandedName where
  uri : Option String
  localName : String
deriving DecidableEq, Repr

structure Attribute where
  name : ExpandedName
  value : String
deriving DecidableEq, Repr

/-- The declarations in force, the nearest first.  The default namespace has no
qualifier. -/
abbrev Scope := List (Option String × String)

/-- What the attributes of a tag amount to: the namespaces it declares and its
other attributes. -/
structure Declared where
  scope : Scope
  attributes : List (QName × String)
deriving DecidableEq, Repr

namespace Declared

def declareQualifier? (declared : Declared) (qualifier uri : String) :
    Option Declared :=
  if uri = xmlnsUri then none
  else if (qualifier == "xml") != (uri == xmlUri) then none
  else if declared.scope.any (·.1 == some qualifier) then none
  else if uri = xmlUri then some declared
  else some { declared with scope := declared.scope ++ [(some qualifier, uri)] }

def declareDefault? (declared : Declared) (uri : String) : Option Declared :=
  if uri = xmlUri ∨ uri = xmlnsUri then none
  else some { declared with scope := declared.scope ++ [(none, uri)] }

def add? (declared : Declared) (item : RawAttribute) : Option Declared :=
  (attributeValue? item.value).bind fun value =>
    if item.name.qualifier = "xmlns" then
      declared.declareQualifier? item.name.localName value
    else if item.name.localName = "xmlns" then declared.declareDefault? value
    else
      some { declared with
        attributes := declared.attributes ++ [(item.name, value)] }

def ofAttributes? (items : List RawAttribute) : Option Declared :=
  items.foldlM add? ⟨[], []⟩

end Declared

namespace Scope

/-- The namespace of a name, unless its qualifier is not declared.  A name
without qualifier is in the default namespace if there is one. -/
def resolve? (scope : Scope) (name : QName) : Option ExpandedName :=
  if name.qualifier = "" then some ⟨scope.lookup none, name.localName⟩
  else (scope.lookup (some name.qualifier)).map fun uri =>
    ⟨some uri, name.localName⟩

/-- The namespace of the name of an attribute.  The default namespace does not
apply to it, and the qualifier `xml` is declared everywhere. -/
def resolveAttribute? (scope : Scope) (name : QName) : Option ExpandedName :=
  if name.qualifier = "" then some ⟨none, name.localName⟩
  else if name.qualifier = "xml" then some ⟨some xmlUri, name.localName⟩
  else scope.resolve? name

end Scope

structure Tag where
  name : ExpandedName
  attributes : List Attribute
deriving DecidableEq, Repr

namespace Tag

/-- Resolves a tag inside a scope; gives the scope of what the element contains
as well. -/
def resolve? (outer : Scope) (name : QName) (items : List RawAttribute) :
    Option (Tag × Scope) := do
  let declared ← Declared.ofAttributes? items
  let scope := declared.scope ++ outer
  let attributes ← declared.attributes.mapM fun (attributeName, value) =>
    (scope.resolveAttribute? attributeName).map (Attribute.mk · value)
  let expanded ← scope.resolve? name
  if name.qualifier ≠ "xmlns" ∧ (attributes.map (·.name)).Nodup then
    some (⟨expanded, attributes⟩, scope)
  else none

def attribute? (tag : Tag) (localName : String) : Option String :=
  (tag.attributes.find? (·.name == ⟨none, localName⟩)).map (·.value)

end Tag
end Xml
end AddressBook

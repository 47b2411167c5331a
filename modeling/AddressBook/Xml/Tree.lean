import AddressBook.Xml.Namespace

/-!
# Documents of XML as trees

A document is its root element.  Its tags pair up: each closing tag ends the
element that was opened last and not closed since, by the name as it was
written.  Outside the root element there is nothing but white space, comments
and processing instructions; documents that declare a document type are not
read.
-/

namespace AddressBook
namespace Xml

inductive Node
  | element (tag : Tag) (children : List Node)
  | text (content : String)
  | comment (content : String)
  | instruction (target content : String)

structure Element where
  tag : Tag
  children : List Node

structure Document where
  root : Element

namespace Node

def element? : Node → Option Element
  | element tag children => some ⟨tag, children⟩
  | _ => none

def text? : Node → Option String
  | text content => some content
  | _ => none

mutual

def elements : Node → List Element
  | element tag children => ⟨tag, children⟩ :: elementsOfList children
  | text _ => []
  | comment _ => []
  | instruction _ _ => []

def elementsOfList : List Node → List Element
  | [] => []
  | node :: rest => elements node ++ elementsOfList rest

end

end Node

namespace Element

def childElements (e : Element) : List Element :=
  e.children.filterMap Node.element?

def directText (e : Element) : String :=
  String.join (e.children.filterMap Node.text?)

/-- The element and all those inside it, in document order. -/
def elements (e : Element) : List Element :=
  (Node.element e.tag e.children).elements

end Element

/-- An element whose closing tag has not been read, with its children so far,
the last one first. -/
structure OpenElement where
  name : QName
  tag : Tag
  scope : Scope
  children : List Node

/-- What has been read of a document: the open elements, the innermost first,
and the root element once it is closed. -/
structure Reading where
  opened : List OpenElement
  root : Option Element

namespace Reading

def start : Reading := ⟨[], none⟩

def scope (reading : Reading) : Scope :=
  match reading.opened with
  | [] => []
  | innermost :: _ => innermost.scope

/-- Adds a node to the innermost open element; there has to be one. -/
def add? (reading : Reading) (node : Node) : Option Reading :=
  match reading.opened with
  | [] => none
  | innermost :: outer =>
    some { reading with
      opened :=
        { innermost with children := node :: innermost.children } :: outer }

def addAnywhere (reading : Reading) (node : Node) : Reading :=
  (reading.add? node).getD reading

def addElement? (reading : Reading) (e : Element) : Option Reading :=
  match reading.opened, reading.root with
  | [], none => some { reading with root := some e }
  | [], some _ => none
  | _ :: _, _ => reading.add? (.element e.tag e.children)

def step? (reading : Reading) : Token → Option Reading
  | .openTag name items isEmpty =>
    if reading.opened.isEmpty && reading.root.isSome then none
    else
      (Tag.resolve? reading.scope name items).bind fun (tag, scope) =>
        if isEmpty then reading.addElement? ⟨tag, []⟩
        else
          some { reading with
            opened := ⟨name, tag, scope, []⟩ :: reading.opened }
  | .closeTag name =>
    match reading.opened with
    | [] => none
    | innermost :: outer =>
      if innermost.name = name then
        { reading with opened := outer }.addElement?
          ⟨innermost.tag, innermost.children.reverse⟩
      else none
  | .text raw =>
    if reading.opened.isEmpty then
      if raw.all isSpace then some reading else none
    else (textOf? raw).bind fun content => reading.add? (.text content)
  | .characterData raw => reading.add? (.text (characterData raw))
  | .comment body => some (reading.addAnywhere (.comment (String.ofList body)))
  | .instruction target content =>
    some (reading.addAnywhere
      (.instruction (String.ofList target) (String.ofList content)))

def document? (reading : Reading) : Option Document :=
  match reading.opened with
  | [] => reading.root.map Document.mk
  | _ :: _ => none

end Reading

namespace Document

def ofTokens? (tokens : List Token) : Option Document :=
  (tokens.foldlM Reading.step? .start).bind Reading.document?

def declarationItem? (name cs : List Char) : Option (List Char) :=
  if name.isPrefixOf cs then (RawAttribute.lex? cs).map (·.2) else none

/-- Skips the white space after an item of a declaration; there has to be some,
unless the declaration ends. -/
def afterItem? (cs : List Char) : Option (List Char) :=
  if cs.head?.any isSpace || ['?', '>'].isPrefixOf cs then some (skipSpaces cs)
  else none

def optionalItem? (name cs : List Char) : Option (List Char) :=
  if name.isPrefixOf cs then declarationItem? name cs else some cs

/-- Skips an XML declaration after its first word: it has a version, and may
have an encoding and tell whether the document stands alone. -/
def skipDeclaration? (cs : List Char) : Option (List Char) := do
  let cs ← declarationItem? "version".toList (skipSpaces cs)
  let cs ← afterItem? cs
  let cs ←
    if "encoding".toList.isPrefixOf cs then
      (declarationItem? "encoding".toList cs).bind afterItem?
    else some cs
  let cs ← optionalItem? "standalone".toList cs
  let cs ← expect? '?' (skipSpaces cs)
  expect? '>' cs

/-- Skips what may precede the first token: a byte order mark and an XML
declaration. -/
def skipPreamble? (cs : List Char) : Option (List Char) :=
  let cs := if cs.head? = some '\uFEFF' then cs.tail else cs
  match cs with
  | '<' :: '?' :: 'x' :: 'm' :: 'l' :: ' ' :: rest => skipDeclaration? rest
  | _ => some cs

def parse? (source : String) : Option Document :=
  (skipPreamble? source.toList).bind fun cs =>
    (Token.scan? cs).bind ofTokens?

end Document
end Xml
end AddressBook

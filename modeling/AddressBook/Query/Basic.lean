import AddressBook.Unicode.WhiteSpace

/-!
# Search queries

A query asks a mailbox for the contacts that hold some pattern under some key,
or, negated, for the others.  Its text is what a mailbox search engine reads:
terms joined by `OR` between parentheses, with patterns quoted wherever their
end could be mistaken.
-/

namespace AddressBook

structure QueryTerm where
  key : String
  pattern : String
deriving DecidableEq, Repr

structure Query where
  negated : Bool
  terms : List QueryTerm
deriving DecidableEq, Repr

namespace QueryTerm

def breaksPattern (c : Char) : Bool :=
  Unicode.isWhiteSpace c || c == '(' || c == ')' || c == '"' || c == '\\'

def needsQuotes (pattern : List Char) : Bool :=
  pattern.isEmpty || pattern.any breaksPattern

/-- Puts a backslash before every quote and every backslash. -/
def escape : List Char → List Char
  | [] => []
  | c :: rest =>
    if c = '"' ∨ c = '\\' then '\\' :: c :: escape rest else c :: escape rest

def patternText (pattern : List Char) : List Char :=
  if needsQuotes pattern then '"' :: escape pattern ++ ['"'] else pattern

def text (term : QueryTerm) : List Char :=
  '#' :: term.key.toList ++ ':' :: patternText term.pattern.toList

def render (term : QueryTerm) : String :=
  String.ofList term.text

end QueryTerm

namespace Query

def keys (query : Query) : List String :=
  query.terms.map (·.key)

/-- The query for the contacts that this one leaves out. -/
def complement (query : Query) : Query :=
  { query with negated := !query.negated }

def text (query : Query) : List Char :=
  (if query.negated then ['!'] else []) ++
    '(' :: [' ', 'O', 'R', ' '].intercalate (query.terms.map QueryTerm.text) ++
      [')']

def render (query : Query) : String :=
  String.ofList query.text

@[simp] theorem complement_complement (query : Query) :
    query.complement.complement = query := by
  simp [complement]

end Query
end AddressBook

import AddressBook.Xml.Character

/-!
# References and line ends

What the raw text between tags and the raw values of attributes stand for.
References are replaced by their characters: those written by code point and the
five predefined names.  Line ends that are written out are normalized;
characters that come from references stay as they are.
-/

namespace AddressBook
namespace Xml

/-- A character of raw text: written out, or meant by a reference. -/
inductive Piece
  | written (c : Char)
  | referenced (c : Char)
deriving DecidableEq, Repr

def decimalDigit? (c : Char) : Option Nat :=
  if '0' ≤ c ∧ c ≤ '9' then some (c.toNat - 48) else none

def hexDigit? (c : Char) : Option Nat :=
  if '0' ≤ c ∧ c ≤ '9' then some (c.toNat - 48)
  else if 'a' ≤ c ∧ c ≤ 'f' then some (c.toNat - 87)
  else if 'A' ≤ c ∧ c ≤ 'F' then some (c.toNat - 55)
  else none

/-- The number that digits write, in the given base. -/
def numeral? (base : Nat) (digit? : Char → Option Nat) (digits : List Char) :
    Option Nat :=
  match digits with
  | [] => none
  | _ => digits.foldlM (fun n c => (digit? c).map (base * n + ·)) 0

/-- The character of a code point, or the replacement character where a 32-bit
number is none. -/
def charOfCode? (code : Nat) : Option Char :=
  if UInt32.size ≤ code then none
  else
    let c := if code.isValidChar then Char.ofNat code else '\uFFFD'
    if isChar c then some c else none

def referenceTo? : List Char → Option Char
  | '#' :: 'x' :: digits => (numeral? 16 hexDigit? digits).bind charOfCode?
  | '#' :: digits => (numeral? 10 decimalDigit? digits).bind charOfCode?
  | ['q', 'u', 'o', 't'] => some '"'
  | ['a', 'm', 'p'] => some '&'
  | ['a', 'p', 'o', 's'] => some '\''
  | ['l', 't'] => some '<'
  | ['g', 't'] => some '>'
  | _ => none

/-- The pieces of raw text, unless it holds a reference that means no character.
Outside a reference `body` is `none`, inside it holds what was read since the
ampersand, backwards. -/
def piecesFrom? (body : Option (List Char)) : List Char → Option (List Piece)
  | [] => if body.isNone then some [] else none
  | c :: rest =>
    match body with
    | none =>
      if c = '&' then piecesFrom? (some []) rest
      else (piecesFrom? none rest).map (.written c :: ·)
    | some read =>
      if c = ';' then
        (referenceTo? read.reverse).bind fun meant =>
          (piecesFrom? none rest).map (.referenced meant :: ·)
      else piecesFrom? (some (c :: read)) rest

def pieces? (raw : List Char) : Option (List Piece) :=
  piecesFrom? none raw

/-- Turns every line end that is written out into a line feed: a carriage
return, alone or before a line feed.  A carriage return stays where a reference
follows it, or precedes it at the end of the text; `afterReference` tells what
precedes. -/
def normalizeLines (afterReference : Bool) : List Piece → List Char
  | [] => []
  | .referenced c :: rest => c :: normalizeLines true rest
  | [.written '\r'] => [if afterReference then '\r' else '\n']
  | .written '\r' :: .referenced c :: rest =>
    '\r' :: c :: normalizeLines true rest
  | .written '\r' :: .written '\n' :: rest => '\n' :: normalizeLines false rest
  | .written '\r' :: .written c :: rest =>
    '\n' :: normalizeLines false (.written c :: rest)
  | .written c :: rest => c :: normalizeLines false rest

def textOf? (raw : List Char) : Option String :=
  (pieces? raw).map fun pieces => String.ofList (normalizeLines false pieces)

/-- What a section of character data stands for: it holds no references. -/
def characterData (raw : List Char) : String :=
  String.ofList (normalizeLines false (raw.map .written))

/-- Turns every white-space character that is written out into a space, a
carriage return and the line feed after it into one. -/
def normalizeSpaces : List Piece → List Char
  | [] => []
  | .referenced c :: rest => c :: normalizeSpaces rest
  | .written '\r' :: .written '\n' :: rest => ' ' :: normalizeSpaces rest
  | .written c :: rest => (if isSpace c then ' ' else c) :: normalizeSpaces rest

def attributeValue? (raw : List Char) : Option String :=
  (pieces? raw).map fun pieces => String.ofList (normalizeSpaces pieces)

end Xml
end AddressBook

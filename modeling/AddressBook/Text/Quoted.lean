import AddressBook.Unicode.ExtendingMark
import AddressBook.Unicode.Printable

/-!
# Quoted text

Text between quotes, for people to read.  Quotes and backslashes are escaped,
and a character that would not show by itself is written by its code point.
-/

namespace AddressBook
namespace Text

def quotedChar (c : Char) : List Char :=
  if c = '"' then ['\\', '"']
  else if c = '\\' then ['\\', '\\']
  else if c = '\t' then ['\\', 't']
  else if c = '\n' then ['\\', 'n']
  else if c = '\r' then ['\\', 'r']
  else if c = '\x00' then ['\\', '0']
  else if Unicode.isExtendingMark c ∨ ¬ Unicode.isPrintable c then
    ['\\', 'u', '\x7b'] ++ Nat.toDigits 16 c.toNat ++ ['\x7d']
  else [c]

def quoted (s : String) : String :=
  String.ofList ('"' :: s.toList.flatMap quotedChar ++ ['"'])

end Text
end AddressBook

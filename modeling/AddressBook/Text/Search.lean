/-!
# Finding text in text

Containment, prefixes and suffixes of strings, character by character.  Each
test decides the relation of the same name on lists of characters: infix, prefix
and suffix.
-/

namespace AddressBook
namespace Text

/-- Whether the pattern occurs in the characters as one connected piece. -/
def occursIn (pattern : List Char) : List Char → Bool
  | [] => pattern.isEmpty
  | c :: rest => pattern.isPrefixOf (c :: rest) || occursIn pattern rest

def contains (value pattern : String) : Bool :=
  occursIn pattern.toList value.toList

def startsWith (value pattern : String) : Bool :=
  pattern.toList.isPrefixOf value.toList

def endsWith (value pattern : String) : Bool :=
  pattern.toList.isSuffixOf value.toList

theorem occursIn_iff {pattern cs : List Char} :
    occursIn pattern cs = true ↔ pattern <:+: cs := by
  induction cs with
  | nil => simp [occursIn, List.isEmpty_iff]
  | cons c rest ih =>
    simp [occursIn, ih, List.infix_cons_iff, List.isPrefixOf_iff_prefix]

theorem contains_iff {value pattern : String} :
    contains value pattern = true ↔ pattern.toList <:+: value.toList :=
  occursIn_iff

theorem startsWith_iff {value pattern : String} :
    startsWith value pattern = true ↔ pattern.toList <+: value.toList :=
  List.isPrefixOf_iff_prefix

theorem endsWith_iff {value pattern : String} :
    endsWith value pattern = true ↔ pattern.toList <:+ value.toList :=
  List.isSuffixOf_iff_suffix

end Text
end AddressBook

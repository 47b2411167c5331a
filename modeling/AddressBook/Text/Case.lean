import AddressBook.Unicode.Cased
import AddressBook.Unicode.Folding
import AddressBook.Unicode.Lowercase
import AddressBook.Unicode.Uppercase

/-!
# Changing the case of text

Upper-casing and folding treat each character on its own, so both distribute
over concatenation (`upper_append`, `fold_append`).  Lower-casing has one rule
that looks around: a capital sigma at the end of a word takes its final form.
On ASCII text the Unicode mappings are the ASCII ones (`lower_eq_asciiLower`,
`fold_eq_asciiLower`).
-/

namespace AddressBook
namespace Text

def IsAscii (s : String) : Prop := ∀ c ∈ s.toList, c.val < 128

instance (s : String) : Decidable (IsAscii s) :=
  List.decidableBAll (fun c : Char => c.val < 128) s.toList

def upperChar (c : Char) : List Char :=
  if c.val < 128 then [c.toUpper] else Unicode.uppercase.apply c

def upper (s : String) : String :=
  String.ofList (s.toList.flatMap upperChar)

def foldChar (c : Char) : List Char :=
  if c.val < 128 then [c.toLower] else Unicode.folding.apply c

/-- Full case folding: texts that differ in case only fold to one text. -/
def fold (s : String) : String :=
  String.ofList (s.toList.flatMap foldChar)

/-- Whether the nearest character that is not case-ignorable is cased. -/
def meetsCased (cs : List Char) : Bool :=
  (cs.dropWhile Unicode.isCaseIgnorable).head?.any Unicode.isCased

/-- Whether a letter ends a word, given the characters before it (nearest first)
and after it. -/
def endsWord (before after : List Char) : Bool :=
  meetsCased before && !meetsCased after

def lowerChar (before after : List Char) (c : Char) : List Char :=
  if c.val < 128 then [c.toLower]
  else if c = 'Σ' then [if endsWord before after then 'ς' else 'σ']
  else Unicode.lowercase.apply c

/-- Lower-cases the characters that follow `before`, whose nearest character
comes first. -/
def lowerAfter (before : List Char) : List Char → List Char
  | [] => []
  | c :: after => lowerChar before after c ++ lowerAfter (c :: before) after

def lower (s : String) : String :=
  String.ofList (lowerAfter [] s.toList)

def asciiLower (s : String) : String :=
  String.ofList (s.toList.map Char.toLower)

def equalUpToAsciiCase (s t : String) : Bool :=
  asciiLower s == asciiLower t

@[simp] theorem toList_upper (s : String) :
    (upper s).toList = s.toList.flatMap upperChar := by
  simp [upper]

@[simp] theorem toList_fold (s : String) :
    (fold s).toList = s.toList.flatMap foldChar := by
  simp [fold]

@[simp] theorem toList_lower (s : String) :
    (lower s).toList = lowerAfter [] s.toList := by
  simp [lower]

@[simp] theorem toList_asciiLower (s : String) :
    (asciiLower s).toList = s.toList.map Char.toLower := by
  simp [asciiLower]

theorem upper_append (s t : String) : upper (s ++ t) = upper s ++ upper t := by
  simp [← String.toList_inj]

theorem fold_append (s t : String) : fold (s ++ t) = fold s ++ fold t := by
  simp [← String.toList_inj]

theorem asciiLower_append (s t : String) :
    asciiLower (s ++ t) = asciiLower s ++ asciiLower t := by
  simp [← String.toList_inj]

theorem lowerAfter_of_ascii (before cs : List Char)
    (hascii : ∀ c ∈ cs, c.val < 128) :
    lowerAfter before cs = cs.map Char.toLower := by
  induction cs generalizing before with
  | nil => rfl
  | cons c after ih =>
    have hhead : c.val < 128 := hascii c (by simp)
    have htail : ∀ d ∈ after, d.val < 128 :=
      fun d hmem => hascii d (by simp [hmem])
    simp [lowerAfter, lowerChar, hhead, ih (c :: before) htail]

theorem lower_eq_asciiLower {s : String} (hascii : IsAscii s) :
    lower s = asciiLower s := by
  rw [← String.toList_inj, toList_lower, toList_asciiLower]
  exact lowerAfter_of_ascii [] s.toList hascii

theorem flatMap_foldChar_of_ascii (cs : List Char)
    (hascii : ∀ c ∈ cs, c.val < 128) :
    cs.flatMap foldChar = cs.map Char.toLower := by
  induction cs with
  | nil => rfl
  | cons c rest ih =>
    have hhead : c.val < 128 := hascii c (by simp)
    have htail : ∀ d ∈ rest, d.val < 128 :=
      fun d hmem => hascii d (by simp [hmem])
    simp [foldChar, hhead, ih htail]

theorem fold_eq_asciiLower {s : String} (hascii : IsAscii s) :
    fold s = asciiLower s := by
  rw [← String.toList_inj, toList_fold, toList_asciiLower]
  exact flatMap_foldChar_of_ascii s.toList hascii

end Text
end AddressBook

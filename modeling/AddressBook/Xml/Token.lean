import AddressBook.Xml.Character

/-!
# Tokens of XML

A document as the sequence of its tags, comments, processing instructions,
sections of character data and stretches of text.  Reading a token consumes part
of the document (`Token.lex?_length`), so the sequence ends.
-/

namespace AddressBook
namespace Xml

/-- A name with its qualifier, which is empty for an unqualified name. -/
structure QName where
  qualifier : String
  localName : String
deriving DecidableEq, Repr

/-- An attribute as written, its value still without its quotes but otherwise
raw. -/
structure RawAttribute where
  name : QName
  value : List Char
deriving DecidableEq, Repr

inductive Token
  | openTag (name : QName) (attributes : List RawAttribute) (isEmpty : Bool)
  | closeTag (name : QName)
  | text (raw : List Char)
  | characterData (raw : List Char)
  | comment (text : List Char)
  | instruction (target content : List Char)
deriving DecidableEq, Repr

def startsName (cs : List Char) : Bool :=
  cs.head?.any isNameStart

/-- Reads a run of name characters as a name with at most one colon. -/
def QName.ofChars? (cs : List Char) : Option QName :=
  match cs.dropWhile (· != ':') with
  | [] => if startsName cs then some ⟨"", String.ofList cs⟩ else none
  | _ :: localPart =>
    let qualifier := cs.takeWhile (· != ':')
    if (qualifier.isEmpty || startsName qualifier) && startsName localPart &&
        !localPart.contains ':' then
      some ⟨String.ofList qualifier, String.ofList localPart⟩
    else none

def QName.lex? (cs : List Char) : Option (QName × List Char) :=
  (QName.ofChars? (cs.takeWhile isNameChar)).map fun name =>
    (name, cs.dropWhile isNameChar)

def expect? (c : Char) : List Char → Option (List Char)
  | [] => none
  | d :: rest => if d = c then some rest else none

/-- What precedes the first occurrence of `stop`, and what follows it. -/
def splitAt? (stop : List Char) : List Char → Option (List Char × List Char)
  | [] => none
  | c :: rest =>
    if stop.isPrefixOf (c :: rest) then some ([], (c :: rest).drop stop.length)
    else (splitAt? stop rest).map fun parts => (c :: parts.1, parts.2)

/-- Reads a value in quotes of either kind.  It holds no opening angle
bracket. -/
def quotedValue? : List Char → Option (List Char × List Char)
  | [] => none
  | quote :: rest =>
    if quote = '"' ∨ quote = '\'' then
      let value := rest.takeWhile fun c => c != quote && c != '<'
      if value.all isChar then
        (expect? quote (rest.drop value.length)).map fun rest => (value, rest)
      else none
    else none

def RawAttribute.lex? (cs : List Char) : Option (RawAttribute × List Char) :=
  (QName.lex? cs).bind fun (name, rest) =>
  (expect? '=' (skipSpaces rest)).bind fun rest =>
  (quotedValue? (skipSpaces rest)).map fun (value, rest) =>
    (⟨name, value⟩, rest)

theorem QName.lex?_suffix {cs rest : List Char} {name : QName}
    (hread : QName.lex? cs = some (name, rest)) : rest <:+ cs := by
  simp only [QName.lex?, Option.map_eq_some_iff, Prod.mk.injEq] at hread
  obtain ⟨_, _, _, rfl⟩ := hread
  exact List.dropWhile_suffix isNameChar

theorem expect?_eq_some {c : Char} {cs rest : List Char}
    (hread : expect? c cs = some rest) :
    cs = c :: rest := by
  cases cs with
  | nil => simp [expect?] at hread
  | cons d tail =>
    simp only [expect?, Option.ite_none_right_eq_some,
      Option.some.injEq] at hread
    rw [hread.1, hread.2]

theorem expect?_length {c : Char} {cs rest : List Char}
    (hread : expect? c cs = some rest) :
    rest.length < cs.length := by
  simp [expect?_eq_some hread]

theorem splitAt?_eq_some {stop cs before after : List Char}
    (hsplit : splitAt? stop cs = some (before, after)) :
    cs = before ++ stop ++ after := by
  induction cs generalizing before with
  | nil => simp [splitAt?] at hsplit
  | cons c rest ih =>
    rw [splitAt?] at hsplit
    split at hsplit
    next hhere =>
      obtain ⟨tail, heq⟩ := List.isPrefixOf_iff_prefix.mp hhere
      simp only [Option.some.injEq, Prod.mk.injEq] at hsplit
      rw [← hsplit.1, ← hsplit.2, ← heq]
      simp
    · simp only [Option.map_eq_some_iff, Prod.mk.injEq] at hsplit
      obtain ⟨⟨_, _⟩, hinner, rfl, rfl⟩ := hsplit
      simp [ih hinner]

theorem splitAt?_length {stop cs before after : List Char}
    (hsplit : splitAt? stop cs = some (before, after)) :
    after.length ≤ cs.length := by
  simp [splitAt?_eq_some hsplit]
  omega

theorem quotedValue?_length {cs value rest : List Char}
    (hread : quotedValue? cs = some (value, rest)) :
    rest.length < cs.length := by
  cases cs with
  | nil => simp [quotedValue?] at hread
  | cons quote tail =>
    simp only [quotedValue?, Option.ite_none_right_eq_some,
      Option.map_eq_some_iff, Prod.mk.injEq] at hread
    obtain ⟨_, _, _, hclosed, _, rfl⟩ := hread
    have hshorter := expect?_length hclosed
    simp only [List.length_drop] at hshorter
    simp only [List.length_cons]
    omega

theorem RawAttribute.lex?_length {cs rest : List Char} {item : RawAttribute}
    (hread : RawAttribute.lex? cs = some (item, rest)) :
    rest.length < cs.length := by
  simp only [RawAttribute.lex?, Option.bind_eq_some_iff, Option.map_eq_some_iff,
    Prod.mk.injEq] at hread
  obtain ⟨⟨_, afterName⟩, hname, afterEquals, hequals, ⟨_, _⟩, hvalue, _,
    rfl⟩ := hread
  dsimp only at hequals hvalue ⊢
  have hfirst := (QName.lex?_suffix hname).length_le
  have hsecond := (skipSpaces_suffix afterName).length_le
  have hthird := expect?_length hequals
  have hfourth := (skipSpaces_suffix afterEquals).length_le
  have hfifth := quotedValue?_length hvalue
  omega

/-- Reads the attributes of a tag and the end of the tag, and tells whether it
closes its own element.  White space comes before every attribute. -/
def attributes? (cs : List Char) :
    Option (List RawAttribute × Bool × List Char) :=
  match skipSpaces cs with
  | '/' :: '>' :: rest => some ([], true, rest)
  | '>' :: rest => some ([], false, rest)
  | _ =>
    if cs.head?.any isSpace then
      match hread : RawAttribute.lex? (skipSpaces cs) with
      | some (item, rest) =>
        have : rest.length < cs.length :=
          Nat.lt_of_lt_of_le (RawAttribute.lex?_length hread)
            (skipSpaces_suffix cs).length_le
        (attributes? rest).map fun (others, isEmpty, rest) =>
          (item :: others, isEmpty, rest)
      | none => none
    else none
termination_by cs.length

theorem attributes?_length {cs rest : List Char}
    {attributes : List RawAttribute} {isEmpty : Bool}
    (hread : attributes? cs = some (attributes, isEmpty, rest)) :
    rest.length ≤ cs.length := by
  fun_induction attributes? cs generalizing attributes with
  | case1 cs tail hspaces =>
    have hbound := (skipSpaces_suffix cs).length_le
    simp only [Option.some.injEq, Prod.mk.injEq] at hread
    rw [hspaces] at hbound
    simp only [List.length_cons, hread.2.2] at hbound
    omega
  | case2 cs tail hspaces =>
    have hbound := (skipSpaces_suffix cs).length_le
    simp only [Option.some.injEq, Prod.mk.injEq] at hread
    rw [hspaces] at hbound
    simp only [List.length_cons, hread.2.2] at hbound
    omega
  | case3 cs _ _ _ item tail _ hshorter ih =>
    simp only [Option.map_eq_some_iff, Prod.mk.injEq] at hread
    obtain ⟨⟨_, _, _⟩, hinner, _, rfl, rfl⟩ := hread
    have hbound := ih hinner
    omega
  | case4 => simp at hread
  | case5 => simp at hread

namespace Token

def isCommentText (body : List Char) : Bool :=
  body.all isChar && (splitAt? ['-', '-'] (body ++ ['-'])).isNone

def isText (raw : List Char) : Bool :=
  raw.all isChar && (splitAt? [']', ']', '>'] raw).isNone

def comment? (cs : List Char) : Option (Token × List Char) :=
  (splitAt? ['-', '-', '>'] cs).bind fun (body, rest) =>
    if isCommentText body then some (.comment body, rest) else none

def characterData? (cs : List Char) : Option (Token × List Char) :=
  (splitAt? [']', ']', '>'] cs).bind fun (raw, rest) =>
    if raw.all isChar then some (.characterData raw, rest) else none

def instruction? (cs : List Char) : Option (Token × List Char) :=
  let target := cs.takeWhile isNameChar
  if startsName target && !(['x', 'm', 'l', ' '].isPrefixOf cs) then
    (splitAt? ['?', '>'] (skipSpaces (cs.drop target.length))).bind
      fun (content, rest) =>
        if content.all isChar then some (.instruction target content, rest)
        else none
  else none

def closeTag? (cs : List Char) : Option (Token × List Char) :=
  (QName.lex? cs).bind fun (name, rest) =>
    (expect? '>' (skipSpaces rest)).map fun rest => (.closeTag name, rest)

def openTag? (cs : List Char) : Option (Token × List Char) :=
  (QName.lex? cs).bind fun (name, rest) =>
    (attributes? rest).map fun (attributes, isEmpty, rest) =>
      (.openTag name attributes isEmpty, rest)

def markup? : List Char → Option (Token × List Char)
  | '!' :: '-' :: '-' :: rest => comment? rest
  | '!' :: '[' :: 'C' :: 'D' :: 'A' :: 'T' :: 'A' :: '[' :: rest =>
    characterData? rest
  | '?' :: rest => instruction? rest
  | '/' :: rest => closeTag? rest
  | rest => openTag? rest

def lex? (c : Char) (cs : List Char) : Option (Token × List Char) :=
  if c = '<' then markup? cs
  else
    let more := cs.takeWhile (· != '<')
    if isText (c :: more) then some (.text (c :: more), cs.drop more.length)
    else none

theorem comment?_length {cs rest : List Char} {token : Token}
    (hread : comment? cs = some (token, rest)) : rest.length ≤ cs.length := by
  simp only [comment?, Option.bind_eq_some_iff, Option.ite_none_right_eq_some,
    Option.some.injEq, Prod.mk.injEq] at hread
  obtain ⟨⟨_, _⟩, hsplit, _, _, rfl⟩ := hread
  exact splitAt?_length hsplit

theorem characterData?_length {cs rest : List Char} {token : Token}
    (hread : characterData? cs = some (token, rest)) :
    rest.length ≤ cs.length := by
  simp only [characterData?, Option.bind_eq_some_iff,
    Option.ite_none_right_eq_some, Option.some.injEq, Prod.mk.injEq] at hread
  obtain ⟨⟨_, _⟩, hsplit, _, _, rfl⟩ := hread
  exact splitAt?_length hsplit

theorem instruction?_length {cs rest : List Char} {token : Token}
    (hread : instruction? cs = some (token, rest)) :
    rest.length ≤ cs.length := by
  simp only [instruction?, Option.bind_eq_some_iff,
    Option.ite_none_right_eq_some, Option.some.injEq, Prod.mk.injEq] at hread
  obtain ⟨_, ⟨_, _⟩, hsplit, _, _, rfl⟩ := hread
  have hfirst := splitAt?_length hsplit
  have hsecond :=
    (skipSpaces_suffix (cs.drop (cs.takeWhile isNameChar).length)).length_le
  simp only [List.length_drop] at hsecond
  dsimp only at hfirst ⊢
  omega

theorem closeTag?_length {cs rest : List Char} {token : Token}
    (hread : closeTag? cs = some (token, rest)) : rest.length ≤ cs.length := by
  simp only [closeTag?, Option.bind_eq_some_iff, Option.map_eq_some_iff,
    Prod.mk.injEq] at hread
  obtain ⟨⟨_, afterName⟩, hname, _, hclosed, _, rfl⟩ := hread
  have hfirst := (QName.lex?_suffix hname).length_le
  have hsecond := (skipSpaces_suffix afterName).length_le
  have hthird := expect?_length hclosed
  dsimp only at hthird
  omega

theorem openTag?_length {cs rest : List Char} {token : Token}
    (hread : openTag? cs = some (token, rest)) : rest.length ≤ cs.length := by
  simp only [openTag?, Option.bind_eq_some_iff, Option.map_eq_some_iff,
    Prod.mk.injEq] at hread
  obtain ⟨⟨_, _⟩, hname, ⟨_, _, _⟩, htag, _, rfl⟩ := hread
  exact Nat.le_trans (attributes?_length htag)
    (QName.lex?_suffix hname).length_le

theorem markup?_length {cs rest : List Char} {token : Token}
    (hread : markup? cs = some (token, rest)) : rest.length ≤ cs.length := by
  revert hread
  fun_cases markup? cs <;> intro hread
  · have hbound := comment?_length hread
    simp only [List.length_cons]
    omega
  · have hbound := characterData?_length hread
    simp only [List.length_cons]
    omega
  · exact Nat.le_succ_of_le (instruction?_length hread)
  · exact Nat.le_succ_of_le (closeTag?_length hread)
  · exact openTag?_length hread

theorem lex?_length {c : Char} {cs rest : List Char} {token : Token}
    (hread : lex? c cs = some (token, rest)) : rest.length ≤ cs.length := by
  rw [lex?] at hread
  split at hread
  · exact markup?_length hread
  · simp only [Option.ite_none_right_eq_some, Option.some.injEq,
      Prod.mk.injEq] at hread
    rw [← hread.2.2]
    simp

/-- The tokens of a document, unless some part of it is none. -/
def scan? : List Char → Option (List Token)
  | [] => some []
  | c :: cs =>
    match hread : lex? c cs with
    | none => none
    | some (token, rest) =>
      have := lex?_length hread
      (scan? rest).map (token :: ·)
termination_by cs => cs.length

end Token
end Xml
end AddressBook

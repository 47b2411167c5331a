import AddressBook.Query.Compile
import Mathlib.Tactic.Common

/-!
# Reading the text of a query

A reader for the text that a query renders to.  The decision is made pattern by
pattern: a pattern that opens with a quote ends at the first quote that no
backslash stands before, any other ends where a character breaks it.  As long as
no key holds a colon, the reader gives back the query that was rendered, so no
pattern can reach beyond its term.
-/

namespace AddressBook
namespace QueryTerm

/-- Reads quoted text up to its closing quote, and gives what follows the
quote. -/
def readQuoted? : List Char → Option (List Char × List Char)
  | [] => none
  | '"' :: rest => some ([], rest)
  | '\\' :: c :: rest =>
      (readQuoted? rest).map fun read => (c :: read.1, read.2)
  | c :: rest => (readQuoted? rest).map fun read => (c :: read.1, read.2)

def readPattern? : List Char → Option (List Char × List Char)
  | '"' :: rest => readQuoted? rest
  | cs =>
      some (cs.takeWhile (!breaksPattern ·), cs.dropWhile (!breaksPattern ·))

/-- Reads one term; its key ends at the first colon. -/
def read? : List Char → Option (QueryTerm × List Char)
  | '#' :: cs =>
    match cs.dropWhile (· ≠ ':') with
    | [] => none
    | _ :: rest =>
      (readPattern? rest).map fun read =>
        (⟨String.ofList (cs.takeWhile (· ≠ ':')), String.ofList read.1⟩, read.2)
  | _ => none

/-- Text that ends the pattern before it. -/
def Closes (rest : List Char) : Prop :=
  ∃ c after, rest = c :: after ∧ breaksPattern c = true

theorem readQuoted?_escape (pattern rest : List Char) :
    readQuoted? (escape pattern ++ '"' :: rest) = some (pattern, rest) := by
  induction pattern with
  | nil => simp [escape, readQuoted?]
  | cons c pattern ih =>
      by_cases hquote : c = '"'
      · subst c
        simp [escape, readQuoted?, ih]
      · by_cases hslash : c = '\\'
        · subst c
          simp [escape, readQuoted?, ih]
        · simp [escape, readQuoted?, hquote, hslash, ih]

theorem readPattern?_plain {c : Char} (hc : c ≠ '"') (cs : List Char) :
    readPattern? (c :: cs) =
      some
        ((c :: cs).takeWhile (!breaksPattern ·),
          (c :: cs).dropWhile (!breaksPattern ·)) := by
  unfold readPattern?
  split
  next heq =>
    have hhead := (List.cons.inj heq).1
    exact absurd hhead hc
  next => rfl

theorem needsQuotes_eq_false_iff {pattern : List Char} :
    needsQuotes pattern = false ↔
      pattern ≠ [] ∧ ∀ c ∈ pattern, (!breaksPattern c) = true := by
  simp [needsQuotes]

theorem readPattern?_of_plain {pattern rest : List Char}
    (hplain : needsQuotes pattern = false) (hrest : Closes rest) :
    readPattern? (pattern ++ rest) = some (pattern, rest) := by
  obtain ⟨hne, hkeep⟩ := needsQuotes_eq_false_iff.mp hplain
  obtain ⟨closing, after, rfl, hclosing⟩ := hrest
  obtain ⟨c, cs, rfl⟩ := List.exists_cons_of_ne_nil hne
  have hc : c ≠ '"' := by
    rintro rfl
    have hhead := hkeep '"' List.mem_cons_self
    simp [breaksPattern] at hhead
  rw [List.cons_append, readPattern?_plain hc, ← List.cons_append,
    List.takeWhile_append_of_pos hkeep, List.dropWhile_append_of_pos hkeep]
  simp [hclosing]

/-- A pattern is read back from its text, whatever follows that closes it. -/
theorem readPattern?_patternText (pattern : List Char) {rest : List Char}
    (hrest : Closes rest) :
    readPattern? (patternText pattern ++ rest) = some (pattern, rest) := by
  unfold patternText
  cases hquotes : needsQuotes pattern with
  | true =>
      have hread := readQuoted?_escape pattern rest
      simpa [readPattern?] using hread
  | false => simpa using readPattern?_of_plain hquotes hrest

/-- Of two patterns written before text that closes them, neither can take from
the other. -/
theorem patternText_append_inj {p q r s : List Char} (hr : Closes r)
    (hs : Closes s) (heq : patternText p ++ r = patternText q ++ s) :
    p = q ∧ r = s := by
  have hread := readPattern?_patternText p hr
  rw [heq, readPattern?_patternText q hs] at hread
  simp only [Option.some.injEq, Prod.mk.injEq] at hread
  exact ⟨hread.1.symm, hread.2.symm⟩

theorem read?_text (term : QueryTerm) (hkey : ':' ∉ term.key.toList)
    {rest : List Char} (hrest : Closes rest) :
    read? (term.text ++ rest) = some (term, rest) := by
  have hkeep : ∀ c ∈ term.key.toList, (decide (c ≠ ':')) = true := by
    intro c hmem
    simp only [decide_eq_true_eq]
    rintro rfl
    exact hkey hmem
  have htext : term.text ++ rest =
      '#' :: (term.key.toList ++
        ':' :: (patternText term.pattern.toList ++ rest)) := by
    simp [text, List.append_assoc]
  rw [htext, read?, List.dropWhile_append_of_pos hkeep,
    List.takeWhile_append_of_pos hkeep]
  simp [readPattern?_patternText term.pattern.toList hrest]

/-! ## What is read is used up -/

theorem readQuoted?_length {cs pattern rest : List Char}
    (hread : readQuoted? cs = some (pattern, rest)) :
    rest.length < cs.length := by
  induction cs using readQuoted?.induct generalizing pattern rest with
  | case1 => simp [readQuoted?] at hread
  | case2 after =>
      simp only [readQuoted?, Option.some.injEq, Prod.mk.injEq] at hread
      simp [hread.2]
  | case3 c after ih =>
      simp only [readQuoted?, Option.map_eq_some_iff] at hread
      obtain ⟨read, hafter, heq⟩ := hread
      have hlt := ih hafter
      simp only [Prod.mk.injEq] at heq
      rw [← heq.2]
      simp only [List.length_cons]
      omega
  | case4 c after hquote hslash ih =>
      simp only [readQuoted?, Option.map_eq_some_iff] at hread
      obtain ⟨read, hafter, heq⟩ := hread
      have hlt := ih hafter
      simp only [Prod.mk.injEq] at heq
      rw [← heq.2]
      simp only [List.length_cons]
      omega

theorem readPattern?_length {cs pattern rest : List Char}
    (hread : readPattern? cs = some (pattern, rest)) :
    rest.length ≤ cs.length := by
  unfold readPattern? at hread
  split at hread
  next =>
    have hlt := readQuoted?_length hread
    simp only [List.length_cons]
    omega
  next =>
    simp only [Option.some.injEq, Prod.mk.injEq] at hread
    rw [← hread.2]
    exact (List.dropWhile_suffix _).length_le

theorem read?_length {cs rest : List Char} {term : QueryTerm}
    (hread : read? cs = some (term, rest)) : rest.length < cs.length := by
  unfold read? at hread
  split at hread
  next cs =>
    have hdrop := (List.dropWhile_suffix (l := cs) (· ≠ ':')).length_le
    split at hread
    next => simp at hread
    next after heq =>
      obtain ⟨read, hafter, hterm⟩ := Option.map_eq_some_iff.mp hread
      have hle := readPattern?_length hafter
      simp only [Prod.mk.injEq] at hterm
      rw [heq] at hdrop
      rw [← hterm.2]
      simp only [List.length_cons] at hdrop ⊢
      omega
  next => simp at hread

end QueryTerm

/-! ## Terms and queries -/

namespace Query

open QueryTerm
  (Closes patternText patternText_append_inj read?_text read?_length)

theorem length_of_joined {cs rest : List Char} {term : QueryTerm}
    (hread :
      QueryTerm.read? cs = some (term, ' ' :: 'O' :: 'R' :: ' ' :: rest)) :
    rest.length < cs.length := by
  have hlt := read?_length hread
  simp only [List.length_cons] at hlt
  omega

/-- Reads terms joined by `OR`, at least one of them. -/
def readTerms? (cs : List Char) : Option (List QueryTerm × List Char) :=
  match answer : QueryTerm.read? cs with
  | none => none
  | some (term, ' ' :: 'O' :: 'R' :: ' ' :: rest) =>
    have _shorter := length_of_joined answer
    (readTerms? rest).map fun read => (term :: read.1, read.2)
  | some (term, rest) => some ([term], rest)
termination_by cs.length

/-- Reads terms up to the parenthesis that closes them, with which the text has
to end. -/
def readBody? (cs : List Char) : Option (List QueryTerm) :=
  if cs = [')'] then some []
  else
    match readTerms? cs with
    | some (terms, [')']) => some terms
    | _ => none

def readText? : List Char → Option Query
  | '!' :: '(' :: body => (readBody? body).map (⟨true, ·⟩)
  | '(' :: body => (readBody? body).map (⟨false, ·⟩)
  | _ => none

/-- Reads a query from its text. -/
def read? (text : String) : Option Query :=
  readText? text.toList

/-- The text of further terms, each with the word that joins it to the one
before. -/
def joinedText (terms : List QueryTerm) : List Char :=
  terms.flatMap fun term => [' ', 'O', 'R', ' '] ++ term.text

theorem intercalate_text (term : QueryTerm) (terms : List QueryTerm) :
    [' ', 'O', 'R', ' '].intercalate ((term :: terms).map QueryTerm.text) =
      term.text ++ joinedText terms := by
  induction terms generalizing term with
  | nil => simp [joinedText]
  | cons next rest ih =>
      rw [List.map_cons, List.map_cons, List.intercalate_cons_cons,
        ← List.map_cons, ih next]
      simp [joinedText]

theorem text_eq (query : Query) {term : QueryTerm} {terms : List QueryTerm}
    (hterms : query.terms = term :: terms) :
    query.text = (if query.negated then ['!'] else []) ++
      '(' :: (term.text ++ (joinedText terms ++ [')'])) := by
  unfold text
  rw [hterms, intercalate_text]
  simp [List.append_assoc]

theorem closes_joinedText (terms : List QueryTerm) :
    Closes (joinedText terms ++ [')']) := by
  cases terms with
  | nil => exact ⟨')', [], rfl, by decide⟩
  | cons next rest =>
      refine ⟨' ', 'O' :: 'R' :: ' ' :: (next.text ++ joinedText rest ++ [')']),
        ?_, by decide⟩
      simp [joinedText]

theorem readTerms?_of_last {cs : List Char} {term : QueryTerm}
    (hread : QueryTerm.read? cs = some (term, [')'])) :
    readTerms? cs = some ([term], [')']) := by
  rw [readTerms?]
  split
  next hnone => simp [hread] at hnone
  next heq => simp [hread] at heq
  next heq =>
    rw [hread] at heq
    simp only [Option.some.injEq, Prod.mk.injEq] at heq
    rw [heq.1, heq.2]

theorem readTerms?_of_more {cs rest : List Char} {term : QueryTerm}
    (hread :
      QueryTerm.read? cs = some (term, ' ' :: 'O' :: 'R' :: ' ' :: rest)) :
    readTerms? cs = (readTerms? rest).map fun read =>
      (term :: read.1, read.2) := by
  rw [readTerms?]
  split
  next hnone => simp [hread] at hnone
  next heq =>
    rw [hread] at heq
    simp only [Option.some.injEq, Prod.mk.injEq, List.cons.injEq,
      true_and] at heq
    rw [heq.1, heq.2]
  next hother heq =>
    rw [hread] at heq
    simp only [Option.some.injEq, Prod.mk.injEq] at heq
    exact absurd heq.2.symm (hother _)

/-- Terms whose keys hold no colon are read back one after the other. -/
theorem readTerms?_text (term : QueryTerm) (terms : List QueryTerm)
    (hkeys : ∀ t ∈ term :: terms, ':' ∉ t.key.toList) :
    readTerms? (term.text ++ (joinedText terms ++ [')'])) =
      some (term :: terms, [')']) := by
  induction terms generalizing term with
  | nil =>
      apply readTerms?_of_last
      exact read?_text term (hkeys term List.mem_cons_self)
        (closes_joinedText [])
  | cons next rest ih =>
      have hfirst := read?_text term (hkeys term List.mem_cons_self)
        (closes_joinedText (next :: rest))
      have hrest := ih next fun t hmem => hkeys t (List.mem_cons_of_mem _ hmem)
      have hjoined : joinedText (next :: rest) ++ [')'] =
          ' ' :: 'O' :: 'R' :: ' ' ::
            (next.text ++ (joinedText rest ++ [')'])) := by
        simp [joinedText]
      rw [hjoined] at hfirst ⊢
      rw [readTerms?_of_more hfirst, hrest]
      rfl

theorem readBody?_text (term : QueryTerm) (terms : List QueryTerm)
    (hkeys : ∀ t ∈ term :: terms, ':' ∉ t.key.toList) :
    readBody? (term.text ++ (joinedText terms ++ [')'])) =
      some (term :: terms) := by
  unfold readBody?
  rw [if_neg (by simp [QueryTerm.text]), readTerms?_text term terms hkeys]
  rfl

theorem read?_render (query : Query)
    (hkeys : ∀ key ∈ query.keys, ':' ∉ key.toList) :
    read? query.render = some query := by
  obtain ⟨negated, terms⟩ := query
  have htoList : (render ⟨negated, terms⟩).toList = text ⟨negated, terms⟩ :=
    String.toList_ofList
  unfold read?
  rw [htoList]
  cases terms with
  | nil => cases negated <;> rfl
  | cons term terms =>
      have hterms : ∀ t ∈ term :: terms, ':' ∉ t.key.toList := by
        intro t hmem
        exact hkeys t.key (List.mem_map_of_mem hmem)
      have hbody := readBody?_text term terms hterms
      rw [text_eq ⟨negated, term :: terms⟩ rfl]
      cases negated <;> simp [readText?, hbody]

theorem text_eq_of_render_eq {first second : Query}
    (hrender : first.render = second.render) :
    first.text = second.text := by
  have htoList := congrArg String.toList hrender
  simpa [render] using htoList

/-- Queries over one list of keys that render alike look for one pattern. -/
theorem pattern_eq_of_text_eq {first second : Query} {key p q : String}
    {firstTerms secondTerms : List QueryTerm}
    (hfirst : first.terms = ⟨key, p⟩ :: firstTerms)
    (hsecond : second.terms = ⟨key, q⟩ :: secondTerms)
    (htext : first.text = second.text) :
    p = q ∧ first.negated = second.negated := by
  rw [text_eq first hfirst, text_eq second hsecond] at htext
  have hnegated : first.negated = second.negated := by
    cases hn : first.negated <;> cases hm : second.negated <;>
      simp [hn, hm] at htext ⊢
  rw [hnegated] at htext
  have hbody := (List.cons.inj (List.append_cancel_left htext)).2
  simp only [QueryTerm.text, List.cons_append, List.append_assoc,
    List.cons.injEq, true_and] at hbody
  have hpattern := (List.cons.inj (List.append_cancel_left hbody)).2
  have hinj := patternText_append_inj (closes_joinedText firstTerms)
    (closes_joinedText secondTerms) hpattern
  exact ⟨String.toList_inj.mp hinj.1, hnegated⟩

/-- The text of a query determines it as long as its keys hold no colon, and the
text of a compiled text-match determines its pattern and its negation, whatever
the keys of the property. -/
theorem render_determines :
    (∀ query : Query, (∀ key ∈ query.keys, ':' ∉ key.toList) →
      read? query.render = some query) ∧
    (∀ first second : Query, (∀ key ∈ first.keys, ':' ∉ key.toList) →
      (∀ key ∈ second.keys, ':' ∉ key.toList) → first.render = second.render →
      first = second) ∧
    (∀ (table : PropertyTable) (property : String) (t u : TextMatch)
      (first second : Query), table.compile t property = some first →
      table.compile u property = some second →
      first.render = second.render →
      t.pattern = u.pattern ∧ t.negate = u.negate) := by
  refine ⟨read?_render, ?_, ?_⟩
  · intro first second hfirst hsecond hrender
    have hread := read?_render first hfirst
    rw [hrender, read?_render second hsecond] at hread
    exact (Option.some.inj hread).symm
  · intro table property t u first second hfirst hsecond hrender
    have hmapped : table.keysOf property ≠ [] := by
      intro hnil
      have hnone := PropertyTable.compile_eq_none_iff (t := t).mpr
        (PropertyTable.keysOf_eq_nil_iff.mp hnil)
      rw [hfirst] at hnone
      cases hnone
    obtain ⟨key, keys, hkeys⟩ := List.exists_cons_of_ne_nil hmapped
    have htext := text_eq_of_render_eq hrender
    rw [PropertyTable.eq_of_compile hfirst, PropertyTable.eq_of_compile hsecond,
      hkeys] at htext
    exact pattern_eq_of_text_eq rfl rfl htext

/-- A query whose patterns hold quotes, backslashes and the text of another
term. -/
def hostile : Query :=
  ⟨true, [⟨"e-mail", "x\" OR #y:\\"⟩, ⟨"(", ""⟩, ⟨"note", ") OR #n:z"⟩]⟩

theorem render_determines_hostile :
    read? hostile.render = some hostile ∧
      (hostile.complement.complement.render = hostile.render ∧
        hostile.complement.complement = hostile) ∧
      ((TextMatch.mk "1 2" true .octet .equals "x").pattern =
          (TextMatch.ofPattern "X" "1 2" true).pattern ∧
        (TextMatch.mk "1 2" true .octet .equals "x").negate =
          (TextMatch.ofPattern "X" "1 2" true).negate) := by
  obtain ⟨hread, hinj, hcompiled⟩ := render_determines
  have hkeys : ∀ key ∈ hostile.keys, ':' ∉ key.toList := by decide
  refine ⟨hread hostile hkeys, ⟨rfl, hinj _ hostile hkeys hkeys rfl⟩, ?_⟩
  exact hcompiled (.ofRegistrations [.simple "x" "a:b"]) "X"
    (TextMatch.mk "1 2" true .octet .equals "x")
    (TextMatch.ofPattern "X" "1 2" true)
    ⟨true, [⟨"a:b", "1 2"⟩]⟩ ⟨true, [⟨"a:b", "1 2"⟩]⟩ (by decide) (by decide)
    rfl

end Query
end AddressBook

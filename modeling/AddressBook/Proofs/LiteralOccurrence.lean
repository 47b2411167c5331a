import AddressBook.Proofs.BoundedSearch

/-!
# Literal occurrences of a pattern

A search lower-cases the value and the pattern, each on its own.  What a
character becomes depends on its neighbours only if it is a capital sigma
(`Text.lowerAfter_append`), so a pattern that stands in the value is found if
each of its sigmas ends a word in the value just if it does in the pattern
(`Text.lower_infix_of_sigmasKept`), and may be missed if not.
-/

namespace AddressBook
namespace Text

/-! ## Lower case in a context -/

/-- Lower-cases a piece of a text.  Of the characters before it, the nearest
comes first. -/
def lowerBetween (before after : List Char) : List Char → List Char
  | [] => []
  | c :: rest =>
      lowerChar before (rest ++ after) c ++
        lowerBetween (c :: before) after rest

/-- Each capital sigma of the piece ends a word in the text just if it does in
the piece alone. -/
def SigmasKept (before piece after : String) : Prop :=
  ∀ first rest, piece.toList = first ++ 'Σ' :: rest →
    endsWord (first.reverse ++ before.toList.reverse) (rest ++ after.toList) =
      endsWord first.reverse rest

theorem lowerAfter_append (before piece after : List Char) :
    lowerAfter before (piece ++ after) =
      lowerBetween before after piece ++
        lowerAfter (piece.reverse ++ before) after := by
  induction piece generalizing before with
  | nil => rfl
  | cons c rest ih =>
      rw [List.cons_append, lowerAfter, ih, lowerBetween, List.append_assoc,
        List.reverse_cons, List.append_assoc, List.singleton_append]

theorem lowerChar_congr {before after otherBefore otherAfter : List Char}
    {c : Char}
    (hsigma : c = 'Σ' →
      endsWord before after = endsWord otherBefore otherAfter) :
    lowerChar before after c = lowerChar otherBefore otherAfter c := by
  unfold lowerChar
  by_cases hc : c = 'Σ'
  · rw [hsigma hc]
  · rw [if_neg hc, if_neg hc]

/-- A piece is lower-cased in its context as it is without what lies beyond it,
if that makes no difference to its capital sigmas.  The characters in `done`
stand before it in either case. -/
theorem lowerBetween_eq_lowerAfter (before after done : List Char)
    {piece : List Char} (hkept : ∀ first rest, piece = first ++ 'Σ' :: rest →
      endsWord (first.reverse ++ (done ++ before)) (rest ++ after) =
        endsWord (first.reverse ++ done) rest) :
    lowerBetween (done ++ before) after piece = lowerAfter done piece := by
  induction piece generalizing done with
  | nil => rfl
  | cons c rest ih =>
      rw [lowerBetween, lowerAfter]
      congr 1
      · apply lowerChar_congr
        rintro rfl
        exact hkept [] rest rfl
      · apply ih (c :: done)
        intro first others hrest
        have hpiece : c :: rest = (c :: first) ++ 'Σ' :: others := by
          rw [hrest, List.cons_append]
        simpa using hkept (c :: first) others hpiece

theorem lower_infix_of_sigmasKept {before piece after : String}
    (hkept : SigmasKept before piece after) :
    (lower piece).toList <:+: (lower (before ++ piece ++ after)).toList := by
  have hpiece : lowerBetween before.toList.reverse after.toList piece.toList =
      lowerAfter [] piece.toList := by
    apply lowerBetween_eq_lowerAfter _ _ []
    intro first rest hsplit
    rw [List.nil_append, List.append_nil]
    exact hkept first rest hsplit
  rw [toList_lower, toList_lower, String.toList_append, String.toList_append,
    List.append_assoc, lowerAfter_append, lowerAfter_append, List.append_nil,
    hpiece, ← List.append_assoc]
  exact List.infix_append _ _ _

end Text

/-! ## Searching for what a contact holds -/

/-- The mailbox accepts the search, and draining its cursor brings the
contact. -/
def Mailbox.Delivers (mailbox : Mailbox) (request : SearchRequest)
    (contact : Contact) : Prop :=
  ∃ cursor hits, mailbox.search request = .ok cursor ∧
    cursor.drain.1 = .ok hits ∧ .contact contact ∈ hits

namespace InMemory

variable {contacts : List Contact} {request : SearchRequest} {contact : Contact}

theorem delivers_iff :
    (mailbox contacts).Delivers request contact ↔
      contact ∈ found contacts request := by
  obtain ⟨opened, hopened, hdrained⟩ := exists_cursor_drain contacts request
  have hhit : Hit.contact contact ∈ (found contacts request).map .contact ↔
      contact ∈ found contacts request :=
    List.mem_map_of_injective fun _ _ => Hit.contact.inj
  constructor
  · rintro ⟨cursor, hits, hsearch, hdrain, hmem⟩
    obtain rfl : opened = cursor := Except.ok.inj (hopened.symm.trans hsearch)
    obtain rfl : _ = hits := Except.ok.inj (hdrained.symm.trans hdrain)
    exact hhit.mp hmem
  · intro hfound
    exact ⟨opened, _, hopened, hdrained, hhit.mpr hfound⟩

/-- With room for every contact, a contact whose value contains a pattern
literally is delivered, if each capital sigma of the pattern ends a word in the
value just if it does in the pattern. -/
theorem literal_occurrence_delivered (contacts : List Contact)
    (request : SearchRequest) (contact : Contact) (term : QueryTerm)
    (before after : String) (htypes : .contact ∈ request.types)
    (hlimit : contacts.length ≤ request.limit)
    (hpositive : request.query.negated = false) (hstored : contact ∈ contacts)
    (hterm : term ∈ request.query.terms)
    (hvalue :
      Record.value? contact term.key = some (before ++ term.pattern ++ after))
    (hkept : Text.SigmasKept before term.pattern after) :
    (mailbox contacts).Delivers request contact := by
  have hholds : contact.holds term = true := by
    unfold Contact.holds
    rw [hvalue]
    exact Text.contains_iff.mpr (Text.lower_infix_of_sigmasKept hkept)
  have hsatisfies : contact.satisfies request.query = true := by
    unfold Contact.satisfies
    rw [hpositive, List.any_eq_true.mpr ⟨term, hterm, hholds⟩]
    rfl
  exact delivers_iff.mpr
    ((mem_found_iff htypes hlimit).mpr ⟨hstored, hsatisfies⟩)

def forNikos : SearchRequest :=
  ⟨"user", ⟨false, [⟨"fullName", "ΝΙΚΟΣ"⟩]⟩, [.contact], .nameAscending, 10⟩

/-- Not every literal occurrence is delivered: the sigma that ends a name is
another one than that in the middle of a longer name. -/
theorem nikos_missed_in_nikostratos :
    ¬∀ (contacts : List Contact) (request : SearchRequest) (contact : Contact)
      (term : QueryTerm) (before after : String),
      .contact ∈ request.types → contacts.length ≤ request.limit →
      request.query.negated = false → contact ∈ contacts →
      term ∈ request.query.terms →
      Record.value? contact term.key = some (before ++ term.pattern ++ after) →
      (mailbox contacts).Delivers request contact := by
  intro hall
  have hdelivered :=
    hall [named 1 7 "ΝΙΚΟΣΤΡΑΤΟΣ"] forNikos (named 1 7 "ΝΙΚΟΣΤΡΑΤΟΣ")
      ⟨"fullName", "ΝΙΚΟΣ"⟩ "" "ΤΡΑΤΟΣ" (by decide) (by decide) rfl
      (by decide) (by decide) (by decide +kernel)
  have hsatisfies := (mem_of_mem_found (delivers_iff.mp hdelivered)).2
  have hmissed :
      (named 1 7 "ΝΙΚΟΣΤΡΑΤΟΣ").satisfies forNikos.query = false := by
    decide +kernel
  rw [hmissed] at hsatisfies
  cases hsatisfies

/-- Where the name stands as a word, it is delivered. -/
theorem nikos_delivered_as_word :
    Text.SigmasKept "ΣΤΡΑΤΟΣ " "ΝΙΚΟΣ" "" ∧
      (mailbox [named 1 7 "ΣΤΡΑΤΟΣ ΝΙΚΟΣ"]).Delivers forNikos
        (named 1 7 "ΣΤΡΑΤΟΣ ΝΙΚΟΣ") := by
  have hkept : Text.SigmasKept "ΣΤΡΑΤΟΣ " "ΝΙΚΟΣ" "" := by
    intro first rest hsplit
    have hname : "ΝΙΚΟΣ".toList = ['Ν', 'Ι', 'Κ', 'Ο', 'Σ'] := by
      decide
    rw [hname] at hsplit
    obtain ⟨rfl, rfl⟩ : first = ['Ν', 'Ι', 'Κ', 'Ο'] ∧ rest = [] := by
      simpa [List.cons_eq_append_iff] using hsplit
    decide +kernel
  exact ⟨hkept,
    literal_occurrence_delivered _ forNikos _ ⟨"fullName", "ΝΙΚΟΣ"⟩
      "ΣΤΡΑΤΟΣ " "" (by decide) (by decide) rfl (by decide) (by decide)
      (by decide +kernel) hkept⟩

end InMemory
end AddressBook

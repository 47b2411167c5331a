/-!
# Case tables

A case mapping of the Unicode Character Database, written as data.  Code points
that move by the same distance form a `CaseRun`; the few code points that become
several characters are listed on their own.  A code point that no entry covers
maps to itself (`CaseTable.image_of_uncovered`).
-/

namespace AddressBook
namespace Unicode

/-- Every `step`-th code point from `first` to `last`, moved as a block so that
`first` becomes `image`. -/
structure CaseRun where
  first : Nat
  last : Nat
  step : Nat
  image : Nat
deriving DecidableEq, Repr

def CaseRun.Covers (run : CaseRun) (code : Nat) : Prop :=
  run.first ≤ code ∧ code ≤ run.last ∧ (code - run.first) % run.step = 0

instance (run : CaseRun) (code : Nat) : Decidable (run.Covers code) :=
  inferInstanceAs (Decidable (_ ∧ _ ∧ _))

def CaseRun.image? (run : CaseRun) (code : Nat) : Option Nat :=
  if run.Covers code then some (run.image + (code - run.first)) else none

/-- A case mapping: blocks of code points that map to one character, and the
code points that expand into several. -/
structure CaseTable where
  runs : List CaseRun
  expansions : List (Nat × List Nat)
deriving DecidableEq, Repr

namespace CaseTable

def expansion? (table : CaseTable) (code : Nat) : Option (List Nat) :=
  table.expansions.lookup code

def single? (table : CaseTable) (code : Nat) : Option Nat :=
  table.runs.findSome? (·.image? code)

def image (table : CaseTable) (code : Nat) : List Nat :=
  match table.expansion? code with
  | some codes => codes
  | none => [(table.single? code).getD code]

def apply (table : CaseTable) (c : Char) : List Char :=
  (table.image c.toNat).map Char.ofNat

theorem image_of_uncovered {table : CaseTable} {code : Nat}
    (hexpansion : table.expansion? code = none)
    (hruns : ∀ run ∈ table.runs, ¬ run.Covers code) :
    table.image code = [code] := by
  have hsingle : table.single? code = none := by
    simp only [single?, List.findSome?_eq_none_iff]
    intro run hmem
    simp [CaseRun.image?, hruns run hmem]
  simp [image, hexpansion, hsingle]

end CaseTable

structure CodeRange where
  first : Nat
  last : Nat
deriving DecidableEq, Repr

def CodeRange.Covers (range : CodeRange) (code : Nat) : Prop :=
  range.first ≤ code ∧ code ≤ range.last

instance (range : CodeRange) (code : Nat) : Decidable (range.Covers code) :=
  inferInstanceAs (Decidable (_ ∧ _))

def covered (ranges : List CodeRange) (c : Char) : Bool :=
  ranges.any fun range => range.Covers c.toNat

end Unicode
end AddressBook

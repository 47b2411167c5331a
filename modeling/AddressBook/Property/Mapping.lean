import AddressBook.Data.Distinct
import AddressBook.Text.Case

/-!
# Attribute mappings

How a protocol property maps onto the keys under which contacts store their
attributes: a simple mapping names one key, a structured one lists keys under
each sub-type of the property.
-/

namespace AddressBook

structure SubtypeKeys where
  subtype : String
  keys : List String
deriving DecidableEq, Repr

inductive Mapping
  | simple (key : String)
  | structured (subtypes : List SubtypeKeys)
deriving DecidableEq, Repr

namespace Mapping

def isStructured : Mapping → Bool
  | simple _ => false
  | structured _ => true

/-- Every key of the mapping once, in the order in which the sub-types list
them. -/
def keys : Mapping → List String
  | simple key => [key]
  | structured subtypes => keepFirst id (subtypes.flatMap (·.keys))

/-- The keys of one sub-type.  A simple mapping has no sub-types and answers
with its key. -/
def keysFor (subtype : String) : Mapping → List String
  | simple key => [key]
  | structured subtypes =>
    match subtypes.find?
      (fun s => Text.equalUpToAsciiCase s.subtype subtype) with
    | some s => s.keys
    | none => []

def subtypeNames : Mapping → List String
  | simple _ => []
  | structured subtypes => subtypes.map (·.subtype)

/-- What registration keeps of a mapping: a structured one has sub-types, each
of them once, and every sub-type lists keys, each of them once. -/
def WellFormed : Mapping → Prop
  | simple _ => True
  | structured subtypes =>
    subtypes ≠ [] ∧ (subtypes.map (·.subtype)).Nodup ∧
      ∀ s ∈ subtypes, s.keys ≠ [] ∧ s.keys.Nodup

theorem WellFormed.keys_ne_nil {mapping : Mapping}
    (hformed : mapping.WellFormed) :
    mapping.keys ≠ [] := by
  cases mapping with
  | simple key => simp [keys]
  | structured subtypes =>
    obtain ⟨hsome, _, heach⟩ := hformed
    obtain ⟨s, rest, rfl⟩ := List.exists_cons_of_ne_nil hsome
    obtain ⟨key, others, hlisted⟩ :=
      List.exists_cons_of_ne_nil (heach s List.mem_cons_self).1
    simp [keys, keepFirst, hlisted]

end Mapping
end AddressBook

import AddressBook.Property.Table
import Mathlib.Tactic.Common

/-!
# What a run of registrations leaves

A registration step touches nothing but the mapping under its own name, and what
it leaves there depends on that mapping alone (`Registration.after`).  So the
mapping of a property after a run of steps is read off the steps that bear its
name, in their order, whatever came between them
(`PropertyTable.get?_ofRegistrations`).
-/

namespace AddressBook

namespace Registration

/-- The name that the step registers under. -/
def name : Registration → String
  | .simple property _ => Text.upper property
  | .subtype property _ _ => Text.upper property

/-- The mapping that the step leaves under its name, in the place of an old
one. -/
def after : Registration → Option Mapping → Option Mapping
  | .simple _ key, _ => some (.simple key)
  | .subtype _ part keys, old =>
    if keepFirst id keys = [] then old
    else some
      (PropertyTable.withSubtype (Text.lower part) (keepFirst id keys) old)

/-- The mapping that a run of steps of one name leaves. -/
def replay (steps : List Registration) (old : Option Mapping) :
    Option Mapping :=
  steps.foldl (fun mapping step => step.after mapping) old

theorem replay_cons (step : Registration) (steps : List Registration)
    (old : Option Mapping) :
    replay (step :: steps) old = replay steps (step.after old) := rfl

theorem replay_concat (steps : List Registration) (step : Registration)
    (old : Option Mapping) :
    replay (steps ++ [step]) old = step.after (replay steps old) := by
  simp [replay]

end Registration

namespace PropertyTable

open Registration (replay)

theorem ext_get? {table other : PropertyTable}
    (hsame : ∀ name, table.mappings.get? name = other.mappings.get? name) :
    table = other := by
  obtain ⟨mappings, wellFormed⟩ := table
  obtain ⟨others, otherWellFormed⟩ := other
  have hmappings : mappings = others := Dictionary.ext_get? hsame
  subst hmappings
  rfl

theorem get?_put (table : PropertyTable) (name other : String)
    (mapping : Mapping) (hmapping : mapping.WellFormed) :
    (table.put name mapping hmapping).mappings.get? other =
      if other = name then some mapping else table.mappings.get? other :=
  Dictionary.get?_insert _ _ _ _

theorem get?_register (table : PropertyTable) (step : Registration)
    (name : String) :
    (table.register step).mappings.get? name =
      if name = step.name then step.after (table.mappings.get? name)
      else table.mappings.get? name := by
  cases step with
  | simple property key => exact get?_put table _ name (.simple key) trivial
  | subtype property part keys =>
      unfold register Registration.after Registration.name
      dsimp only
      split
      next => rw [ite_self]
      next hkeys =>
        rw [get?_put]
        split
        next hname => rw [hname]
        next => rfl

theorem get?_foldl_register (table : PropertyTable) (steps : List Registration)
    (name : String) :
    (steps.foldl register table).mappings.get? name =
      replay (steps.filter fun step => step.name = name)
        (table.mappings.get? name) := by
  induction steps generalizing table with
  | nil => rfl
  | cons step rest ih =>
      rw [List.foldl_cons, ih, get?_register]
      by_cases hname : step.name = name
      · rw [if_pos hname.symm, List.filter_cons_of_pos (by simpa using hname),
          Registration.replay_cons]
      · rw [if_neg (Ne.symm hname),
          List.filter_cons_of_neg (by simpa using hname)]

theorem get?_ofRegistrations (steps : List Registration) (name : String) :
    (ofRegistrations steps).mappings.get? name =
      replay (steps.filter fun step => step.name = name) none :=
  get?_foldl_register empty steps name

end PropertyTable
end AddressBook

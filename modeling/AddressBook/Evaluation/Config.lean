import AddressBook.Mailbox.Basic

/-!
# Configuration of an evaluation

How many results a search may bring, in which order, and which kinds of items it
looks for.
-/

namespace AddressBook

structure Config where
  maxResults : Nat
  sort : SortOrder
  targetTypes : List ItemType
deriving DecidableEq, Repr

inductive ConfigFault
  | noResults
  | noTargetTypes
deriving DecidableEq, Repr

def ConfigFault.message : ConfigFault → String
  | noResults => "max_results must be greater than zero"
  | noTargetTypes => "target_types must not be empty"

namespace Config

instance : Inhabited Config := ⟨⟨100, default, [default]⟩⟩

def fault? (config : Config) : Option ConfigFault :=
  if config.maxResults = 0 then some .noResults
  else if config.targetTypes = [] then some .noTargetTypes
  else none

end Config
end AddressBook

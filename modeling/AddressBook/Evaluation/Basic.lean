import AddressBook.Evaluation.Combine
import AddressBook.Evaluation.Config
import AddressBook.Evaluation.Record
import AddressBook.Evaluation.Search
import AddressBook.Query.Compile
import AddressBook.Text.Quoted

/-!
# Evaluating filters

A filter is evaluated against the mailbox of a user, for one folder.  A
prop-filter that asks for absence lists the folder; one with a text-match
searches; one with param-filters alone joins their searches.  Failures of the
mailbox never stop an evaluation: the search or listing that failed brings
nothing, and an event says so.
-/

namespace AddressBook

structure OperationContext where
  account : String
deriving DecidableEq, Repr

structure RequestContext where
  user : String
  mailbox : Option Mailbox

namespace RequestContext

def operation (context : RequestContext) : OperationContext :=
  ⟨context.user⟩

def hasMailbox (context : RequestContext) : Bool :=
  context.mailbox.isSome

def describe (context : RequestContext) : String :=
  String.join
    ["DavContext \x7b user: ", Text.quoted context.user, ", has_mailbox: ",
      if context.hasMailbox then "true" else "false", " \x7d"]

end RequestContext

structure Evaluator where
  table : PropertyTable
  config : Config
deriving DecidableEq, Repr

namespace Evaluator

def searchRequest (evaluator : Evaluator) (operation : OperationContext)
    (query : Query) : SearchRequest where
  account := operation.account
  query := query
  types := evaluator.config.targetTypes
  sort := evaluator.config.sort
  limit := evaluator.config.maxResults

def pageRequest (evaluator : Evaluator) (operation : OperationContext)
    (folder : UInt32) : PageRequest where
  account := operation.account
  folder := folder
  sort := evaluator.config.sort
  offset := 0
  limit := evaluator.config.maxResults

def search (evaluator : Evaluator) (t : TextMatch) (context : RequestContext)
    (folder : UInt32) : Traced Step (List AddressObject) :=
  match evaluator.table.compileTextMatch t with
  | none => ⟨[], [.event (.unmappedTextMatch t.enclosing)]⟩
  | some query =>
    match context.mailbox with
    | none => ⟨[], [.event (.noMailbox context.user)]⟩
    | some mailbox =>
      let answer :=
        mailbox.searchFolder (evaluator.searchRequest context.operation query)
          folder
      match answer.value with
      | .ok contacts =>
        ⟨contacts.map .mk,
          answer.trace ++ [.event (.searched query folder contacts.length)]⟩
      | .error error =>
        ⟨[], answer.trace ++ [.event (.searchFailed error query)]⟩

/-- The contacts of the folder that have no value for a property. -/
def missing (evaluator : Evaluator) (property : String)
    (context : RequestContext) (folder : UInt32) :
    Traced Step (List AddressObject) :=
  match context.mailbox with
  | none => ⟨[], [.event (.noMailbox context.user)]⟩
  | some mailbox =>
    let answer :=
      mailbox.listFolder
        (fun contact => (evaluator.table.valuesOf contact property).isEmpty)
        (evaluator.pageRequest context.operation folder)
    match answer.value with
    | .ok contacts => ⟨contacts.map .mk, answer.trace⟩
    | .error error =>
      ⟨[], answer.trace ++ [.event (.listingFailed error folder)]⟩

/-- A param-filter searches for its text-match under the name of the
parameter. -/
def evaluateParam (evaluator : Evaluator) (p : ParamFilter)
    (context : RequestContext) (folder : UInt32) :
    Traced Step (List AddressObject) :=
  match p.textMatch with
  | some t => evaluator.search t context folder
  | none => ⟨[], []⟩

def evaluateProp (evaluator : Evaluator) (p : PropFilter)
    (context : RequestContext) (folder : UInt32) :
    Traced Step (List AddressObject) :=
  if p.isNotDefined then evaluator.missing p.name context folder
  else
    match p.textMatch with
    | some t => evaluator.search t context folder
    | none =>
      (Traced.collect
        (p.paramFilters.map (evaluator.evaluateParam · context folder))).map
        Filter.Test.anyOf.combine

def evaluate (evaluator : Evaluator) (filter : Filter)
    (context : RequestContext) (folder : UInt32) :
    Traced Step (List AddressObject) :=
  (Traced.collect
    (filter.propFilters.map (evaluator.evaluateProp · context folder))).map
    filter.test.combine

variable (evaluator : Evaluator) (context : RequestContext) (folder : UInt32)

theorem value_evaluate (filter : Filter) :
    (evaluator.evaluate filter context folder).value =
      filter.test.combine
        (filter.propFilters.map fun p =>
          (evaluator.evaluateProp p context folder).value) := by
  simp [evaluate, Function.comp_def]

theorem trace_evaluate (filter : Filter) :
    (evaluator.evaluate filter context folder).trace =
      filter.propFilters.flatMap fun p =>
        (evaluator.evaluateProp p context folder).trace := by
  simp [evaluate, List.flatMap_map]

theorem evaluateProp_of_absence {p : PropFilter}
    (habsence : p.isNotDefined = true) :
    evaluator.evaluateProp p context folder =
      evaluator.missing p.name context folder := by
  simp [evaluateProp, habsence]

theorem evaluateProp_of_textMatch {p : PropFilter} {t : TextMatch}
    (hpresence : p.isNotDefined = false) (htested : p.textMatch = some t) :
    evaluator.evaluateProp p context folder =
      evaluator.search t context folder := by
  simp [evaluateProp, hpresence, htested]

theorem evaluateProp_of_params {p : PropFilter}
    (hpresence : p.isNotDefined = false) (huntested : p.textMatch = none) :
    evaluator.evaluateProp p context folder =
      (Traced.collect
        (p.paramFilters.map (evaluator.evaluateParam · context folder))).map
        Filter.Test.anyOf.combine := by
  simp [evaluateProp, hpresence, huntested]

end Evaluator
end AddressBook

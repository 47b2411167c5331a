import AddressBook.Evaluation.Basic
import AddressBook.Filter.OfElement

/-!
# Prepared filters

A filter with what is needed to evaluate it.  It is prepared from a filter in
hand or from a document; a malformed document, one without a filter and a
configuration that cannot be used are refused.
-/

namespace AddressBook

inductive FilterError
  | malformedDocument
  | missingFilter
  | badConfig (fault : ConfigFault)
deriving DecidableEq, Repr

def FilterError.message : FilterError → String
  | malformedDocument => "Malformed filter document: "
  | missingFilter => "No CardDAV filter element in document"
  | badConfig fault => "Invalid configuration: " ++ fault.message

namespace Filter

def parse (source : String) (table : PropertyTable) :
    Traced Event (Except FilterError Filter) :=
  match Xml.Document.parse? source with
  | none => ⟨.error .malformedDocument, []⟩
  | some document =>
    match ofDocument? table document with
    | none => ⟨.error .missingFilter, []⟩
    | some filter => filter.map .ok

end Filter

structure PreparedFilter where
  filter : Filter
  evaluator : Evaluator
deriving DecidableEq, Repr

namespace PreparedFilter

def ofFilter (filter : Filter) (table : PropertyTable) (config : Config) :
    Except FilterError PreparedFilter :=
  match config.fault? with
  | some fault => .error (.badConfig fault)
  | none => .ok ⟨filter, ⟨table, config⟩⟩

/-- Reads a document and prepares its filter.  The document is judged before the
configuration. -/
def parse (source : String) (table : PropertyTable) (config : Config) :
    Traced Event (Except FilterError PreparedFilter) :=
  (Filter.parse source table).map fun parsed =>
    parsed.bind (ofFilter · table config)

def evaluate (prepared : PreparedFilter) (context : RequestContext)
    (folder : UInt32) : Traced Step (List AddressObject) :=
  prepared.evaluator.evaluate prepared.filter context folder

def accepts {ρ : Type} [Record ρ] (prepared : PreparedFilter) (record : ρ) :
    Bool :=
  prepared.filter.accepts prepared.evaluator.table record

end PreparedFilter
end AddressBook

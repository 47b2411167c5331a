import AddressBook.Evaluation.Prepared
import AddressBook.Json.Config
import AddressBook.Json.Contact
import AddressBook.Json.Filter
import AddressBook.Json.Property
import AddressBook.Json.Query
import AddressBook.Mailbox.Client
import AddressBook.Mailbox.Faults
import AddressBook.Property.CardDav
import AddressBook.Proofs.QueryReading
import AddressBook.Proofs.BranchAnswers
import AddressBook.Proofs.RecordAgreement
import AddressBook.Proofs.FaultDegradation
import AddressBook.Proofs.CallBlocks
import AddressBook.Proofs.SearchCoverage
import AddressBook.Proofs.FolderIsolation
import AddressBook.Proofs.CursorAccounts
import AddressBook.Proofs.FilterSkeleton
import AddressBook.Proofs.CaseStability
import AddressBook.Proofs.RegistrationHistory
import AddressBook.Proofs.TableStorage
import AddressBook.Proofs.ResultLimit
import AddressBook.Proofs.StorageOrder
import AddressBook.Proofs.BlankAttributes
import AddressBook.Proofs.CombinedResults
import AddressBook.Proofs.ResultSoundness
import AddressBook.Proofs.AbsenceListing
import AddressBook.Proofs.BoundFilters
import AddressBook.Proofs.RegistrationOutcome
import AddressBook.Proofs.SubtypeSpelling
import AddressBook.Proofs.BoundedSearch
import AddressBook.Proofs.LiteralOccurrence
import AddressBook.Proofs.CompiledKeys
import AddressBook.Proofs.FolderShares
import AddressBook.Proofs.EvaluationLog
import AddressBook.Proofs.DescendingOrder
import AddressBook.Proofs.PatternPlacement
import AddressBook.Proofs.SeveralValues

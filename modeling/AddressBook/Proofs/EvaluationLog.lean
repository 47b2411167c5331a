import AddressBook.Proofs.BranchAnswers
import AddressBook.Proofs.CallBlocks
import AddressBook.Proofs.FolderIsolation

/-!
# The log of an evaluation

The lines of the log fall into one block for each search and each listing of the
filter, in their order.  A search leaves one line that says how it ended, behind
another one if its cursor could not be released, and a listing leaves one only
if there is no mailbox or a page failed.  Each of them makes at most one call
that fails and warns just then, so the warnings count the failures.
-/

namespace AddressBook

/-! ## Lines -/

/-- An event as the log shows it. -/
structure LogLine where
  severity : Severity
  message : String
  fields : List (String × FieldValue)
deriving DecidableEq, Repr

def Event.line (event : Event) : LogLine :=
  ⟨event.severity, event.message, event.fields⟩

namespace LogLine

def unmapped (property : String) : LogLine :=
  ⟨.debug, "no attribute mapping, filter never matches",
    [("property", .text property)]⟩

def noMailbox (user : String) : LogLine :=
  ⟨.debug, "can't get target mailbox", [("user", .text user)]⟩

def searched (query : Query) (folder : UInt32) (hits : Nat) : LogLine :=
  ⟨.debug, "search filter",
    [("query", .text query.render), ("folder", .number folder.toNat),
      ("hits", .number hits)]⟩

def searchFailed (error : BackendError) (query : Query) : LogLine :=
  ⟨.warn, "can't search target mailbox",
    [("error", .text error.message), ("query", .text query.render)]⟩

def listingFailed (error : BackendError) (folder : UInt32) : LogLine :=
  ⟨.warn, "can't list address book contacts",
    [("error", .text error.message), ("folder", .number folder.toNat)]⟩

/-- The line of a cursor that is not released as it should be; there is none for
any other. -/
def ofRelease (cursor : Cursor) : List LogLine :=
  match cursor.releaseFailure with
  | none => []
  | some error =>
      [⟨.debug, "can't release search results",
        [("error", .text error.message)]⟩]

end LogLine

/-! ## Branches -/

/-- What an evaluation does for a part of its filter. -/
inductive Branch
  | search (t : TextMatch)
  | listing (property : String)
deriving DecidableEq, Repr

def PropFilter.branches (p : PropFilter) : List Branch :=
  if p.isNotDefined then [.listing p.name] else p.searched.map .search

def Filter.branches (filter : Filter) : List Branch :=
  filter.propFilters.flatMap (·.branches)

namespace Evaluator

variable (evaluator : Evaluator) (context : RequestContext) (folder : UInt32)

def runBranch : Branch → Traced Step (List AddressObject)
  | .search t => evaluator.search t context folder
  | .listing property => evaluator.missing property context folder

theorem trace_evaluateParams (params : List ParamFilter) :
    (params.flatMap fun p => (evaluator.evaluateParam p context folder).trace) =
      (params.filterMap (·.textMatch)).flatMap fun t =>
        (evaluator.search t context folder).trace := by
  induction params with
  | nil => rfl
  | cons p rest ih =>
      rw [List.flatMap_cons, ih, evaluateParam]
      cases htext : p.textMatch with
      | none => rw [List.filterMap_cons_none htext, List.nil_append]
      | some t => rw [List.filterMap_cons_some htext, List.flatMap_cons]

theorem trace_evaluateProp (p : PropFilter) :
    (evaluator.evaluateProp p context folder).trace =
      p.branches.flatMap fun branch =>
        (evaluator.runBranch context folder branch).trace := by
  unfold PropFilter.branches PropFilter.searched
  cases hpresence : p.isNotDefined with
  | true =>
      rw [evaluateProp_of_absence _ _ _ hpresence, if_pos rfl,
        List.flatMap_singleton]
      rfl
  | false =>
      rw [if_neg Bool.false_ne_true, if_neg Bool.false_ne_true,
        List.flatMap_map]
      cases htext : p.textMatch with
      | some t =>
          rw [evaluateProp_of_textMatch _ _ _ hpresence htext,
            List.flatMap_singleton]
          rfl
      | none =>
          rw [evaluateProp_of_params _ _ _ hpresence htext, Traced.trace_map,
            Traced.trace_collect, List.flatMap_map, trace_evaluateParams]
          rfl

theorem trace_evaluate_branches (filter : Filter) :
    (evaluator.evaluate filter context folder).trace =
      filter.branches.flatMap fun branch =>
        (evaluator.runBranch context folder branch).trace := by
  rw [trace_evaluate, Filter.branches, List.flatMap_assoc]
  simp only [trace_evaluateProp]

end Evaluator

/-! ## What a branch leaves -/

/-- The calls of a branch, and the lines that it leaves in the log. -/
structure BranchRecord where
  calls : List Call
  lines : List LogLine

def BranchRecord.ofTrace (trace : List Step) : BranchRecord :=
  ⟨callsOf trace, (eventsOf trace).map Event.line⟩

namespace Evaluator

section Logs

variable (evaluator : Evaluator) (context : RequestContext) (folder : UInt32)

/-- What the search for a text-match asks of the mailbox, given that there is
one and that the property is mapped. -/
structure Asks (t : TextMatch) (query : Query) (mailbox : Mailbox)
    (request : SearchRequest) : Prop where
  compiled : evaluator.table.compileTextMatch t = some query
  mailbox_eq : context.mailbox = some mailbox
  request_eq : request = evaluator.searchRequest context.operation query

/-- A search leaves one line that says how it ended.  If it opened a cursor, the
cursor is released before, which leaves a line of its own when it fails. -/
inductive SearchLog (t : TextMatch) : BranchRecord → Prop
  | unmapped (hmapped : evaluator.table.lookup t.enclosing = none) :
      SearchLog t ⟨[], [.unmapped t.enclosing]⟩
  | noMailbox (hmapped : evaluator.table.lookup t.enclosing ≠ none)
      (hmailbox : context.mailbox = none) :
      SearchLog t ⟨[], [.noMailbox context.user]⟩
  | refused {query : Query} {mailbox : Mailbox} {request : SearchRequest}
      {error : BackendError}
      (hasks : evaluator.Asks context t query mailbox request)
      (hsearch : mailbox.search request = .error error) :
      SearchLog t ⟨[.search request], [.searchFailed error query]⟩
  | failed {query : Query} {mailbox : Mailbox} {request : SearchRequest}
      {cursor : Cursor} {error : BackendError}
      (hasks : evaluator.Asks context t query mailbox request)
      (hsearch : mailbox.search request = .ok cursor)
      (hdrain : cursor.drain.1 = .error error) :
      SearchLog t ⟨[.search request, .release],
        LogLine.ofRelease cursor ++ [.searchFailed error query]⟩
  | answered {query : Query} {mailbox : Mailbox} {request : SearchRequest}
      {cursor : Cursor} {hits : List Hit}
      (hasks : evaluator.Asks context t query mailbox request)
      (hsearch : mailbox.search request = .ok cursor)
      (hdrain : cursor.drain.1 = .ok hits) :
      SearchLog t ⟨[.search request, .release],
        LogLine.ofRelease cursor ++
          [.searched query folder
            (evaluator.search t context folder).value.length]⟩

/-- A listing asks for its pages in turn.  It leaves a line if there is no
mailbox or if the page that it asked for last failed. -/
inductive ListingLog (property : String) : BranchRecord → Prop
  | noMailbox (hmailbox : context.mailbox = none) :
      ListingLog property ⟨[], [.noMailbox context.user]⟩
  | failed {mailbox : Mailbox} {earlier : List (List Contact)}
      {listing : Traced Step (Except BackendError (List Contact))}
      {error : BackendError} (hmailbox : context.mailbox = some mailbox)
      (hlisting : mailbox.Listing (evaluator.table.lacks property)
        (evaluator.pageAt context.user folder 0) [] earlier listing)
      (hfailed : listing.value = .error error) :
      ListingLog property
        ⟨callsOf listing.trace, [.listingFailed error folder]⟩
  | answered {mailbox : Mailbox} {earlier : List (List Contact)}
      {listing : Traced Step (Except BackendError (List Contact))}
      {listed : List Contact} (hmailbox : context.mailbox = some mailbox)
      (hlisting : mailbox.Listing (evaluator.table.lacks property)
        (evaluator.pageAt context.user folder 0) [] earlier listing)
      (hlisted : listing.value = .ok listed) :
      ListingLog property ⟨callsOf listing.trace, []⟩

def BranchLog : Branch → BranchRecord → Prop
  | .search t => evaluator.SearchLog context folder t
  | .listing property => evaluator.ListingLog context folder property

end Logs

end Evaluator

/-! ## Searches -/

theorem BranchRecord.ofTrace_released (call : Call) (cursor : Cursor)
    (event : Event) :
    ofTrace (.call call :: cursor.release ++ [.event event]) =
      ⟨[call, .release], LogLine.ofRelease cursor ++ [event.line]⟩ := by
  have hcalls :
      callsOf (.call call :: cursor.release ++ [.event event]) =
        [call, .release] := by
    simp
  have hlines :
      (eventsOf (.call call :: cursor.release ++ [.event event])).map
          Event.line =
        LogLine.ofRelease cursor ++ [event.line] := by
    rw [List.cons_append, eventsOf_call, eventsOf_append, List.map_append,
      eventsOf_release, LogLine.ofRelease]
    cases cursor.releaseFailure with
    | none => rfl
    | some error => rfl
  rw [ofTrace, hcalls, hlines]

namespace Evaluator

variable {evaluator : Evaluator} {user : String} {folder : UInt32}

theorem search_of_noMailbox {t : TextMatch} {query : Query}
    (hquery : evaluator.table.compileTextMatch t = some query) :
    evaluator.search t ⟨user, none⟩ folder =
      ⟨[], [.event (.noMailbox user)]⟩ := by
  unfold search
  rw [hquery]

theorem searchLog_search (context : RequestContext) (t : TextMatch) :
    evaluator.SearchLog context folder t
      (.ofTrace (evaluator.search t context folder).trace) := by
  obtain ⟨user, mailbox⟩ := context
  cases hquery : evaluator.table.compileTextMatch t with
  | none =>
      rw [search_of_unmapped hquery]
      exact .unmapped (PropertyTable.compile_eq_none_iff.mp hquery)
  | some query =>
      cases mailbox with
      | none =>
          have hmapped : evaluator.table.lookup t.enclosing ≠ none := by
            intro hunmapped
            cases hquery.symm.trans
              (PropertyTable.compile_eq_none_iff.mpr hunmapped)
          rw [search_of_noMailbox hquery]
          exact .noMailbox hmapped rfl
      | some mailbox =>
          have hasks : evaluator.Asks ⟨user, some mailbox⟩ t query mailbox
              (evaluator.searchRequest ⟨user⟩ query) := ⟨hquery, rfl, rfl⟩
          cases hsearch :
              mailbox.search (evaluator.searchRequest ⟨user⟩ query) with
          | error error =>
              rw [search_of_refused hquery hsearch]
              exact .refused hasks hsearch
          | ok cursor =>
              -- either way the release comes before the line that says how the
              -- search ended
              cases houtcome : cursor.outcome with
              | error error =>
                  have hdrain : cursor.drain.1 = .error error := by
                    rw [Cursor.drain_eq, houtcome]
                  rw [search_of_failed hquery hsearch houtcome,
                    BranchRecord.ofTrace_released]
                  exact .failed hasks hsearch hdrain
              | ok hits =>
                  have hdrain : cursor.drain.1 = .ok hits := by
                    rw [Cursor.drain_eq, houtcome]
                  have hlog :
                      evaluator.SearchLog ⟨user, some mailbox⟩ folder t _ :=
                    .answered hasks hsearch hdrain
                  rw [search_of_answered hquery hsearch houtcome,
                    List.length_map] at hlog
                  rw [search_of_answered hquery hsearch houtcome,
                    BranchRecord.ofTrace_released]
                  exact hlog

end Evaluator

/-! ## Listings -/

theorem listingLog_missing (evaluator : Evaluator) (context : RequestContext)
    (folder : UInt32) (property : String) :
    evaluator.ListingLog context folder property
      (.ofTrace (evaluator.missing property context folder).trace) := by
  obtain ⟨user, mailbox⟩ := context
  cases mailbox with
  | none => exact .noMailbox rfl
  | some mailbox =>
      obtain ⟨earlier, hlisting⟩ :=
        evaluator.exists_listing_listMissing mailbox user folder property
      cases hvalue :
          (evaluator.listMissing mailbox user folder property).value with
      | error error =>
          rw [Evaluator.missing_of_failed hvalue, BranchRecord.ofTrace,
            callsOf_append, eventsOf_append, hlisting.eventsOf_trace]
          simpa using .failed rfl hlisting hvalue
      | ok listed =>
          rw [Evaluator.missing_of_listed hvalue, BranchRecord.ofTrace,
            hlisting.eventsOf_trace]
          exact .answered rfl hlisting hvalue

def Evaluator.record (evaluator : Evaluator) (context : RequestContext)
    (folder : UInt32) (branch : Branch) : BranchRecord :=
  .ofTrace (evaluator.runBranch context folder branch).trace

theorem branchLog_record (evaluator : Evaluator) (context : RequestContext)
    (folder : UInt32) (branch : Branch) :
    evaluator.BranchLog context folder branch
      (evaluator.record context folder branch) := by
  cases branch with
  | search t => exact Evaluator.searchLog_search context t
  | listing property =>
      exact listingLog_missing evaluator context folder property

/-! ## Failures and warnings -/

/-- Whether the mailbox fails what the call asks.  A search has failed when it
was refused, and also when its cursor fails before its end; a failed release is
no failure of the search. -/
def Mailbox.fails (mailbox : Mailbox) : Call → Bool
  | .search request =>
    match mailbox.search request with
    | .error _ => true
    | .ok cursor =>
      match cursor.drain.1 with
      | .error _ => true
      | .ok _ => false
  | .page request =>
    match mailbox.page request with
    | .error _ => true
    | .ok _ => false
  | .release => false

def RequestContext.fails (context : RequestContext) (call : Call) : Bool :=
  context.mailbox.any (·.fails call)

theorem RequestContext.fails_eq {context : RequestContext} {mailbox : Mailbox}
    (hmailbox : context.mailbox = some mailbox) :
    context.fails = mailbox.fails := by
  funext call
  rw [fails, hmailbox, Option.any_some]

namespace BranchRecord

def warnings (record : BranchRecord) : Nat :=
  record.lines.countP (·.severity = .warn)

/-- The branch made at most one call that failed, and warned just then. -/
structure WarnsOnFailure (context : RequestContext) (record : BranchRecord) :
    Prop where
  warnings_eq : record.warnings = record.calls.countP context.fails
  failures_le : record.calls.countP context.fails ≤ 1

end BranchRecord

theorem LogLine.countP_warn_ofRelease (cursor : Cursor) :
    (LogLine.ofRelease cursor).countP (·.severity = .warn) = 0 := by
  unfold LogLine.ofRelease
  cases cursor.releaseFailure with
  | none => rfl
  | some error => rfl

/-- The release of a cursor adds no warning to the line that ends the search. -/
theorem BranchRecord.warnings_of_released (calls : List Call) (cursor : Cursor)
    (line : LogLine) :
    warnings ⟨calls, LogLine.ofRelease cursor ++ [line]⟩ =
      [line].countP (·.severity = .warn) := by
  rw [warnings, List.countP_append, LogLine.countP_warn_ofRelease,
    Nat.zero_add]

/-! ## Failures of a listing -/

section Listings

variable {mailbox : Mailbox} {keep : Contact → Bool} {request : PageRequest}
  {found : List Contact} {earlier : List (List Contact)} {calls : List Call}
  {listing : Traced Step (Except BackendError (List Contact))}

theorem Mailbox.fails_page_iff :
    mailbox.fails (.page request) = true ↔
      ∃ error, mailbox.page request = .error error := by
  unfold fails
  cases hpage : mailbox.page request with
  | error error => simp [hpage]
  | ok page => simp [hpage]

theorem PageRun.countP_fails_le (hrun : PageRun mailbox request calls) :
    calls.countP mailbox.fails ≤ 1 := by
  induction hrun with
  | last request => exact List.countP_le_length
  | more hpage hfull hrest ih =>
      rw [List.countP_cons_of_neg]
      · exact ih
      · rw [Mailbox.fails_page_iff, hpage]
        rintro ⟨error, hfailed⟩
        cases hfailed

/-- A call of a listing fails just if the listing does. -/
theorem Mailbox.Listing.exists_fails_iff
    (hlisting : mailbox.Listing keep request found earlier listing) :
    (∃ call ∈ callsOf listing.trace, mailbox.fails call = true) ↔
      ∃ error, listing.value = .error error := by
  constructor
  · rintro ⟨call, hcall, hfails⟩
    have hmade := hcall
    rw [hlisting.callsOf_trace, List.mem_map] at hmade
    obtain ⟨offset, -, rfl⟩ := hmade
    obtain ⟨error, hpage⟩ := fails_page_iff.mp hfails
    exact ⟨error,
      hlisting.value_error_iff.mpr ⟨offset, mem_callsOf.mp hcall, hpage⟩⟩
  · rintro ⟨error, hfailed⟩
    obtain ⟨offset, hcall, hpage⟩ := hlisting.value_error_iff.mp hfailed
    exact ⟨_, mem_callsOf.mpr hcall, fails_page_iff.mpr ⟨error, hpage⟩⟩

theorem Mailbox.Listing.countP_fails_of_error {error : BackendError}
    (hlisting : mailbox.Listing keep request found earlier listing)
    (hfailed : listing.value = .error error) :
    (callsOf listing.trace).countP mailbox.fails = 1 := by
  have hsome := List.countP_pos_iff.mpr
    (hlisting.exists_fails_iff.mpr ⟨error, hfailed⟩)
  exact Nat.le_antisymm hlisting.pageRun.countP_fails_le hsome

theorem Mailbox.Listing.countP_fails_of_ok {listed : List Contact}
    (hlisting : mailbox.Listing keep request found earlier listing)
    (hlisted : listing.value = .ok listed) :
    (callsOf listing.trace).countP mailbox.fails = 0 := by
  rw [List.countP_eq_zero]
  intro call hcall hfails
  obtain ⟨error, hfailed⟩ :=
    hlisting.exists_fails_iff.mp ⟨call, hcall, hfails⟩
  cases hlisted.symm.trans hfailed

end Listings

/-! ## Warnings of a branch -/

namespace Evaluator

variable {evaluator : Evaluator} {context : RequestContext} {folder : UInt32}
  {record : BranchRecord}

theorem SearchLog.warnsOnFailure {t : TextMatch}
    (hlog : evaluator.SearchLog context folder t record) :
    record.WarnsOnFailure context := by
  cases hlog with
  | unmapped hmapped => exact ⟨rfl, Nat.zero_le _⟩
  | noMailbox hmapped hmailbox => exact ⟨rfl, Nat.zero_le _⟩
  | @refused query mailbox request error hasks hsearch =>
      have hcalls : [Call.search request].countP context.fails = 1 := by
        simp [RequestContext.fails_eq hasks.mailbox_eq, Mailbox.fails, hsearch]
      exact ⟨hcalls.symm, hcalls.le⟩
  | @failed query mailbox request cursor error hasks hsearch hdrain =>
      have hcalls :
          [Call.search request, .release].countP context.fails = 1 := by
        simp [RequestContext.fails_eq hasks.mailbox_eq, Mailbox.fails, hsearch,
          hdrain]
      refine ⟨?_, hcalls.le⟩
      rw [BranchRecord.warnings_of_released, hcalls]
      rfl
  | @answered query mailbox request cursor hits hasks hsearch hdrain =>
      have hcalls :
          [Call.search request, .release].countP context.fails = 0 := by
        simp [RequestContext.fails_eq hasks.mailbox_eq, Mailbox.fails, hsearch,
          hdrain]
      refine ⟨?_, hcalls.trans_le (Nat.zero_le _)⟩
      rw [BranchRecord.warnings_of_released, hcalls]
      rfl

theorem ListingLog.warnsOnFailure {property : String}
    (hlog : evaluator.ListingLog context folder property record) :
    record.WarnsOnFailure context := by
  cases hlog with
  | noMailbox hmailbox => exact ⟨rfl, Nat.zero_le _⟩
  | @failed mailbox earlier listing error hmailbox hlisting hfailed =>
      have hcalls : (callsOf listing.trace).countP context.fails = 1 := by
        rw [RequestContext.fails_eq hmailbox,
          hlisting.countP_fails_of_error hfailed]
      exact ⟨hcalls.symm, hcalls.le⟩
  | @answered mailbox earlier listing listed hmailbox hlisting hlisted =>
      have hcalls : (callsOf listing.trace).countP context.fails = 0 := by
        rw [RequestContext.fails_eq hmailbox,
          hlisting.countP_fails_of_ok hlisted]
      exact ⟨hcalls.symm, hcalls.trans_le (Nat.zero_le _)⟩

theorem BranchLog.warnsOnFailure {branch : Branch}
    (hlog : evaluator.BranchLog context folder branch record) :
    record.WarnsOnFailure context := by
  cases branch with
  | search t => exact SearchLog.warnsOnFailure hlog
  | listing property => exact ListingLog.warnsOnFailure hlog

end Evaluator

/-! ## The whole log -/

def BranchRecord.fails (record : BranchRecord) (context : RequestContext) :
    Bool :=
  record.calls.any context.fails

theorem BranchRecord.WarnsOnFailure.countP_fails {context : RequestContext}
    {record : BranchRecord} (hwarns : record.WarnsOnFailure context) :
    record.calls.countP context.fails =
      if record.fails context then 1 else 0 := by
  have hle := hwarns.failures_le
  by_cases hfails : record.fails context = true
  · have hpos : 0 < record.calls.countP context.fails :=
      List.countP_pos_iff.mpr (List.any_eq_true.mp hfails)
    rw [if_pos hfails]
    omega
  · rw [if_neg hfails, List.countP_eq_zero]
    intro call hcall hfailed
    exact hfails (List.any_eq_true.mpr ⟨call, hcall, hfailed⟩)

section Runs

variable {context : RequestContext} {records : List BranchRecord}

theorem countP_warn_records
    (hwarns : ∀ record ∈ records, record.WarnsOnFailure context) :
    (records.flatMap (·.lines)).countP (·.severity = .warn) =
      (records.flatMap (·.calls)).countP context.fails := by
  induction records with
  | nil => rfl
  | cons record rest ih =>
      obtain ⟨hrecord, hrest⟩ := List.forall_mem_cons.mp hwarns
      rw [List.flatMap_cons, List.flatMap_cons, List.countP_append,
        List.countP_append, ih hrest, ← hrecord.warnings_eq,
        BranchRecord.warnings]

theorem countP_fails_records
    (hwarns : ∀ record ∈ records, record.WarnsOnFailure context) :
    (records.flatMap (·.calls)).countP context.fails =
      records.countP (·.fails context) := by
  induction records with
  | nil => rfl
  | cons record rest ih =>
      obtain ⟨hrecord, hrest⟩ := List.forall_mem_cons.mp hwarns
      rw [List.flatMap_cons, List.countP_append, ih hrest, List.countP_cons,
        hrecord.countP_fails, Nat.add_comm]

end Runs

namespace Evaluator

theorem callsOf_evaluate_records (evaluator : Evaluator)
    (context : RequestContext) (folder : UInt32) (filter : Filter) :
    callsOf (evaluator.evaluate filter context folder).trace =
      (filter.branches.map (evaluator.record context folder)).flatMap
        (·.calls) := by
  rw [trace_evaluate_branches, callsOf_flatMap, List.flatMap_map]
  rfl

theorem lines_evaluate_records (evaluator : Evaluator)
    (context : RequestContext) (folder : UInt32) (filter : Filter) :
    (eventsOf (evaluator.evaluate filter context folder).trace).map Event.line =
      (filter.branches.map (evaluator.record context folder)).flatMap
        (·.lines) := by
  rw [trace_evaluate_branches, eventsOf_flatMap, List.map_flatMap,
    List.flatMap_map]
  rfl

/-- Whatever an evaluation meets, its log is made of the lines of its branches,
in the order of the prop-filters and within one in the order of its
param-filters: one line for each search, with a line before it for a cursor that
was not released as it should be, and for each listing a line if it could not be
made.  The warnings count the searches and listings in which the mailbox failed,
each of them in one call. -/
theorem evaluate_log_of_branches (evaluator : Evaluator)
    (context : RequestContext) (folder : UInt32) (filter : Filter) :
    ∃ records,
      List.Forall₂ (evaluator.BranchLog context folder) filter.branches
        records ∧
      callsOf (evaluator.evaluate filter context folder).trace =
        records.flatMap (·.calls) ∧
      (eventsOf (evaluator.evaluate filter context folder).trace).map
          Event.line =
        records.flatMap (·.lines) ∧
      (eventsOf (evaluator.evaluate filter context folder).trace).countP
          (·.severity = .warn) =
        records.countP (·.fails context) ∧
      (callsOf (evaluator.evaluate filter context folder).trace).countP
          context.fails =
        records.countP (·.fails context) := by
  have hlogs : List.Forall₂ (evaluator.BranchLog context folder) filter.branches
      (filter.branches.map (evaluator.record context folder)) := by
    rw [List.forall₂_map_right_iff, List.forall₂_same]
    intro branch _
    exact branchLog_record evaluator context folder branch
  have hwarns :
      ∀ record ∈ filter.branches.map (evaluator.record context folder),
        record.WarnsOnFailure context := by
    rw [List.forall_mem_map]
    intro branch _
    exact (branchLog_record evaluator context folder branch).warnsOnFailure
  have hcalls := callsOf_evaluate_records evaluator context folder filter
  have hlines := lines_evaluate_records evaluator context folder filter
  have hwarnings :
      (eventsOf (evaluator.evaluate filter context folder).trace).countP
          (·.severity = .warn) =
        ((eventsOf (evaluator.evaluate filter context folder).trace).map
          Event.line).countP (·.severity = .warn) := by
    rw [List.countP_map]
    rfl
  refine ⟨filter.branches.map (evaluator.record context folder), hlogs, hcalls,
    hlines, ?_, ?_⟩
  · rw [hwarnings, hlines, countP_warn_records hwarns,
      countP_fails_records hwarns]
  · rw [hcalls, countP_fails_records hwarns]

/-- A search that is refused, one of a property without mapping, one whose
cursor fails both to deliver and to be released, and a listing that is
answered. -/
example :
    (eventsOf ((Evaluator.mk .cardDav default).evaluate
        { test := .anyOf
          propFilters :=
            [⟨"NICKNAME", false, some (.ofPattern "NICKNAME" "al" false), []⟩,
              ⟨"TITLE", false, none,
                [⟨"LANGUAGE", false, some (.ofPattern "LANGUAGE" "en" false)⟩,
                  ⟨"TITLE", false, some (.ofPattern "TITLE" "boss" true)⟩]⟩,
              ⟨"TITLE", true, none, []⟩] }
        ⟨"user", some ((InMemory.mailbox []).withFaults
          { Faults.harmless with
            failKeys := ["nickname"], failNextAfter := some 0,
            failRelease := true })⟩ 7).trace).map Event.line =
      [.searchFailed (.search "index for nickname offline")
        ⟨false, [⟨"nickname", "al"⟩]⟩, .unmapped "LANGUAGE",
        ⟨.debug, "can't release search results",
          [("error",
            .text "Failed to release search results: already closed")]⟩,
        .searchFailed (.search "index corrupted")
          ⟨true, [⟨"jobTitle", "boss"⟩]⟩] := by
  decide +kernel

end Evaluator

end AddressBook

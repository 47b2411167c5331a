import AddressBook.Mailbox.Faults
import AddressBook.Proofs.AbsenceListing
import Mathlib.Data.List.Forall2

/-!
# The calls of an evaluation

Whatever the mailbox answers, the calls of an evaluation fall into one block for
each prop-filter: a run of pages for an absence, and for a text-match a search
with the release of its cursor, or alone if it was refused.  `Orderly` holds of
every block and passes to their concatenation: at most one cursor is open at any
moment, and none in the end.
-/

namespace AddressBook

/-! ## Blocks -/

/-- A run of pages: each starts where the one before it ended, and only a page
that brought contacts is followed by another. -/
inductive PageRun (mailbox : Mailbox) : PageRequest → List Call → Prop
  | last (request : PageRequest) : PageRun mailbox request [.page request]
  | more {request : PageRequest} {page : List Contact} {calls : List Call}
      (hpage : mailbox.page request = .ok page) (hfull : page ≠ [])
      (hrest :
        PageRun mailbox { request with offset := request.offset + page.length }
          calls) :
      PageRun mailbox request (.page request :: calls)

/-- A search that the mailbox refused, or one with the release of its cursor. -/
inductive SearchBlock (mailbox : Mailbox) (request : SearchRequest) :
    List Call → Prop
  | refused {error : BackendError}
      (hsearch : mailbox.search request = .error error) :
      SearchBlock mailbox request [.search request]
  | released {cursor : Cursor} (hsearch : mailbox.search request = .ok cursor) :
      SearchBlock mailbox request [.search request, .release]

namespace Evaluator

variable (evaluator : Evaluator) (mailbox : Mailbox) (user : String)
  (folder : UInt32)

inductive TextBlock (t : TextMatch) : List Call → Prop
  | unmapped (hmapped : evaluator.table.lookup t.enclosing = none) :
      TextBlock t []
  | mapped {query : Query} {calls : List Call}
      (hquery : evaluator.table.compileTextMatch t = some query)
      (hcalls :
        SearchBlock mailbox (evaluator.searchRequest ⟨user⟩ query) calls) :
      TextBlock t calls

inductive ParamBlock (p : ParamFilter) : List Call → Prop
  | unconstrained (htext : p.textMatch = none) : ParamBlock p []
  | tested {t : TextMatch} {calls : List Call} (htext : p.textMatch = some t)
      (hcalls : TextBlock evaluator mailbox user t calls) : ParamBlock p calls

inductive PropBlock (p : PropFilter) : List Call → Prop
  | absence {calls : List Call} (hpresence : p.isNotDefined = true)
      (hcalls : PageRun mailbox (evaluator.pageRequest ⟨user⟩ folder) calls) :
      PropBlock p calls
  | tested {t : TextMatch} {calls : List Call}
      (hpresence : p.isNotDefined = false) (htext : p.textMatch = some t)
      (hcalls : TextBlock evaluator mailbox user t calls) :
      PropBlock p calls
  | params {blocks : List (List Call)} (hpresence : p.isNotDefined = false)
      (htext : p.textMatch = none)
      (hblocks :
        List.Forall₂ (ParamBlock evaluator mailbox user) p.paramFilters
          blocks) :
      PropBlock p blocks.flatten

end Evaluator

/-! ## The evaluation makes its calls in blocks -/

theorem exists_blocks {α : Type} {block : α → List Call → Prop}
    {run : α → List Step} {xs : List α}
    (hblock : ∀ x ∈ xs, block x (callsOf (run x))) :
    ∃ blocks, List.Forall₂ block xs blocks ∧
      callsOf (xs.flatMap run) = blocks.flatten := by
  refine ⟨xs.map fun x => callsOf (run x), ?_, ?_⟩
  · rw [List.forall₂_map_right_iff, List.forall₂_same]
    exact hblock
  · rw [callsOf_flatMap, List.flatMap_def]

section Runs

variable {mailbox : Mailbox} {user : String} {folder : UInt32}

/-- Pages that were answered one after another, and a last one after them. -/
theorem PageRun.ofPages {pages : List (List Contact)} {request : PageRequest}
    (hpages : ∀ before page after, pages = before ++ page :: after →
      mailbox.page
          { request with offset := request.offset + before.flatten.length } =
        .ok page ∧ page ≠ []) :
    PageRun mailbox request
      (((pages.map List.length).scanl (· + ·) request.offset).map
        fun offset => .page { request with offset := offset }) := by
  induction pages generalizing request with
  | nil => exact .last request
  | cons page rest ih =>
      obtain ⟨hpage, hfull⟩ := hpages [] page rest rfl
      rw [List.map_cons, List.scanl_cons, List.map_cons]
      apply PageRun.more hpage hfull
      apply ih
      intro before next after hsplit
      have hnext := hpages (page :: before) next after (by rw [hsplit]; rfl)
      simpa [Nat.add_assoc] using hnext

theorem Mailbox.Listing.pageRun {keep : Contact → Bool} {request : PageRequest}
    {found : List Contact} {earlier : List (List Contact)}
    {listing : Traced Step (Except BackendError (List Contact))}
    (hlisting : mailbox.Listing keep request found earlier listing) :
    PageRun mailbox request (callsOf listing.trace) := by
  rw [hlisting.callsOf_trace]
  apply PageRun.ofPages
  intro before page after hsplit
  obtain ⟨hfull, hmore⟩ := hlisting.wanted before page after hsplit
  refine ⟨hlisting.answered before page after hsplit, ?_⟩
  apply List.ne_nil_of_length_pos
  omega

namespace Evaluator

variable {evaluator : Evaluator}

theorem textBlock_search (t : TextMatch) :
    evaluator.TextBlock mailbox user t
      (callsOf (evaluator.search t ⟨user, some mailbox⟩ folder).trace) := by
  cases hquery : evaluator.table.compileTextMatch t with
  | none =>
      rw [search_of_unmapped hquery]
      exact .unmapped (PropertyTable.compile_eq_none_iff.mp hquery)
  | some query =>
      apply TextBlock.mapped hquery
      cases hsearch : mailbox.search (evaluator.searchRequest ⟨user⟩ query) with
      | error error =>
          rw [search_of_refused hquery hsearch]
          exact .refused hsearch
      | ok cursor =>
          -- the cursor is released whether it failed or came to its end
          cases houtcome : cursor.outcome with
          | error error =>
              rw [search_of_failed hquery hsearch houtcome]
              simpa using SearchBlock.released hsearch
          | ok hits =>
              rw [search_of_answered hquery hsearch houtcome]
              simpa using SearchBlock.released hsearch

theorem pageRun_missing (property : String) :
    PageRun mailbox (evaluator.pageRequest ⟨user⟩ folder)
      (callsOf
        (evaluator.missing property ⟨user, some mailbox⟩ folder).trace) := by
  obtain ⟨earlier, hlisted⟩ :=
    exists_listing_listMissing evaluator mailbox user folder property
  have hrun : PageRun mailbox (evaluator.pageRequest ⟨user⟩ folder)
      (callsOf (evaluator.listMissing mailbox user folder property).trace) :=
    hlisted.pageRun
  cases hlisting :
      (evaluator.listMissing mailbox user folder property).value with
  | error error =>
      rw [missing_of_failed hlisting]
      simpa using hrun
  | ok listed =>
      rw [missing_of_listed hlisting]
      exact hrun

theorem paramBlock_evaluateParam (p : ParamFilter) :
    evaluator.ParamBlock mailbox user p
      (callsOf
        (evaluator.evaluateParam p ⟨user, some mailbox⟩ folder).trace) := by
  unfold evaluateParam
  cases htext : p.textMatch with
  | none => exact .unconstrained htext
  | some t => exact .tested htext (textBlock_search t)

theorem propBlock_evaluateProp (p : PropFilter) :
    evaluator.PropBlock mailbox user folder p
      (callsOf
        (evaluator.evaluateProp p ⟨user, some mailbox⟩ folder).trace) := by
  cases hpresence : p.isNotDefined with
  | true =>
      rw [evaluateProp_of_absence _ _ _ hpresence]
      exact .absence hpresence (pageRun_missing p.name)
  | false =>
      cases htext : p.textMatch with
      | some t =>
          rw [evaluateProp_of_textMatch _ _ _ hpresence htext]
          exact .tested hpresence htext (textBlock_search t)
      | none =>
          rw [evaluateProp_of_params _ _ _ hpresence htext, Traced.trace_map,
            Traced.trace_collect, List.flatMap_map]
          have hparams :
              ∀ param ∈ p.paramFilters, evaluator.ParamBlock mailbox user param
                (callsOf
                  (evaluator.evaluateParam param ⟨user, some mailbox⟩
                    folder).trace) := by
            intro param _
            exact paramBlock_evaluateParam param
          obtain ⟨blocks, hblocks, hcalls⟩ := exists_blocks hparams
          rw [hcalls]
          exact .params hpresence htext hblocks

end Evaluator

end Runs

/-! ## What holds of every block -/

/-- The call is made for the user, in the configured order and within the
configured limit. -/
def Call.Carries (user : String) (config : Config) : Call → Prop
  | .search request =>
    request.account = user ∧ request.sort = config.sort ∧
    request.limit = config.maxResults
  | .page request =>
    request.account = user ∧ request.sort = config.sort ∧
    request.limit = config.maxResults
  | .release => True

structure Orderly (mailbox : Mailbox) (user : String) (config : Config)
    (calls : List Call) : Prop where
  carries : ∀ call ∈ calls, call.Carries user config
  atMostOneOpen : ∀ before, before <+: calls →
    mailbox.openAfter before = 0 ∨ mailbox.openAfter before = 1
  noneOpen : mailbox.openAfter calls = 0

namespace Orderly

variable {mailbox : Mailbox} {user : String} {config : Config}
  {calls first second : List Call}

theorem nil : Orderly mailbox user config [] := by
  constructor
  · intro call hcall
    cases hcall
  · intro before hbefore
    rw [List.prefix_nil.mp hbefore]
    exact Or.inl rfl
  · rfl

theorem append (hfirst : Orderly mailbox user config first)
    (hsecond : Orderly mailbox user config second) :
    Orderly mailbox user config (first ++ second) := by
  constructor
  · intro call hcall
    rcases List.mem_append.mp hcall with hcall | hcall
    · exact hfirst.carries call hcall
    · exact hsecond.carries call hcall
  · intro before hbefore
    obtain ⟨after, hafter⟩ := hbefore
    rcases List.append_eq_append_iff.mp hafter with
      ⟨rest, hrest, -⟩ | ⟨rest, hrest, htail⟩
    · exact hfirst.atMostOneOpen before ⟨rest, hrest.symm⟩
    · -- the first run is over, so only the calls of the second count
      rw [hrest, Mailbox.openAfter_append, hfirst.noneOpen, Int.zero_add]
      exact hsecond.atMostOneOpen rest ⟨after, htail.symm⟩
  · rw [Mailbox.openAfter_append, hfirst.noneOpen, hsecond.noneOpen]
    rfl

theorem flatten {α : Type} {block : α → List Call → Prop} {xs : List α}
    {blocks : List (List Call)} (hblocks : List.Forall₂ block xs blocks)
    (horderly : ∀ x calls, block x calls → Orderly mailbox user config calls) :
    Orderly mailbox user config blocks.flatten := by
  induction hblocks with
  | nil => exact nil
  | cons hblock _ ih =>
      rw [List.flatten_cons]
      exact append (horderly _ _ hblock) ih

/-- A call that opens no cursor and closes none. -/
theorem single {call : Call} (hcarries : call.Carries user config)
    (hopened : mailbox.openedBy call = 0) :
    Orderly mailbox user config [call] := by
  constructor
  · intro other hother
    rw [List.mem_singleton.mp hother]
    exact hcarries
  · intro before hbefore
    left
    rcases List.prefix_cons_iff.mp hbefore with rfl | ⟨rest, rfl, hrest⟩
    · rfl
    · rw [List.prefix_nil.mp hrest]
      simp [Mailbox.openAfter, hopened]
  · simp [Mailbox.openAfter, hopened]

theorem openedAndReleased {request : SearchRequest}
    (hcarries : (Call.search request).Carries user config)
    (hopened : mailbox.openedBy (.search request) = 1) :
    Orderly mailbox user config [.search request, .release] := by
  have hreleased : mailbox.openedBy .release = -1 := rfl
  constructor
  · intro call hcall
    rcases List.mem_pair.mp hcall with rfl | rfl
    · exact hcarries
    · trivial
  · intro before hbefore
    rcases List.prefix_cons_iff.mp hbefore with rfl | ⟨rest, rfl, hrest⟩
    · exact Or.inl rfl
    · rcases List.prefix_cons_iff.mp hrest with rfl | ⟨last, rfl, hlast⟩
      · -- between the search and its release
        right
        simp [Mailbox.openAfter, hopened]
      · left
        rw [List.prefix_nil.mp hlast]
        simp [Mailbox.openAfter, hopened, hreleased]
  · simp [Mailbox.openAfter, hopened, hreleased]

end Orderly

section Blocks

variable {mailbox : Mailbox} {user : String} {folder : UInt32} {config : Config}
  {calls : List Call}

theorem PageRun.orderly {request : PageRequest}
    (hrun : PageRun mailbox request calls)
    (hcarries : (Call.page request).Carries user config) :
    Orderly mailbox user config calls := by
  induction hrun with
  | last request => exact Orderly.single hcarries rfl
  | more hpage hfull hrest ih =>
      exact (Orderly.single hcarries rfl).append (ih hcarries)

theorem SearchBlock.orderly {request : SearchRequest}
    (hblock : SearchBlock mailbox request calls)
    (hcarries : (Call.search request).Carries user config) :
    Orderly mailbox user config calls := by
  cases hblock with
  | refused hsearch =>
      apply Orderly.single hcarries
      simp [Mailbox.openedBy, hsearch]
  | released hsearch =>
      apply Orderly.openedAndReleased hcarries
      simp [Mailbox.openedBy, hsearch]

namespace Evaluator

variable {evaluator : Evaluator}

theorem TextBlock.orderly {t : TextMatch}
    (hblock : evaluator.TextBlock mailbox user t calls) :
    Orderly mailbox user evaluator.config calls := by
  cases hblock with
  | unmapped => exact Orderly.nil
  | mapped hquery hcalls => exact hcalls.orderly ⟨rfl, rfl, rfl⟩

theorem ParamBlock.orderly {p : ParamFilter}
    (hblock : evaluator.ParamBlock mailbox user p calls) :
    Orderly mailbox user evaluator.config calls := by
  cases hblock with
  | unconstrained => exact Orderly.nil
  | tested htext hcalls => exact hcalls.orderly

theorem PropBlock.orderly {p : PropFilter}
    (hblock : evaluator.PropBlock mailbox user folder p calls) :
    Orderly mailbox user evaluator.config calls := by
  cases hblock with
  | absence hpresence hcalls => exact hcalls.orderly ⟨rfl, rfl, rfl⟩
  | tested hpresence htext hcalls => exact hcalls.orderly
  | params hpresence htext hblocks =>
      apply Orderly.flatten hblocks
      intro param calls hblock
      exact hblock.orderly

end Evaluator

end Blocks

namespace Evaluator

/-- Whatever the mailbox answers, the calls of an evaluation are one block for
each prop-filter, in their order; every search and page is made for the user, in
the configured order and within the configured limit; at any moment no cursor is
open or one is, and the evaluation leaves as many open as it found. -/
theorem evaluate_calls_in_blocks (evaluator : Evaluator) (mailbox : Mailbox)
    (user : String) (folder : UInt32) (filter : Filter) :
    (∃ blocks,
      List.Forall₂ (evaluator.PropBlock mailbox user folder) filter.propFilters
        blocks ∧
      callsOf (evaluator.evaluate filter ⟨user, some mailbox⟩ folder).trace =
        blocks.flatten) ∧
    (∀ call ∈
        callsOf (evaluator.evaluate filter ⟨user, some mailbox⟩ folder).trace,
      call.Carries user evaluator.config) ∧
    (∀ before,
      before <+:
        callsOf (evaluator.evaluate filter ⟨user, some mailbox⟩ folder).trace →
      mailbox.openAfter before = 0 ∨ mailbox.openAfter before = 1) ∧
    (∀ earlier,
      mailbox.openAfter
          (earlier ++
            callsOf
              (evaluator.evaluate filter ⟨user, some mailbox⟩ folder).trace) =
        mailbox.openAfter earlier) := by
  have hprops :
      ∀ p ∈ filter.propFilters, evaluator.PropBlock mailbox user folder p
        (callsOf
          (evaluator.evaluateProp p ⟨user, some mailbox⟩ folder).trace) := by
    intro p _
    exact propBlock_evaluateProp p
  obtain ⟨blocks, hblocks, hcalls⟩ := exists_blocks hprops
  have horderly : Orderly mailbox user evaluator.config blocks.flatten := by
    apply Orderly.flatten hblocks
    intro p calls hblock
    exact hblock.orderly
  rw [trace_evaluate, hcalls]
  refine ⟨⟨blocks, hblocks, rfl⟩, horderly.carries, horderly.atMostOneOpen, ?_⟩
  intro earlier
  rw [Mailbox.openAfter_append, horderly.noneOpen, Int.add_zero]

end Evaluator

/-- Refuses searches for nicknames, and fails at the first delivery of the
others. -/
def halfOffline : Faults :=
  { Faults.harmless with failKeys := ["nickname"], failNextAfter := some 0 }

def nicknameOrTitle : Filter where
  test := .anyOf
  propFilters :=
    [⟨"NICKNAME", false, some (.ofPattern "NICKNAME" "al" false), []⟩,
      ⟨"X-LANGUAGE", false, some (.ofPattern "X-LANGUAGE" "en" false), []⟩,
      ⟨"TITLE", false, some (.ofPattern "TITLE" "boss" false), []⟩,
      ⟨"TITLE", true, none, []⟩]

/-- The refused search stands alone, the one that failed on the way is released,
and the unmapped property is not searched for. -/
theorem nicknameOrTitle_calls :
    callsOf ((Evaluator.mk .cardDav default).evaluate nicknameOrTitle
        ⟨"user", some ((InMemory.mailbox []).withFaults halfOffline)⟩ 7).trace =
      [.search
        ⟨"user", ⟨false, [⟨"nickname", "al"⟩]⟩, [.contact], .nameAscending,
          100⟩,
        .search
          ⟨"user", ⟨false, [⟨"jobTitle", "boss"⟩]⟩, [.contact], .nameAscending,
            100⟩,
        .release, .page ⟨"user", 7, .nameAscending, 0, 100⟩] ∧
    ((InMemory.mailbox []).withFaults halfOffline).openAfter
      (callsOf ((Evaluator.mk .cardDav default).evaluate nicknameOrTitle
        ⟨"user", some ((InMemory.mailbox []).withFaults halfOffline)⟩
          7).trace) = 0 := by
  constructor
  · decide +kernel
  · obtain ⟨-, -, -, hopen⟩ :=
      Evaluator.evaluate_calls_in_blocks ⟨.cardDav, default⟩
        ((InMemory.mailbox []).withFaults halfOffline) "user" 7 nicknameOrTitle
    exact hopen []

end AddressBook

import AddressBook.Mailbox.Client
import Mathlib.Data.Finset.Card
import Mathlib.Data.List.Induction

/-!
# Histories of a client

A client may open any number of cursors on an in-memory mailbox and use them in
any order.  What is due to each of them is read off the actions alone: the
searches made, the moments at which a cursor was dropped or released, and how
often it was asked while it was open.  Each reading is followed from a run to
the run with one more action.
-/

namespace AddressBook

namespace History

/-! ## Reading a run -/

/-- The searches of a run with whether their cursors are guarded.  The place of
a cursor is the place of its search among them. -/
def opened (actions : List ClientAction) : List (SearchRequest × Bool) :=
  actions.filterMap fun
    | .search request guarded => some (request, guarded)
    | _ => none

def guard? (actions : List ClientAction) (place : Nat) : Option Bool :=
  (opened actions)[place]?.map (·.2)

/-- The moments at which an action is taken, under a condition on the actions
before it. -/
def moments (actions : List ClientAction) (action : ClientAction)
    (condition : List ClientAction → Prop) [DecidablePred condition] :
    List Nat :=
  (List.range actions.length).filter fun moment =>
    actions[moment]? = some action ∧ condition (actions.take moment)

/-- The cursor has been opened and later dropped. -/
def Dropped (actions : List ClientAction) (place : Nat) : Prop :=
  moments actions (.drop place)
    (fun before => place < (opened before).length) ≠ []

instance (actions : List ClientAction) (place : Nat) :
    Decidable (Dropped actions place) :=
  inferInstanceAs (Decidable (_ ≠ _))

/-- The cursor has been released: a bare one on demand, before it was dropped, a
guarded one by dropping it. -/
def Released (actions : List ClientAction) (place : Nat) : Prop :=
  moments actions (.release place)
      (fun before =>
        guard? before place = some false ∧ ¬Dropped before place) ≠ [] ∨
    moments actions (.drop place)
      (fun before => guard? before place = some true) ≠ []

instance (actions : List ClientAction) (place : Nat) :
    Decidable (Released actions place) :=
  inferInstanceAs (Decidable (_ ≠ _ ∨ _ ≠ _))

/-- How often the cursor has been asked for a hit while it was open. -/
def asked (actions : List ClientAction) (place : Nat) : Nat :=
  (moments actions (.next place) fun before =>
    place < (opened before).length ∧ ¬Dropped before place ∧
      ¬Released before place).length

def openCursors (actions : List ClientAction) : Finset Nat :=
  (Finset.range (opened actions).length).filter fun place =>
    ¬Released actions place

section Readings

variable {past : List ClientAction} {action latest : ClientAction} {place : Nat}

@[simp] theorem opened_concat_search (request : SearchRequest)
    (guarded : Bool) :
    opened (past ++ [.search request guarded]) =
      opened past ++ [(request, guarded)] := by
  simp [opened]

theorem opened_concat_of_not_search
    (hlatest : ∀ request guarded, latest ≠ .search request guarded) :
    opened (past ++ [latest]) = opened past := by
  cases latest with
  | search request guarded => exact absurd rfl (hlatest request guarded)
  | _ => simp [opened]

theorem length_opened_le_concat :
    (opened past).length ≤ (opened (past ++ [latest])).length := by
  cases latest <;> simp [opened]

theorem lt_length_of_guard? {guarded : Bool}
    (hguard : guard? past place = some guarded) :
    place < (opened past).length := by
  by_contra hbeyond
  simp [guard?, Nat.not_lt.mp hbeyond] at hguard

theorem guard?_concat {guarded : Bool}
    (hguard : guard? past place = some guarded) :
    guard? (past ++ [latest]) place = some guarded := by
  have hinside : place < (opened past).length := lt_length_of_guard? hguard
  unfold guard? at hguard ⊢
  cases latest with
  | search request other =>
      rw [opened_concat_search, List.getElem?_append_left hinside]
      exact hguard
  | _ => simpa [opened] using hguard

/-- The last moment of a longer run is judged by the run before it. -/
theorem moments_concat (condition : List ClientAction → Prop)
    [DecidablePred condition] :
    moments (past ++ [latest]) action condition =
      moments past action condition ++
        if latest = action ∧ condition past then [past.length] else [] := by
  have hearlier : (List.range past.length).filter (fun moment =>
        (past ++ [latest])[moment]? = some action ∧
        condition ((past ++ [latest]).take moment)) =
      moments past action condition := by
    unfold moments
    apply List.filter_congr
    intro moment hmoment
    have hinside : moment < past.length := List.mem_range.mp hmoment
    rw [List.getElem?_append_left hinside,
      List.take_append_of_le_length hinside.le]
  have hlast : (past ++ [latest])[past.length]? = some latest := by simp
  have hbefore : (past ++ [latest]).take past.length = past := by simp
  rw [← hearlier, moments, List.length_append, List.length_singleton,
    List.range_succ, List.filter_append]
  congr 1
  simp only [List.filter_singleton, hlast, hbefore, Option.some.injEq]
  by_cases hnow : latest = action ∧ condition past <;> simp [hnow]

theorem dropped_concat :
    Dropped (past ++ [latest]) place ↔
      Dropped past place ∨
        latest = .drop place ∧ place < (opened past).length := by
  unfold Dropped
  rw [moments_concat]
  split <;> simp_all

theorem released_concat :
    Released (past ++ [latest]) place ↔
      Released past place ∨
        latest = .release place ∧ guard? past place = some false ∧
        ¬Dropped past place ∨
        latest = .drop place ∧ guard? past place = some true := by
  unfold Released
  rw [moments_concat, moments_concat]
  split <;> split <;> simp_all

theorem asked_concat :
    asked (past ++ [latest]) place =
      asked past place +
        if latest = .next place ∧ place < (opened past).length ∧
            ¬Dropped past place ∧ ¬Released past place then 1
        else 0 := by
  unfold asked
  rw [moments_concat, List.length_append]
  split <;> simp_all

/-! A cursor is neither dropped nor released nor asked before it is opened. -/

theorem lt_length_of_dropped (hdropped : Dropped past place) :
    place < (opened past).length := by
  induction past using List.reverseRecOn with
  | nil => exact absurd rfl hdropped
  | append_singleton past latest ih =>
      have hinside : place < (opened past).length := by
        rcases dropped_concat.mp hdropped with hearlier | ⟨-, hnow⟩
        · exact ih hearlier
        · exact hnow
      exact hinside.trans_le length_opened_le_concat

theorem lt_length_of_released (hreleased : Released past place) :
    place < (opened past).length := by
  induction past using List.reverseRecOn with
  | nil => simp [Released, moments] at hreleased
  | append_singleton past latest ih =>
      have hinside : place < (opened past).length := by
        rcases released_concat.mp hreleased with
          hearlier | ⟨-, hbare, -⟩ | ⟨-, hguarded⟩
        · exact ih hearlier
        · exact lt_length_of_guard? hbare
        · exact lt_length_of_guard? hguarded
      exact hinside.trans_le length_opened_le_concat

theorem asked_of_unopened (hbeyond : (opened past).length ≤ place) :
    asked past place = 0 := by
  induction past using List.reverseRecOn with
  | nil => rfl
  | append_singleton past latest ih =>
      have hearlier : (opened past).length ≤ place :=
        length_opened_le_concat.trans hbeyond
      rw [asked_concat, ih hearlier]
      simp [Nat.not_lt.mpr hearlier]

/-- For a guarded cursor to be released is to be dropped. -/
theorem released_iff_dropped (hguarded : guard? past place = some true) :
    Released past place ↔ Dropped past place := by
  induction past using List.reverseRecOn with
  | nil => simp [guard?, opened] at hguarded
  | append_singleton past latest ih =>
      rw [released_concat, dropped_concat]
      -- Up to its opening the cursor is neither; from then on the latest action
      -- decides.
      by_cases hopened : place < (opened past).length
      · have hearlier : guard? past place = some true := by
          obtain ⟨guarded, hguard⟩ :
              ∃ guarded, guard? past place = some guarded := by
            simp [guard?, hopened]
          have hsame := (guard?_concat hguard).symm.trans hguarded
          rw [hguard, hsame]
        simp [ih hearlier, hearlier, hopened]
      · have hunopened : ∀ guarded, guard? past place ≠ some guarded := by
          intro guarded hguard
          exact hopened (lt_length_of_guard? hguard)
        have hunreleased : ¬Released past place :=
          fun h => hopened (lt_length_of_released h)
        have hundropped : ¬Dropped past place :=
          fun h => hopened (lt_length_of_dropped h)
        simp [hunopened, hunreleased, hundropped, hopened]

/-! Actions that concern one cursor leave the others alone. -/

def subject? : ClientAction → Option Nat
  | .next place => some place
  | .release place => some place
  | .drop place => some place
  | _ => none

theorem dropped_concat_of_other (hother : subject? latest ≠ some place) :
    Dropped (past ++ [latest]) place ↔ Dropped past place := by
  rw [dropped_concat, or_iff_left]
  rintro ⟨rfl, -⟩
  exact hother rfl

theorem released_concat_of_other (hother : subject? latest ≠ some place) :
    Released (past ++ [latest]) place ↔ Released past place := by
  rw [released_concat, or_iff_left]
  rintro (⟨rfl, -⟩ | ⟨rfl, -⟩)
  · exact hother rfl
  · exact hother rfl

theorem asked_concat_of_other (hother : subject? latest ≠ some place) :
    asked (past ++ [latest]) place = asked past place := by
  rw [asked_concat, if_neg, Nat.add_zero]
  rintro ⟨rfl, -⟩
  exact hother rfl

theorem openCursors_concat_of_kept
    (hopened : opened (past ++ [latest]) = opened past)
    (hkept : ∀ place, Released (past ++ [latest]) place ↔ Released past place) :
    openCursors (past ++ [latest]) = openCursors past := by
  unfold openCursors
  rw [hopened]
  apply Finset.filter_congr
  intro place _
  rw [hkept place]

theorem openCursors_concat_of_released
    (hopened : opened (past ++ [latest]) = opened past)
    (hothers : ∀ other, other ≠ place →
      (Released (past ++ [latest]) other ↔ Released past other))
    (hreleased : Released (past ++ [latest]) place) :
    openCursors (past ++ [latest]) = (openCursors past).erase place := by
  ext other
  rw [Finset.mem_erase]
  unfold openCursors
  rw [hopened, Finset.mem_filter, Finset.mem_filter]
  by_cases hsame : other = place
  · simp [hsame, hreleased]
  · rw [hothers other hsame]
    simp [hsame]

theorem card_erase_openCursors (hinside : place < (opened past).length) :
    (((openCursors past).erase place).card : Int) =
      (openCursors past).card + if Released past place then 0 else -1 := by
  by_cases hreleased : Released past place
  · have habsent : place ∉ openCursors past := by simp [openCursors, hreleased]
    rw [Finset.erase_eq_of_notMem habsent, if_pos hreleased, Int.add_zero]
  · have hpresent : place ∈ openCursors past := by
      simp [openCursors, hinside, hreleased]
    have hcard := Finset.card_erase_add_one hpresent
    rw [if_neg hreleased]
    omega

end Readings

/-- What is left of a cursor, by the actions alone. -/
def cursorAfter (contacts : List Contact) (actions : List ClientAction)
    (place : Nat) : Option HeldCursor :=
  if Dropped actions place then none
  else
    (opened actions)[place]?.map fun (request, guarded) =>
      { guarded := guarded
        pending :=
          ((InMemory.found contacts request).map .contact).drop
            (asked actions place)
        released := decide (Released actions place) }

theorem cursorAfter_concat_of_other {contacts : List Contact}
    {past : List ClientAction} {latest : ClientAction} {place : Nat}
    (hopened : (opened (past ++ [latest]))[place]? = (opened past)[place]?)
    (hother : subject? latest ≠ some place) :
    cursorAfter contacts (past ++ [latest]) place =
      cursorAfter contacts past place := by
  unfold cursorAfter
  simp only [hopened, dropped_concat_of_other hother,
    released_concat_of_other hother, asked_concat_of_other hother]

end History

/-! ## Runs -/

namespace Client

def after (client : Client) (actions : List ClientAction) : Client :=
  actions.foldl (fun client action => (client.step action).2) client

variable {client : Client} {past : List ClientAction} {latest : ClientAction}

theorem after_concat :
    client.after (past ++ [latest]) = ((client.after past).step latest).2 := by
  simp [after]

theorem run_concat :
    client.run (past ++ [latest]) =
      client.run past ++ [(client.after past).step latest] := by
  induction past generalizing client with
  | nil => rfl
  | cons first rest ih => simp [run, ih, after]

@[simp] theorem length_run : (client.run past).length = past.length := by
  induction past generalizing client with
  | nil => rfl
  | cons first rest ih => simp [run, ih]

theorem run_getElem? (moment : Nat) (hmoment : moment < past.length) :
    (client.run past)[moment]? =
      some ((client.after (past.take moment)).step past[moment]) := by
  induction past using List.reverseRecOn with
  | nil => cases hmoment
  | append_singleton past latest ih =>
      rw [run_concat]
      rcases Nat.lt_or_ge moment past.length with hearlier | hnow
      · rw [List.getElem?_append_left (by simpa using hearlier), ih hearlier,
          List.take_append_of_le_length hearlier.le,
          List.getElem_append_left hearlier]
      · have hlast : moment = past.length := by
          simp at hmoment
          omega
        subst hlast
        simp

theorem eq_after_of_getElem? {moment : Nat} {answer : ClientAnswer}
    {reached : Client}
    (hstep : (client.run past)[moment]? = some (answer, reached)) :
    reached = client.after (past.take (moment + 1)) := by
  have hmoment : moment < past.length := by
    simpa using (List.getElem?_eq_some_iff.mp hstep).1
  rw [run_getElem? moment hmoment, Option.some.injEq] at hstep
  rw [List.take_succ_eq_append_getElem hmoment, after_concat, hstep]

end Client

end AddressBook

import InventoryCloud.Linearization

/-!
# Calls end on tables that were there while they ran

A call that a run starts and ends has the result which its body has when it
runs alone on the tables of some state of that run, in which the call was
running.  Whatever is known of every such state is therefore known of the
tables on which the call was decided.
-/

namespace InventoryCloud

open Interaction
open Interaction.Interference
open Locking

variable {sha256 : List UInt8 → List UInt8}

namespace System

/-- These are the tables of a state of the run in which the transaction makes
the call. -/
def RunningOn (sha256 : List UInt8 → List UInt8) (s : System)
    (actions : List Action) (t : ℕ) (call : Call) (db : Database) : Prop :=
  ∃ front back middle transaction, actions = front ++ back ∧
    s.run sha256 front = some middle ∧
      middle.transactions t = some transaction ∧
        transaction.call = call ∧ transaction.earlier = [] ∧ middle.db = db

/-- A transaction of one call, explained by tables it has seen. -/
structure Heard (sha256 : List UInt8 → List UInt8)
    (seen : Call → Database → Prop) (t : ℕ) (s : System) : Prop where
  live : ∀ {transaction}, s.transactions t = some transaction →
    transaction.earlier = [] ∧ transaction.rollbackOnly = false ∧
      Event.invoked t transaction.server transaction.call ∈ s.history ∧
      (serviceInterference sha256).Explained (seen transaction.call)
        (s.locks.held t) s.db transaction.call.program transaction.rest
  finished : ∀ outcome, s.Finished t outcome →
    (∃ status, outcome = .aborted status) ∨
      ∃ call server, Event.invoked t server call ∈ s.history ∧
        ∃ moment : Database, moment.WellFormed ∧ seen call moment ∧
          outcome.Matches call (call.resultOn moment)

namespace Heard

variable {seen : Call → Database → Prop} {t : ℕ} {s s' : System}

/-- Nothing is known yet of a transaction that has not started. -/
theorem of_not_started (hchronicle : s.Chronicle) (hnew : t ∉ s.started) :
    s.Heard sha256 seen t where
  live hlive := absurd (hchronicle.started hlive) hnew
  finished := by
    rintro outcome ⟨server, hfinished⟩
    exact absurd (hchronicle.recorded hfinished) hnew

/-- The transaction ends with this outcome. -/
private theorem ended {server : ℕ} {outcome : Outcome}
    (hheard : s.Heard sha256 seen t)
    (houtcome : (∃ status, outcome = .aborted status) ∨
      ∃ call place, Event.invoked t place call ∈ s.history ∧
        ∃ moment : Database, moment.WellFormed ∧ seen call moment ∧
          outcome.Matches call (call.resultOn moment))
    (htransactions : s'.transactions = Function.update s.transactions t none)
    (hhistory : s'.history = s.history ++ [.finished t server outcome]) :
    s'.Heard sha256 seen t where
  live := by
    intro transaction hlive
    rw [htransactions, Function.update_self] at hlive
    cases hlive
  finished := by
    rintro final ⟨place, hfinished⟩
    rw [hhistory] at hfinished ⊢
    have hkept : ∀ {found : Outcome}, ((∃ status, found = .aborted status) ∨
        ∃ call place, Event.invoked t place call ∈ s.history ∧
          ∃ moment : Database, moment.WellFormed ∧ seen call moment ∧
            found.Matches call (call.resultOn moment)) →
        (∃ status, found = .aborted status) ∨
        ∃ call place, Event.invoked t place call ∈
            s.history ++ [.finished t server outcome] ∧
          ∃ moment : Database, moment.WellFormed ∧ seen call moment ∧
            found.Matches call (call.resultOn moment) := by
      rintro found (haborted | ⟨call, place, hinvoked, hmoment⟩)
      · exact Or.inl haborted
      · exact Or.inr
          ⟨call, place, List.mem_append_left _ hinvoked, hmoment⟩
    rcases List.mem_append.mp hfinished with hold | hlast
    · exact hkept (hheard.finished final ⟨place, hold⟩)
    · cases List.mem_singleton.mp hlast
      exact hkept houtcome

/-- The result of a call that was explained all along. -/
private theorem concluded {transaction : Transaction} {result : Result}
    {outcome : Outcome} (hheard : s.Heard sha256 seen t)
    (hinv : s.Invariant sha256)
    (hlive : s.transactions t = some transaction)
    (hseen : seen transaction.call s.db)
    (hrest : transaction.rest = .pure result)
    (hmatches : outcome.Matches transaction.call result) :
    ∃ call server, Event.invoked t server call ∈ s.history ∧
      ∃ moment : Database, moment.WellFormed ∧ seen call moment ∧
        outcome.Matches call (call.resultOn moment) := by
  obtain ⟨-, -, hinvoked, hexplained⟩ := hheard.live hlive
  rw [hrest] at hexplained
  refine ⟨_, _, hinvoked, ?_⟩
  rcases hexplained.finished hinv.wellFormed with
    hnow | ⟨-, moment, hmoment, hpast, -, hthen⟩
  · have hresult : transaction.call.resultOn s.db = result := hnow
    exact ⟨s.db, hinv.wellFormed, hseen, hresult ▸ hmatches⟩
  · have hresult : transaction.call.resultOn moment = result := hthen
    exact ⟨moment, hmoment, hpast, hresult ▸ hmatches⟩

/-- A step of another transaction. -/
private theorem other {action : Action} (hheard : s.Heard sha256 seen t)
    (hinv : s.Invariant sha256) (hmoves : Moves sha256 s action s')
    (hne : t ≠ action.transaction) : s'.Heard sha256 seen t := by
  obtain ⟨hsame, hheld, hrely⟩ := hinv.frame hmoves hne
  constructor
  · intro transaction hlive
    rw [hsame] at hlive
    rw [hheld]
    obtain ⟨hfirst, hclean, hinvoked, hexplained⟩ := hheard.live hlive
    exact ⟨hfirst, hclean, hmoves.history_kept hinvoked, hexplained.later hrely⟩
  · intro outcome hfinished
    rcases hheard.finished outcome (hmoves.finished hne hfinished) with
      haborted | ⟨call, server, hinvoked, hmoment⟩
    · exact Or.inl haborted
    · exact Or.inr ⟨call, server, hmoves.history_kept hinvoked, hmoment⟩

private theorem begun {server : ℕ} {call : Call}
    (hchronicle : s.Chronicle) (hnew : t ∉ s.started) :
    (s.begun t server call).Heard sha256 seen t where
  live := by
    intro transaction hlive
    cases begun_self hlive
    exact ⟨rfl, rfl, List.mem_append_right _ (List.mem_singleton_self _),
      .start _ _ _⟩
  finished := by
    rintro outcome ⟨place, hfinished⟩
    rcases List.mem_append.mp hfinished with hold | hlast
    · exact absurd (hchronicle.recorded hold) hnew
    · cases List.mem_singleton.mp hlast

private theorem executed {transaction : Transaction} {statement : Statement}
    {next : statement.Answer → Program Statement Statement.Answer Result}
    (hheard : s.Heard sha256 seen t) (hinv : s.Invariant sha256)
    (hlive : s.transactions t = some transaction)
    (hseen : seen transaction.call s.db)
    (hrest : transaction.rest = .ask statement next) :
    (s.executed sha256 t transaction statement next).Heard sha256 seen t where
  live := by
    intro live hother
    cases executed_self hother
    obtain ⟨hfirst, hclean, hinvoked, hexplained⟩ := hheard.live hlive
    have hview : transaction.view s.db = s.db := by
      rw [Transaction.view, hfirst]
      rfl
    have hguarded := (hinv.sound hlive hclean).guarded
    rw [hrest] at hguarded hexplained
    rw [held_executed_self, hview]
    exact ⟨hfirst, hclean, hinvoked,
      hexplained.step hinv.wellFormed hseen hguarded⟩
  finished := hheard.finished

theorem step {action : Action} (hheard : s.Heard sha256 seen t)
    (hinv : s.Invariant sha256) (hchronicle : s.Chronicle)
    (hseen : ∀ transaction, s.transactions t = some transaction →
      seen transaction.call s.db)
    (hone : ∀ call, action ≠ .next t call)
    (hmoves : Moves sha256 s action s') : s'.Heard sha256 seen t := by
  by_cases hne : t = action.transaction
  · cases hmoves with
    | @begin u server call hfree hnew hfresh =>
        change t = u at hne
        subst hne
        exact begun hchronicle hnew
    | @next u call transaction result hlive hrest hfresh =>
        exact absurd (congrArg (Action.next · call) hne.symm) (hone call)
    | @exec u transaction statement next hlive hrest havailable =>
        change t = u at hne
        subst hne
        exact hheard.executed hinv hlive (hseen _ hlive) hrest
    | @commit u acknowledged transaction returned session hlive hrest hclean =>
        change t = u at hne
        subst hne
        obtain ⟨hfirst, -, -, -⟩ := hheard.live hlive
        have hmatches : Outcome.Matches transaction.call (.ok returned, session)
            (.committed (transaction.earlier ++
              [⟨transaction.call, returned, session⟩]) acknowledged) := by
          rw [hfirst]
          exact ⟨returned, session, rfl, rfl⟩
        exact hheard.ended (Or.inr (hheard.concluded hinv hlive
          (hseen _ hlive) hrest hmatches)) rfl rfl
    | @fail u transaction exception session hlive hrest =>
        change t = u at hne
        subst hne
        have hmatches : Outcome.Matches transaction.call
            (.error exception, session) (.failed exception) := ⟨session, rfl⟩
        exact hheard.ended (Or.inr (hheard.concluded hinv hlive
          (hseen _ hlive) hrest hmatches)) rfl rfl
    | @abort u transaction status hlive hstatus =>
        change t = u at hne
        subst hne
        exact hheard.ended (Or.inl ⟨status, rfl⟩) rfl rfl
  · exact hheard.other hinv hmoves hne

end Heard

theorem heard_of_run {t : ℕ} {start : System} {whole : List Action}
    (hone : ∀ call, Action.next t call ∉ whole) {s s' : System}
    {front actions : List Action} (hfront : start.run sha256 front = some s)
    (hwhole : whole = front ++ actions) (hinv : s.Invariant sha256)
    (hchronicle : s.Chronicle)
    (hheard : s.Heard sha256 (start.RunningOn sha256 whole t) t)
    (hrun : s.run sha256 actions = some s') :
    s'.Heard sha256 (start.RunningOn sha256 whole t) t := by
  induction actions generalizing s front with
  | nil =>
      cases hrun
      exact hheard
  | cons action actions ih =>
      rw [run_cons, Option.bind_eq_some_iff] at hrun
      obtain ⟨middle, hfirst, hrest⟩ := hrun
      have hmoves : Moves sha256 s action middle := moves_of_step hfirst
      have hseen : ∀ transaction, s.transactions t = some transaction →
          start.RunningOn sha256 whole t transaction.call s.db := by
        intro transaction hlive
        exact ⟨front, action :: actions, s, transaction, hwhole, hfront, hlive,
          rfl, (hheard.live hlive).1, rfl⟩
      have hnot : ∀ call, action ≠ .next t call := by
        rintro call rfl
        exact hone call (by rw [hwhole]; simp)
      have hlonger : start.run sha256 (front ++ [action]) = some middle := by
        rw [run_append, hfront, Option.bind_some, run_cons, hfirst]
        rfl
      exact ih hlonger (by rw [hwhole]; simp) (hinv.step hmoves)
        (hchronicle.step hmoves)
        (hheard.step hinv hchronicle hseen hnot hmoves) hrest

/-- A call which the run starts and ends was decided on the tables of a state
of the run in which it was running. -/
theorem Reachable.decided {s s' : System} {actions : List Action} {t : ℕ}
    {outcome : Outcome} (hreach : Reachable sha256 s) (hnew : t ∉ s.started)
    (hone : ∀ call, Action.next t call ∉ actions)
    (hrun : s.run sha256 actions = some s')
    (hfinished : s'.Finished t outcome) (hanswers : outcome.Answers) :
    ∃ call server, Event.invoked t server call ∈ s'.history ∧
      ∃ db : Database, s.RunningOn sha256 actions t call db ∧
        outcome.Matches call (call.resultOn db) := by
  have hstart : s.run sha256 [] = some s := rfl
  have hheard := heard_of_run hone hstart rfl hreach.invariant
    hreach.chronicle (.of_not_started hreach.chronicle hnew) hrun
  rcases hheard.finished outcome hfinished with
    ⟨status, rfl⟩ | ⟨call, server, hinvoked, db, -, hseen, hmatches⟩
  · exact absurd hanswers id
  · exact ⟨call, server, hinvoked, db, hseen, hmatches⟩

end System

end InventoryCloud

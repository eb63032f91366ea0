import InventoryCloud.RunHistory

/-!
# The moment of a call

The only call of a transaction ends as its body does when it runs alone on
the tables of one moment, not before the call started and not after it ended.
Interference between its statements is never visible to the caller.
-/

namespace InventoryCloud

open Interaction
open Interaction.Interference
open Locking

/-- The outcome is the one of a call with this result. -/
def Outcome.Matches (call : Call) (result : Result) : Outcome → Prop
  | .committed calls _ => ∃ returned session,
      result = (.ok returned, session) ∧ calls = [⟨call, returned, session⟩]
  | .failed exception => ∃ session, result = (.error exception, session)
  | .aborted _ => False

/-- The outcome of a call on tables between the given ones. -/
def Outcome.Between (call : Call) (before after : Database)
    (outcome : Outcome) : Prop :=
  (∃ status, outcome = .aborted status) ∨
    ∃ moment : Database, moment.WellFormed ∧ before.Evolves moment ∧
      moment.Evolves after ∧ outcome.Matches call (call.resultOn moment)

theorem Outcome.Between.later {call : Call} {before after later : Database}
    {outcome : Outcome} (hevolves : after.Evolves later)
    (hbetween : outcome.Between call before after) :
    outcome.Between call before later := by
  rcases hbetween with haborted | ⟨moment, hwell, hpast, hnow, hmatches⟩
  · exact Or.inl haborted
  · exact Or.inr ⟨moment, hwell, hpast, hnow.trans hevolves, hmatches⟩

variable {sha256 : List UInt8 → List UInt8}

/-- The end of a call that was explained all along. -/
theorem between_of_explained {call : Call} {before db : Database}
    {held : Set Lock} {result : Result} {outcome : Outcome}
    (hwell : db.WellFormed) (hpast : before.Evolves db)
    (hexplained : (serviceInterference sha256).Explained (before.Evolves ·)
      held db call.program (.pure result))
    (hmatches : outcome.Matches call result) :
    outcome.Between call before db := by
  rcases hexplained.finished hwell with
    hnow | ⟨-, moment, hmoment, hseen, hrely, hthen⟩
  · have hresult : call.resultOn db = result := hnow
    exact Or.inr ⟨db, hwell, hpast, .refl db, hresult ▸ hmatches⟩
  · have hresult : call.resultOn moment = result := hthen
    exact Or.inr ⟨moment, hmoment, hseen, hrely.evolves, hresult ▸ hmatches⟩

namespace System

/-- The transaction makes the one call, which started on the tables `before`
or later. -/
structure Attends (sha256 : List UInt8 → List UInt8) (before : Database)
    (call : Call) (t : ℕ) (s : System) : Prop where
  known : t ∈ s.started
  past : before.Evolves s.db
  live : ∀ {transaction}, s.transactions t = some transaction →
    transaction.earlier = [] ∧ transaction.call = call ∧
      transaction.rollbackOnly = false ∧
        (serviceInterference sha256).Explained (before.Evolves ·)
          (s.locks.held t) s.db call.program transaction.rest
  finished : ∀ outcome, s.Finished t outcome → outcome.Between call before s.db

namespace Attends

variable {before : Database} {call : Call} {t : ℕ} {s s' : System}

/-- A step of another transaction. -/
theorem other {action : Action} (hattends : s.Attends sha256 before call t)
    (hinv : s.Invariant sha256) (hmoves : Moves sha256 s action s')
    (hne : t ≠ action.transaction) : s'.Attends sha256 before call t := by
  obtain ⟨hsame, hheld, hrely⟩ := hinv.frame hmoves hne
  constructor
  · exact hmoves.started hattends.known
  · exact hattends.past.trans hrely.evolves
  · intro transaction hlive
    rw [hsame] at hlive
    rw [hheld]
    obtain ⟨hearlier, hcall, hclean, hexplained⟩ := hattends.live hlive
    exact ⟨hearlier, hcall, hclean, hexplained.later hrely⟩
  · intro outcome hfinished
    exact (hattends.finished outcome (hmoves.finished hne hfinished)).later
      hrely.evolves

/-- The transaction ends with this outcome. -/
private theorem ended {server : ℕ} {outcome : Outcome}
    (hattends : s.Attends sha256 before call t)
    (hpast : before.Evolves s'.db) (hevolves : s.db.Evolves s'.db)
    (hbetween : outcome.Between call before s'.db)
    (htransactions : s'.transactions = Function.update s.transactions t none)
    (hstarted : s'.started = s.started)
    (hhistory : s'.history = s.history ++ [.finished t server outcome]) :
    s'.Attends sha256 before call t where
  known := hstarted ▸ hattends.known
  past := hpast
  live := by
    intro transaction hlive
    rw [htransactions, Function.update_self] at hlive
    cases hlive
  finished := by
    rintro final ⟨place, hfinished⟩
    rw [hhistory] at hfinished
    rcases List.mem_append.mp hfinished with hold | hlast
    · exact (hattends.finished final ⟨place, hold⟩).later hevolves
    · cases List.mem_singleton.mp hlast
      exact hbetween

theorem executed {transaction : Transaction} {statement : Statement}
    {next : statement.Answer → Program Statement Statement.Answer Result}
    (hattends : s.Attends sha256 before call t) (hinv : s.Invariant sha256)
    (hlive : s.transactions t = some transaction)
    (hrest : transaction.rest = .ask statement next) :
    (s.executed sha256 t transaction statement next).Attends sha256 before call
      t where
  known := hattends.known
  past := hattends.past
  live := by
    intro live hother
    cases executed_self hother
    obtain ⟨hearlier, hcall, hclean, hexplained⟩ := hattends.live hlive
    have hview : transaction.view s.db = s.db := by
      rw [Transaction.view, hearlier]
      rfl
    have hguarded := (hinv.sound hlive hclean).guarded
    rw [hrest] at hguarded hexplained
    rw [held_executed_self, hview]
    exact ⟨hearlier, hcall, hclean,
      hexplained.step hinv.wellFormed hattends.past hguarded⟩
  finished := hattends.finished

theorem step {action : Action} (hattends : s.Attends sha256 before call t)
    (hinv : s.Invariant sha256) (hone : ∀ call, action ≠ .next t call)
    (hmoves : Moves sha256 s action s') : s'.Attends sha256 before call t := by
  by_cases hne : t = action.transaction
  · have hevolves := hinv.evolves hmoves
    cases hmoves with
    | @begin u server other hfree hnew hfresh =>
        change t = u at hne
        exact absurd (hne ▸ hattends.known) hnew
    | @next u other transaction result hlive hrest hfresh =>
        exact absurd (congrArg (Action.next · other) hne.symm) (hone other)
    | @exec u transaction statement next hlive hrest havailable =>
        change t = u at hne
        subst hne
        exact hattends.executed hinv hlive hrest
    | @commit u acknowledged transaction returned session hlive hrest hclean =>
        change t = u at hne
        subst hne
        obtain ⟨hearlier, hcall, -, hexplained⟩ := hattends.live hlive
        rw [hrest] at hexplained
        have hmatches : Outcome.Matches call (.ok returned, session)
            (.committed (transaction.earlier ++
              [⟨transaction.call, returned, session⟩]) acknowledged) := by
          rw [hearlier, hcall]
          exact ⟨returned, session, rfl, rfl⟩
        have hbetween := between_of_explained hinv.wellFormed hattends.past
          hexplained hmatches
        exact hattends.ended (hattends.past.trans hevolves) hevolves
          (hbetween.later hevolves) rfl rfl rfl
    | @fail u transaction exception session hlive hrest =>
        change t = u at hne
        subst hne
        obtain ⟨-, -, -, hexplained⟩ := hattends.live hlive
        rw [hrest] at hexplained
        have hmatches : Outcome.Matches call (.error exception, session)
            (.failed exception) := ⟨session, rfl⟩
        exact hattends.ended hattends.past hevolves (between_of_explained
          hinv.wellFormed hattends.past hexplained hmatches) rfl rfl rfl
    | @abort u transaction status hlive hstatus =>
        change t = u at hne
        subst hne
        exact hattends.ended hattends.past hevolves (Or.inl ⟨status, rfl⟩)
          rfl rfl rfl
  · exact hattends.other hinv hmoves hne

end Attends

theorem attends_of_run {before : Database} {call : Call} {t : ℕ}
    {s s' : System} {actions : List Action}
    (hone : ∀ other, Action.next t other ∉ actions)
    (hinv : s.Invariant sha256) (hattends : s.Attends sha256 before call t)
    (hrun : s.run sha256 actions = some s') :
    s'.Attends sha256 before call t := by
  have hallowed : ∀ action ∈ actions, ∀ other, action ≠ .next t other := by
    rintro action hmem other rfl
    exact hone other hmem
  have hboth : s'.Invariant sha256 ∧ s'.Attends sha256 before call t := by
    apply run_induction_of hallowed ⟨hinv, hattends⟩ _ hrun
    rintro earlier action later hnot ⟨hinv, hattends⟩ hmoves
    exact ⟨hinv.step hmoves, hattends.step hinv hnot hmoves⟩
  exact hboth.2

/-- How a call ends that is live and whose statements so far did not matter. -/
theorem Reachable.outcome_between {s s' : System} {actions : List Action}
    {t : ℕ} {transaction : Transaction} {outcome : Outcome}
    (hreach : Reachable sha256 s)
    (hlive : s.transactions t = some transaction)
    (hfirst : transaction.earlier = [])
    (hclean : transaction.rollbackOnly = false)
    (hsame : ∀ view : Database,
      transaction.call.resultOn view =
        transaction.rest.eval (Statement.answer view))
    (hone : ∀ other, Action.next t other ∉ actions)
    (hrun : s.run sha256 actions = some s')
    (hfinished : s'.Finished t outcome) :
    outcome.Between transaction.call s.db s'.db := by
  have hattends : s.Attends sha256 s.db transaction.call t := by
    refine ⟨hreach.chronicle.started hlive, .refl s.db, ?_, ?_⟩
    · intro other hother
      rw [hlive] at hother
      cases hother
      exact ⟨hfirst, rfl, hclean, Or.inl fun view _ _ => hsame view⟩
    · intro final hfinal
      exact absurd hfinal (hreach.chronicle.unfinished hlive)
  exact (attends_of_run hone hreach.invariant hattends hrun).finished outcome
    hfinished

end System

end InventoryCloud

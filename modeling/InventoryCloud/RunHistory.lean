import InventoryCloud.CommittedHistory

/-!
# Transactions in the history

A transaction is invoked once, and once it has finished it is over: it is not
live any more and never starts again.
-/

namespace InventoryCloud

/-- The transaction has thrown and can only be rolled back. -/
def Transaction.Doomed (transaction : Transaction) : Prop :=
  transaction.rollbackOnly = true ∨
    ∃ exception session, transaction.rest = .pure (.error exception, session)

theorem Transaction.Doomed.following {transaction : Transaction}
    (hdoomed : transaction.Doomed) {result : Result}
    (hrest : transaction.rest = .pure result) (call : Call) :
    (transaction.following result call).Doomed := by
  obtain ⟨exception | returned, session⟩ := result
  · exact Or.inl rfl
  · rcases hdoomed with hflag | ⟨exception, other, hthrown⟩
    · exact Or.inl hflag
    · rw [hrest] at hthrown
      cases hthrown

namespace System

variable {sha256 : List UInt8 → List UInt8}

/-- The transaction has finished with an outcome. -/
def Finished (s : System) (t : ℕ) (outcome : Outcome) : Prop :=
  ∃ server, Event.finished t server outcome ∈ s.history

structure Chronicle (s : System) : Prop where
  started : ∀ {t transaction}, s.transactions t = some transaction →
    t ∈ s.started
  recorded : ∀ {event}, event ∈ s.history → event.transaction ∈ s.started
  unfinished : ∀ {t transaction outcome},
    s.transactions t = some transaction → ¬ s.Finished t outcome

theorem chronicle_initial : initial.Chronicle where
  started hlive := by cases hlive
  recorded hevent := by cases hevent
  unfinished hlive := by cases hlive

private theorem mem_append_singleton {event last : Event}
    {history : List Event} (hmem : event ∈ history ++ [last]) :
    event ∈ history ∨ event = last := by
  rcases List.mem_append.mp hmem with hold | hlast
  · exact Or.inl hold
  · exact Or.inr (List.mem_singleton.mp hlast)

/-- The live transactions after a step on one of them. -/
private theorem Chronicle.relive {s s' : System} (hchronicle : s.Chronicle)
    {t : ℕ} {old new : Transaction} (hlive : s.transactions t = some old)
    (htransactions : s'.transactions =
      Function.update s.transactions t (some new))
    (hstarted : s'.started = s.started) (hhistory : s'.history = s.history) :
    s'.Chronicle where
  started := by
    intro other transaction hother
    rw [hstarted]
    rcases live_of_update htransactions hother with ⟨rfl, -⟩ | ⟨-, hold⟩
    · exact hchronicle.started hlive
    · exact hchronicle.started hold
  recorded := by
    intro event hevent
    rw [hhistory] at hevent
    rw [hstarted]
    exact hchronicle.recorded hevent
  unfinished := by
    rintro other transaction outcome hother ⟨server, hfinished⟩
    rw [hhistory] at hfinished
    rcases live_of_update htransactions hother with ⟨rfl, -⟩ | ⟨-, hold⟩
    · exact hchronicle.unfinished hlive ⟨server, hfinished⟩
    · exact hchronicle.unfinished hold ⟨server, hfinished⟩

private theorem Chronicle.ended {s s' : System} (hchronicle : s.Chronicle)
    {t server : ℕ} {transaction : Transaction} {outcome : Outcome}
    (hlive : s.transactions t = some transaction)
    (htransactions : s'.transactions = Function.update s.transactions t none)
    (hstarted : s'.started = s.started)
    (hhistory : s'.history = s.history ++ [.finished t server outcome]) :
    s'.Chronicle where
  started := by
    intro other live hother
    rw [hstarted]
    exact hchronicle.started (live_of_ended htransactions hother).2
  recorded := by
    intro event hevent
    rw [hhistory] at hevent
    rw [hstarted]
    rcases mem_append_singleton hevent with hold | rfl
    · exact hchronicle.recorded hold
    · exact hchronicle.started hlive
  unfinished := by
    rintro other live final hother ⟨place, hfinished⟩
    rw [hhistory] at hfinished
    obtain ⟨hne, hstill⟩ := live_of_ended htransactions hother
    rcases mem_append_singleton hfinished with hold | hlast
    · exact hchronicle.unfinished hstill ⟨place, hold⟩
    · cases hlast
      exact hne rfl

theorem Chronicle.step {s s' : System} {action : Action}
    (hchronicle : s.Chronicle) (hmoves : Moves sha256 s action s') :
    s'.Chronicle := by
  cases hmoves with
  | @begin t server call hfree hnew hfresh =>
      constructor
      · intro other transaction hother
        by_cases hsame : other = t
        · subst hsame
          exact List.mem_cons_self
        · have hold : s.transactions other = some transaction := by
            simpa [begun, hsame] using hother
          exact List.mem_cons_of_mem _ (hchronicle.started hold)
      · intro event hevent
        rcases mem_append_singleton hevent with hold | rfl
        · exact List.mem_cons_of_mem _ (hchronicle.recorded hold)
        · exact List.mem_cons_self
      · rintro other transaction outcome hother ⟨place, hfinished⟩
        rcases mem_append_singleton hfinished with hold | hlast
        · by_cases hsame : other = t
          · subst hsame
            exact hnew (hchronicle.recorded hold)
          · have hlive : s.transactions other = some transaction := by
              simpa [begun, hsame] using hother
            exact hchronicle.unfinished hlive ⟨place, hold⟩
        · cases hlast
  | next hlive hrest hfresh => exact hchronicle.relive hlive rfl rfl rfl
  | exec hlive hrest havailable => exact hchronicle.relive hlive rfl rfl rfl
  | commit hlive hrest hclean => exact hchronicle.ended hlive rfl rfl rfl
  | fail hlive hrest => exact hchronicle.ended hlive rfl rfl rfl
  | abort hlive hstatus => exact hchronicle.ended hlive rfl rfl rfl

theorem Reachable.chronicle {s : System} (hreach : Reachable sha256 s) :
    s.Chronicle :=
  hreach.induction chronicle_initial fun hchronicle hmoves =>
    hchronicle.step hmoves

end System

/-- A transaction once started counts as started. -/
theorem Moves.started {s s' : System} {action : Action}
    (hmoves : Moves sha256 s action s') {t : ℕ} (hknown : t ∈ s.started) :
    t ∈ s'.started := by
  cases hmoves with
  | begin hfree hnew hfresh => exact List.mem_cons_of_mem _ hknown
  | _ => exact hknown

/-- What has happened stays in the history. -/
theorem Moves.history_kept {s s' : System} {action : Action}
    (hmoves : Moves sha256 s action s') {event : Event}
    (hevent : event ∈ s.history) : event ∈ s'.history := by
  cases hmoves with
  | next hlive hrest hfresh => exact hevent
  | exec hlive hrest havailable => exact hevent
  | _ => exact List.mem_append_left _ hevent

/-- A step finishes no transaction but its own. -/
theorem Moves.finished {s s' : System} {action : Action}
    (hmoves : Moves sha256 s action s') {t : ℕ} {outcome : Outcome}
    (hne : t ≠ action.transaction) (hfinished : s'.Finished t outcome) :
    s.Finished t outcome := by
  obtain ⟨server, hmem⟩ := hfinished
  cases hmoves with
  | begin hfree hnew hfresh =>
      rcases System.mem_append_singleton hmem with hold | hlast
      · exact ⟨server, hold⟩
      · cases hlast
  | next hlive hrest hfresh => exact ⟨server, hmem⟩
  | exec hlive hrest havailable => exact ⟨server, hmem⟩
  | commit hlive hrest hclean | fail hlive hrest | abort hlive hstatus =>
      rcases System.mem_append_singleton hmem with hold | hlast
      · exact ⟨server, hold⟩
      · cases hlast
        exact absurd rfl hne

namespace System

/-! ## A transaction that threw never commits -/

/-- The transaction will not commit: it is doomed or over. -/
structure Lost (s : System) (t : ℕ) : Prop where
  known : t ∈ s.started
  doomed : ∀ {transaction}, s.transactions t = some transaction →
    transaction.Doomed
  uncommitted : ∀ {calls acknowledged},
    ¬ s.Finished t (.committed calls acknowledged)

private theorem Lost.ended {s s' : System} {t other server : ℕ}
    {outcome : Outcome} (hlost : s.Lost t)
    (hother : ∀ calls acknowledged, other = t →
      outcome ≠ .committed calls acknowledged)
    (htransactions : s'.transactions =
      Function.update s.transactions other none)
    (hstarted : s'.started = s.started)
    (hhistory : s'.history = s.history ++ [.finished other server outcome]) :
    s'.Lost t where
  known := hstarted ▸ hlost.known
  doomed := by
    intro transaction hlive
    exact hlost.doomed (live_of_ended htransactions hlive).2
  uncommitted := by
    rintro calls acknowledged ⟨place, hfinished⟩
    rw [hhistory] at hfinished
    rcases mem_append_singleton hfinished with hold | hlast
    · exact hlost.uncommitted ⟨place, hold⟩
    · cases hlast
      exact hother _ _ rfl rfl

theorem Lost.step {s s' : System} {t : ℕ} {action : Action}
    (hlost : s.Lost t) (hmoves : Moves sha256 s action s') : s'.Lost t := by
  cases hmoves with
  | @begin other server call hfree hnew hfresh =>
      have hne : t ≠ other := fun heq => hnew (heq ▸ hlost.known)
      constructor
      · exact List.mem_cons_of_mem _ hlost.known
      · intro transaction hlive
        exact hlost.doomed (by simpa [begun, hne] using hlive)
      · rintro calls acknowledged ⟨place, hfinished⟩
        rcases mem_append_singleton hfinished with hold | hlast
        · exact hlost.uncommitted ⟨place, hold⟩
        · cases hlast
  | @next other call transaction result hlive hrest hfresh =>
      refine ⟨hlost.known, ?_, hlost.uncommitted⟩
      intro live hother
      by_cases hsame : t = other
      · subst hsame
        have heq : live = transaction.following result call := by
          simpa [continued, eq_comm] using hother
        rw [heq]
        exact (hlost.doomed hlive).following hrest call
      · exact hlost.doomed (by simpa [continued, hsame] using hother)
  | @exec other transaction statement next hlive hrest havailable =>
      refine ⟨hlost.known, ?_, hlost.uncommitted⟩
      intro live hother
      by_cases hsame : t = other
      · subst hsame
        have heq : live = { transaction with
            rest := next (statement.answer (transaction.view s.db)) } := by
          simpa [executed, eq_comm] using hother
        rw [heq]
        refine (hlost.doomed hlive).imp_right ?_
        rintro ⟨exception, session, hthrown⟩
        rw [hrest] at hthrown
        cases hthrown
      · exact hlost.doomed (by simpa [executed, hsame] using hother)
  | @commit other acknowledged transaction returned session hlive hrest
      hclean =>
      refine hlost.ended ?_ rfl rfl rfl
      rintro calls _ rfl
      rcases hlost.doomed hlive with hflag | ⟨exception, _, hthrown⟩
      · rw [hclean] at hflag
        cases hflag
      · rw [hrest] at hthrown
        cases hthrown
  | fail hlive hrest =>
      exact hlost.ended (by rintro _ _ _ ⟨⟩) rfl rfl rfl
  | abort hlive hstatus =>
      exact hlost.ended (by rintro _ _ _ ⟨⟩) rfl rfl rfl

/-- Once a call of the transaction has thrown, no run commits it. -/
theorem Reachable.never_commits {s s' : System} {actions : List Action}
    {t : ℕ} {transaction : Transaction} (hreach : Reachable sha256 s)
    (hlive : s.transactions t = some transaction)
    (hdoomed : transaction.Doomed)
    (hrun : s.run sha256 actions = some s') {calls : List Completed}
    {acknowledged : Bool} : ¬ s'.Finished t (.committed calls acknowledged) := by
  have hstart : s.Lost t := by
    refine ⟨hreach.chronicle.started hlive, fun hother => ?_,
      hreach.chronicle.unfinished hlive⟩
    rw [hlive] at hother
    cases hother
    exact hdoomed
  have hend : s'.Lost t :=
    @run_induction sha256 (Lost · t) s s' actions hstart
      (fun hlost hmoves => hlost.step hmoves) hrun
  exact hend.uncommitted

end System

end InventoryCloud

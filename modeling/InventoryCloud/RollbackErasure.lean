import InventoryCloud.TransactionSystem

/-!
# Transactions that never commit leave no trace

Deleting every action of transactions which do not commit from a run gives a
run again.  It ends with the same rows, the same counters, the same other
transactions and the same history of these.
-/

namespace InventoryCloud

open Interaction
open Locking

/-- The action does not make a transaction of the set commit. -/
def Action.Spares (gone : ℕ → Bool) : Action → Prop
  | .commit t _ => gone t = false
  | _ => True

def hide (gone : ℕ → Bool) (transactions : ℕ → Option Transaction) :
    ℕ → Option Transaction :=
  fun t => if gone t then none else transactions t

section

variable {gone : ℕ → Bool} {transactions : ℕ → Option Transaction} {t : ℕ}

theorem hide_stays (hstays : gone t = false) :
    hide gone transactions t = transactions t := by
  simp [hide, hstays]

theorem hide_update_stays (hstays : gone t = false)
    (transaction : Option Transaction) :
    hide gone (Function.update transactions t transaction) =
      Function.update (hide gone transactions) t transaction := by
  funext other
  by_cases hsame : other = t
  · subst hsame
    simp [hide, hstays]
  · simp [hide, Function.update, hsame]

theorem hide_update_gone (hgone : gone t = true)
    (transaction : Option Transaction) :
    hide gone (Function.update transactions t transaction) =
      hide gone transactions := by
  funext other
  by_cases hsame : other = t
  · subst hsame
    simp [hide, hgone]
  · simp [hide, Function.update, hsame]

end

namespace System

variable {sha256 : List UInt8 → List UInt8} {gone : ℕ → Bool}

/-- `erased` is the state as if some transactions had never been made. -/
structure Erases (gone : ℕ → Bool) (s erased : System) : Prop where
  db : erased.db = s.db
  transactions : erased.transactions = hide gone s.transactions
  locks : erased.locks = s.locks.without gone
  counters : erased.counters = s.counters
  issued : ∀ id ∈ erased.issued, id ∈ s.issued
  started : ∀ t ∈ erased.started, t ∈ s.started
  history : erased.history =
    s.history.filter fun event => !gone event.transaction

theorem erases_initial (gone : ℕ → Bool) : Erases gone initial initial where
  db := rfl
  transactions := by
    funext t
    simp [initial, hide]
  locks := (LockTable.without_empty gone).symm
  counters := rfl
  issued _ hid := hid
  started _ ht := ht
  history := rfl

namespace Erases

variable {s erased : System}

theorem admitsFresh (herases : Erases gone s erased) {call : Call}
    (hfresh : s.admitsFresh call = true) : erased.admitsFresh call = true := by
  unfold System.admitsFresh at hfresh ⊢
  cases hid : call.freshId with
  | none => rfl
  | some id =>
      simp only [hid, Option.all_some, Bool.not_eq_true', List.contains_eq_mem,
        decide_eq_false_iff_not] at hfresh ⊢
      exact fun hmem => hfresh (herases.issued id hmem)

theorem issued_append (herases : Erases gone s erased) (call : Call) :
    ∀ id ∈ call.freshId.toList ++ erased.issued,
      id ∈ call.freshId.toList ++ s.issued := by
  intro id hmem
  rcases List.mem_append.mp hmem with hfresh | hold
  · exact List.mem_append_left _ hfresh
  · exact List.mem_append_right _ (herases.issued id hold)

private theorem filter_snoc_stays {history : List Event} {event : Event}
    (hstays : gone event.transaction = false) :
    (history ++ [event]).filter (fun event => !gone event.transaction) =
      history.filter (fun event => !gone event.transaction) ++ [event] := by
  simp [List.filter_append, hstays]

private theorem filter_snoc_gone {history : List Event} {event : Event}
    (hgone : gone event.transaction = true) :
    (history ++ [event]).filter (fun event => !gone event.transaction) =
      history.filter (fun event => !gone event.transaction) := by
  simp [List.filter_append, hgone]

/-- The completion of a transaction that stays. -/
theorem completed (herases : Erases gone s erased) {t : ℕ}
    (hstays : gone t = false) (transaction : Transaction)
    (status : CompletionStatus) (registered : List Increment)
    (outcome : Outcome) :
    Erases gone (s.completed t transaction status registered outcome)
      (erased.completed t transaction status registered outcome) where
  db := herases.db
  transactions := by
    change Function.update erased.transactions t none = _
    rw [herases.transactions]
    exact (hide_update_stays hstays none).symm
  locks := by
    change erased.locks.release t = (s.locks.release t).without gone
    rw [herases.locks, LockTable.without_release]
  counters := by
    change Function.update erased.counters _ _ = Function.update s.counters _ _
    rw [herases.counters]
  issued := herases.issued
  started := herases.started
  history := by
    change erased.history ++ [_] = (s.history ++ [_]).filter _
    rw [filter_snoc_stays hstays, herases.history]

/-- An erased transaction ends without a commit. -/
theorem ended (herases : Erases gone s erased) {t : ℕ}
    {transaction : Transaction} {status : CompletionStatus}
    {outcome : Outcome} (hgone : gone t = true)
    (hstatus : status ≠ .committed) :
    Erases gone (s.rolledBack t transaction status outcome) erased where
  db := herases.db
  transactions := by
    change _ = hide gone (Function.update s.transactions t none)
    rw [hide_update_gone hgone, herases.transactions]
  locks := by
    change _ = (s.locks.release t).without gone
    rw [LockTable.without_release_gone s.locks hgone, herases.locks]
  counters := by
    have hsame : Function.update s.counters transaction.server
        (afterCompletion status (incrementsOf transaction.earlier)
          (s.counters transaction.server)) = s.counters := by
      rw [afterCompletion, if_neg hstatus, Function.update_eq_self]
    exact herases.counters.trans hsame.symm
  issued := herases.issued
  started := herases.started
  history := by
    change _ = (s.history ++ [_]).filter _
    rw [filter_snoc_gone hgone, herases.history]

/-- A step of an erased transaction is not noticed. -/
theorem skip {s' : System} {action : Action} (herases : Erases gone s erased)
    (hgone : gone action.transaction = true) (hspares : action.Spares gone)
    (hmoves : Moves sha256 s action s') : Erases gone s' erased := by
  cases hmoves with
  | @begin t server call hfree hnew hfresh =>
      change gone t = true at hgone
      refine ⟨herases.db, ?_, herases.locks, herases.counters, ?_, ?_, ?_⟩
      · change _ = hide gone (Function.update s.transactions t _)
        rw [hide_update_gone hgone, herases.transactions]
      · intro id hid
        exact List.mem_append_right _ (herases.issued id hid)
      · intro other hother
        exact List.mem_cons_of_mem _ (herases.started other hother)
      · change _ = (s.history ++ [_]).filter _
        rw [filter_snoc_gone hgone, herases.history]
  | @next t call transaction result hlive hrest hfresh =>
      change gone t = true at hgone
      refine ⟨herases.db, ?_, herases.locks, herases.counters, ?_,
        herases.started, herases.history⟩
      · change _ = hide gone (Function.update s.transactions t _)
        rw [hide_update_gone hgone, herases.transactions]
      · intro id hid
        exact List.mem_append_right _ (herases.issued id hid)
  | @exec t transaction statement next hlive hrest havailable =>
      change gone t = true at hgone
      refine ⟨herases.db, ?_, ?_, herases.counters, herases.issued,
        herases.started, herases.history⟩
      · change _ = hide gone (Function.update s.transactions t _)
        rw [hide_update_gone hgone, herases.transactions]
      · change _ = (s.locks.acquireAll t _).without gone
        rw [LockTable.without_acquireAll_gone hgone havailable, herases.locks]
  | commit hlive hrest hclean =>
      exact absurd (Eq.trans (Eq.symm hspares) hgone) Bool.false_ne_true
  | fail hlive hrest => exact herases.ended hgone (by decide)
  | abort hlive hstatus => exact herases.ended hgone hstatus

/-- Every other step is possible without the erased transactions. -/
theorem step {s' : System} {action : Action} (herases : Erases gone s erased)
    (hstays : gone action.transaction = false)
    (hmoves : Moves sha256 s action s') :
    ∃ erased', Moves sha256 erased action erased' ∧
      Erases gone s' erased' := by
  have hview : ∀ transaction : Transaction,
      transaction.view erased.db = transaction.view s.db := by
    intro transaction
    rw [herases.db]
  have hkeep : ∀ {t transaction}, gone t = false →
      s.transactions t = some transaction →
        erased.transactions t = some transaction := by
    intro t transaction ht hlive
    rw [herases.transactions, hide_stays ht, hlive]
  cases hmoves with
  | @begin t server call hfree hnew hfresh =>
      change gone t = false at hstays
      have hfree' : erased.transactions t = none := by
        rw [herases.transactions, hide_stays hstays, hfree]
      refine ⟨_, .begin hfree' (fun hmem => hnew (herases.started t hmem))
        (herases.admitsFresh hfresh), herases.db, ?_, herases.locks,
        herases.counters, herases.issued_append call, ?_, ?_⟩
      · change Function.update erased.transactions t _ = _
        rw [herases.transactions]
        exact (hide_update_stays hstays _).symm
      · intro other hother
        rcases List.mem_cons.mp hother with rfl | hold
        · exact List.mem_cons_self
        · exact List.mem_cons_of_mem _ (herases.started other hold)
      · change erased.history ++ [_] = (s.history ++ [_]).filter _
        rw [filter_snoc_stays hstays, herases.history]
  | @next t call transaction result hlive hrest hfresh =>
      change gone t = false at hstays
      refine ⟨_, .next (hkeep hstays hlive) hrest
        (herases.admitsFresh hfresh), herases.db, ?_, herases.locks,
        herases.counters, herases.issued_append call, herases.started,
        herases.history⟩
      change Function.update erased.transactions t _ = _
      rw [herases.transactions]
      exact (hide_update_stays hstays _).symm
  | @exec t transaction statement next hlive hrest havailable =>
      change gone t = false at hstays
      refine ⟨_, .exec (hkeep hstays hlive) hrest ?_, herases.db, ?_, ?_,
        herases.counters, herases.issued, herases.started, herases.history⟩
      · intro request hrequest
        rw [hview] at hrequest
        rw [herases.locks]
        exact LockTable.available_without (havailable request hrequest)
      · change Function.update erased.transactions t _ = _
        rw [herases.transactions, hview]
        exact (hide_update_stays hstays _).symm
      · change erased.locks.acquireAll t _ = (s.locks.acquireAll t _).without _
        rw [hview, herases.locks, LockTable.without_acquireAll _ _ hstays]
  | @commit t acknowledged transaction returned session hlive hrest hclean =>
      let calls := transaction.earlier ++ [⟨transaction.call, returned, session⟩]
      have hcompleted := herases.completed hstays transaction
        (if acknowledged then .committed else .unknown) (incrementsOf calls)
        (.committed calls acknowledged)
      refine ⟨_, .commit (hkeep hstays hlive) hrest hclean, ?_,
        hcompleted.transactions, hcompleted.locks, hcompleted.counters,
        hcompleted.issued, hcompleted.started, hcompleted.history⟩
      change erased.db.applyAll _ = s.db.applyAll _
      rw [herases.db]
  | fail hlive hrest =>
      exact ⟨_, .fail (hkeep hstays hlive) hrest,
        herases.completed hstays _ _ _ _⟩
  | abort hlive hstatus =>
      exact ⟨_, .abort (hkeep hstays hlive) hstatus,
        herases.completed hstays _ _ _ _⟩

end Erases

end System

/-- A run without the actions of transactions that do not commit. -/
theorem System.run_erased {sha256 : List UInt8 → List UInt8}
    {gone : ℕ → Bool} {actions : List Action} {s s' erased : System}
    (hspares : ∀ action ∈ actions, action.Spares gone)
    (herases : Erases gone s erased)
    (hrun : s.run sha256 actions = some s') :
    ∃ erased', erased.run sha256
        (actions.filter fun action => !gone action.transaction) =
          some erased' ∧ Erases gone s' erased' := by
  induction actions generalizing s erased with
  | nil =>
      cases hrun
      exact ⟨erased, rfl, herases⟩
  | cons action actions ih =>
      rw [run_cons, Option.bind_eq_some_iff] at hrun
      obtain ⟨middle, hfirst, hrest⟩ := hrun
      have hmoves := moves_of_step hfirst
      have hothers : ∀ other ∈ actions, other.Spares gone :=
        fun other hother => hspares other (List.mem_cons_of_mem _ hother)
      cases hgone : gone action.transaction with
      | true =>
          rw [List.filter_cons_of_neg (by simp [hgone])]
          exact ih hothers (herases.skip hgone
            (hspares action List.mem_cons_self) hmoves) hrest
      | false =>
          rw [List.filter_cons_of_pos (by simp [hgone]), run_cons]
          obtain ⟨next, hnext, hafter⟩ := herases.step hgone hmoves
          obtain ⟨last, hlast, hend⟩ := ih hothers hafter hrest
          exact ⟨last, by rw [hnext.step]; exact hlast, hend⟩

/-! ## Transactions that are over -/

namespace System

variable {sha256 : List UInt8 → List UInt8} {gone : ℕ → Bool}

/-- The transactions of the set are not live. -/
def Over (gone : ℕ → Bool) (s : System) : Prop :=
  ∀ t, gone t = true → s.transactions t = none

/-- Only live transactions have locks. -/
def LocksLive (s : System) : Prop :=
  ∀ gone, s.Over gone → s.locks.without gone = s.locks

/-- What a set without live transactions says of the state before a
transaction became or stayed live. -/
private theorem LocksLive.relive {s : System} (hlocks : s.LocksLive) {t : ℕ}
    {transaction : Transaction}
    (hover : ∀ other, gone other = true →
      Function.update s.transactions t (some transaction) other = none) :
    gone t = false ∧ s.locks.without gone = s.locks := by
  have hstays : gone t = false := by
    by_contra hgone
    have hnone := hover t (by simpa using hgone)
    simp at hnone
  refine ⟨hstays, hlocks gone fun other hgone => ?_⟩
  have hne : other ≠ t := by
    rintro rfl
    rw [hstays] at hgone
    cases hgone
  have hnone := hover other hgone
  rwa [Function.update_of_ne hne] at hnone

private theorem LocksLive.ended {s s' : System} (hlocks : s.LocksLive) {t : ℕ}
    (htransactions : s'.transactions = Function.update s.transactions t none)
    (hreleased : s'.locks = s.locks.release t) : s'.LocksLive := by
  intro gone hover
  have hothers : s.Over fun other => gone other && other != t := by
    intro other hgone
    simp only [Bool.and_eq_true, bne_iff_ne, ne_eq] at hgone
    have hnone := hover other hgone.1
    rwa [htransactions, Function.update_of_ne hgone.2] at hnone
  rw [hreleased, LockTable.without_release_other, hlocks _ hothers]

theorem LocksLive.step {s s' : System} {action : Action}
    (hlocks : s.LocksLive) (hmoves : Moves sha256 s action s') :
    s'.LocksLive := by
  cases hmoves with
  | begin hfree hnew hfresh => exact fun gone hover => (hlocks.relive hover).2
  | next hlive hrest hfresh => exact fun gone hover => (hlocks.relive hover).2
  | @exec t transaction statement next hlive hrest havailable =>
      intro gone hover
      obtain ⟨hstays, hsame⟩ := hlocks.relive hover
      change (s.locks.acquireAll t _).without gone = s.locks.acquireAll t _
      rw [LockTable.without_acquireAll _ _ hstays, hsame]
  | commit hlive hrest hclean => exact hlocks.ended rfl rfl
  | fail hlive hrest => exact hlocks.ended rfl rfl
  | abort hlive hstatus => exact hlocks.ended rfl rfl

theorem Reachable.locksLive {s : System} (hreach : Reachable sha256 s) :
    s.LocksLive :=
  hreach.induction (fun gone _ => LockTable.without_empty gone)
    fun hlocks hmoves => hlocks.step hmoves

/-- Nothing distinguishes the states once the erased transactions are over. -/
theorem Erases.same {s erased : System} (herases : Erases gone s erased)
    (hreach : Reachable sha256 s) (hover : s.Over gone) :
    erased.db = s.db ∧ erased.transactions = s.transactions ∧
      erased.locks = s.locks ∧ erased.counters = s.counters := by
  refine ⟨herases.db, ?_, ?_, herases.counters⟩
  · rw [herases.transactions]
    funext t
    cases hgone : gone t with
    | true => rw [hide, hgone, if_pos rfl, hover t hgone]
    | false => exact hide_stays hgone
  · rw [herases.locks, hreach.locksLive gone hover]

end System

end InventoryCloud

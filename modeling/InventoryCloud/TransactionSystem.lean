import InventoryCloud.GuardedCalls

/-!
# The system of concurrent transactions

Any number of server instances run transactions on the shared database.  A
statement runs once its locks are available, and sees the committed rows of
that moment together with the rows its own transaction has written.  A
transaction may make several calls, a call which threw leaves it to be rolled
back, and it may be aborted between any two statements.  A commit whose
acknowledgement is lost completes with unknown status.

A query answers from the rows here.  The entities which a transaction of
several calls keeps managed are added in `PersistenceContexts`.
-/

namespace InventoryCloud

open Interaction
open Locking

/-- A call which returned normally to the caller inside its transaction. -/
structure Completed where
  call : Call
  returned : Returned
  session : Session

def writesOf (calls : List Completed) : List Write :=
  calls.flatMap fun completed => completed.session.writes

def incrementsOf (calls : List Completed) : List Increment :=
  calls.flatMap fun completed => completed.session.increments

structure Transaction where
  server : ℕ
  earlier : List Completed
  call : Call
  rest : Program Statement Statement.Answer Result
  rollbackOnly : Bool

/-- The rows the statements of the transaction see. -/
def Transaction.view (transaction : Transaction) (db : Database) : Database :=
  db.applyAll (writesOf transaction.earlier)

/-- The transaction when its current call has ended and it makes another. -/
def Transaction.following (transaction : Transaction) (result : Result)
    (call : Call) : Transaction :=
  match result with
  | (.ok returned, session) =>
      { transaction with
        earlier := transaction.earlier ++ [⟨transaction.call, returned, session⟩]
        call := call
        rest := call.program }
  | (.error _, _) =>
      { transaction with
        call := call
        rest := call.program
        rollbackOnly := true }

/-- The id a call draws for the row it may insert. -/
def Call.freshId : Call → Option UUID
  | .createProduct fresh _ _ _ => some fresh.id
  | .reserve fresh _ _ _ _ => some fresh.id
  | _ => none

inductive Outcome where
  | committed (calls : List Completed) (acknowledged : Bool)
  | failed (exception : JavaException)
  | aborted (status : CompletionStatus)

inductive Event where
  | invoked (transaction server : ℕ) (call : Call)
  | finished (transaction server : ℕ) (outcome : Outcome)

structure System where
  db : Database
  transactions : ℕ → Option Transaction
  locks : LockTable Lock ℕ
  counters : ℕ → Counters
  issued : List UUID
  started : List ℕ
  history : List Event

inductive Action where
  | begin (transaction server : ℕ) (call : Call)
  | next (transaction : ℕ) (call : Call)
  | exec (transaction : ℕ)
  | commit (transaction : ℕ) (acknowledged : Bool)
  | fail (transaction : ℕ)
  | abort (transaction : ℕ) (status : CompletionStatus)

def Action.transaction : Action → ℕ
  | .begin t _ _ => t
  | .next t _ => t
  | .exec t => t
  | .commit t _ => t
  | .fail t => t
  | .abort t _ => t

def Event.transaction : Event → ℕ
  | .invoked t _ _ => t
  | .finished t _ _ => t

namespace System

def initial : System where
  db := .empty
  transactions := fun _ => none
  locks := .empty
  counters := fun _ => 0
  issued := []
  started := []
  history := []

/-- `UUID.randomUUID()` never repeats an id. -/
def admitsFresh (s : System) (call : Call) : Bool :=
  call.freshId.all fun id => !s.issued.contains id

def begun (s : System) (t server : ℕ) (call : Call) : System :=
  { s with
    transactions := Function.update s.transactions t
      (some ⟨server, [], call, call.program, false⟩)
    issued := call.freshId.toList ++ s.issued
    started := t :: s.started
    history := s.history ++ [.invoked t server call] }

def continued (s : System) (t : ℕ) (transaction : Transaction)
    (result : Result) (call : Call) : System :=
  { s with
    transactions := Function.update s.transactions t
      (some (transaction.following result call))
    issued := call.freshId.toList ++ s.issued }

def executed (sha256 : List UInt8 → List UInt8) (s : System) (t : ℕ)
    (transaction : Transaction) (statement : Statement)
    (next : statement.Answer → Program Statement Statement.Answer Result) :
    System :=
  { s with
    transactions := Function.update s.transactions t
      (some { transaction with
        rest := next (statement.answer (transaction.view s.db)) })
    locks := s.locks.acquireAll t
      (statement.needs sha256 (transaction.view s.db)) }

/-- The transaction is over: its locks are free, the registered runnables run
and the caller learns the outcome. -/
def completed (s : System) (t : ℕ) (transaction : Transaction)
    (status : CompletionStatus) (registered : List Increment)
    (outcome : Outcome) : System :=
  { s with
    transactions := Function.update s.transactions t none
    locks := s.locks.release t
    counters := Function.update s.counters transaction.server
      (afterCompletion status registered (s.counters transaction.server))
    history := s.history ++ [.finished t transaction.server outcome] }

def committed (s : System) (t : ℕ) (transaction : Transaction)
    (last : Completed) (acknowledged : Bool) : System :=
  let calls := transaction.earlier ++ [last]
  { s.completed t transaction (if acknowledged then .committed else .unknown)
      (incrementsOf calls) (.committed calls acknowledged) with
    db := s.db.applyAll (writesOf calls) }

def rolledBack (s : System) (t : ℕ) (transaction : Transaction)
    (status : CompletionStatus) (outcome : Outcome) : System :=
  s.completed t transaction status (incrementsOf transaction.earlier) outcome

def step (sha256 : List UInt8 → List UInt8) (s : System) :
    Action → Option System
  | .begin t server call =>
      if (s.transactions t).isNone && !s.started.contains t &&
          s.admitsFresh call then
        some (s.begun t server call)
      else none
  | .next t call =>
      match s.transactions t with
      | none => none
      | some transaction =>
          match transaction.rest with
          | .ask _ _ => none
          | .pure result =>
              if s.admitsFresh call then
                some (s.continued t transaction result call)
              else none
  | .exec t =>
      match s.transactions t with
      | none => none
      | some transaction =>
          match transaction.rest with
          | .pure _ => none
          | .ask statement next =>
              if (statement.needs sha256 (transaction.view s.db)).all
                  (s.locks.available t) then
                some (s.executed sha256 t transaction statement next)
              else none
  | .commit t acknowledged =>
      match s.transactions t with
      | none => none
      | some transaction =>
          match transaction.rest with
          | .pure (.ok returned, session) =>
              if transaction.rollbackOnly then none
              else some (s.committed t transaction
                ⟨transaction.call, returned, session⟩ acknowledged)
          | _ => none
  | .fail t =>
      match s.transactions t with
      | none => none
      | some transaction =>
          match transaction.rest with
          | .pure (.error exception, _) =>
              some (s.rolledBack t transaction .rolledBack (.failed exception))
          | _ => none
  | .abort t status =>
      match s.transactions t with
      | none => none
      | some transaction =>
          if status = .committed then none
          else some (s.rolledBack t transaction status (.aborted status))

def run (sha256 : List UInt8 → List UInt8) (s : System)
    (actions : List Action) : Option System :=
  actions.foldlM (step sha256) s

def Reachable (sha256 : List UInt8 → List UInt8) (s : System) : Prop :=
  ∃ actions, initial.run sha256 actions = some s

/-! ### What a move leaves to the other transactions -/

/-- The transactions that are live after one of them was replaced. -/
theorem live_of_update {s s' : System} {t u : ℕ}
    {updated : Option Transaction} {transaction : Transaction}
    (htransactions : s'.transactions =
      Function.update s.transactions t updated)
    (hlive : s'.transactions u = some transaction) :
    u = t ∧ updated = some transaction ∨
      u ≠ t ∧ s.transactions u = some transaction := by
  rw [htransactions] at hlive
  by_cases hsame : u = t
  · subst hsame
    rw [Function.update_self] at hlive
    exact Or.inl ⟨rfl, hlive⟩
  · rw [Function.update_of_ne hsame] at hlive
    exact Or.inr ⟨hsame, hlive⟩

/-- The transactions that are live after one of them has ended. -/
theorem live_of_ended {s s' : System} {t u : ℕ} {transaction : Transaction}
    (htransactions : s'.transactions = Function.update s.transactions t none)
    (hlive : s'.transactions u = some transaction) :
    u ≠ t ∧ s.transactions u = some transaction := by
  rcases live_of_update htransactions hlive with ⟨-, hnone⟩ | hother
  · cases hnone
  · exact hother

section Frame

variable {s : System} {t server other : ℕ} {transaction live : Transaction}
  {call : Call}

theorem begun_self
    (hlive : (s.begun t server call).transactions t = some live) :
    live = ⟨server, [], call, call.program, false⟩ := by
  simpa [begun, eq_comm] using hlive

theorem begun_other (hne : other ≠ t) :
    (s.begun t server call).transactions other = s.transactions other :=
  Function.update_of_ne hne _ _

theorem continued_self {result : Result}
    (hlive : (s.continued t transaction result call).transactions t =
      some live) :
    live = transaction.following result call := by
  simpa [continued, eq_comm] using hlive

theorem continued_other {result : Result} (hne : other ≠ t) :
    (s.continued t transaction result call).transactions other =
      s.transactions other :=
  Function.update_of_ne hne _ _

theorem committed_other {last : Completed} {acknowledged : Bool}
    (hne : other ≠ t) :
    (s.committed t transaction last acknowledged).transactions other =
        s.transactions other ∧
      (s.committed t transaction last acknowledged).locks.held other =
        s.locks.held other :=
  ⟨Function.update_of_ne hne _ _, LockTable.held_release_other hne⟩

theorem rolledBack_other {status : CompletionStatus} {outcome : Outcome}
    (hne : other ≠ t) :
    (s.rolledBack t transaction status outcome).transactions other =
        s.transactions other ∧
      (s.rolledBack t transaction status outcome).locks.held other =
        s.locks.held other :=
  ⟨Function.update_of_ne hne _ _, LockTable.held_release_other hne⟩

variable {sha256 : List UInt8 → List UInt8} {statement : Statement}
  {next : statement.Answer → Program Statement Statement.Answer Result}

theorem executed_self
    (hlive : (s.executed sha256 t transaction statement next).transactions t =
      some live) :
    live = { transaction with
      rest := next (statement.answer (transaction.view s.db)) } := by
  simpa [executed, eq_comm] using hlive

theorem held_executed_self :
    (s.executed sha256 t transaction statement next).locks.held t =
      s.locks.held t ∪ statement.takes sha256 (transaction.view s.db) :=
  LockTable.held_acquireAll_self _ _ _

theorem executed_other (hne : other ≠ t)
    (havailable : ∀ request ∈ statement.needs sha256 (transaction.view s.db),
      s.locks.available t request = true) :
    (s.executed sha256 t transaction statement next).transactions other =
        s.transactions other ∧
      (s.executed sha256 t transaction statement next).locks.held other =
        s.locks.held other :=
  ⟨Function.update_of_ne hne _ _,
    LockTable.held_acquireAll_other hne havailable⟩

end Frame

end System

/-! ## Inversion of a step -/

/-- Everything a step can do. -/
inductive Moves (sha256 : List UInt8 → List UInt8) (s : System) :
    Action → System → Prop where
  | begin {t server call} (hfree : s.transactions t = none)
      (hnew : t ∉ s.started) (hfresh : s.admitsFresh call = true) :
      Moves sha256 s (.begin t server call) (s.begun t server call)
  | next {t call transaction result}
      (hlive : s.transactions t = some transaction)
      (hrest : transaction.rest = .pure result)
      (hfresh : s.admitsFresh call = true) :
      Moves sha256 s (.next t call) (s.continued t transaction result call)
  | exec {t transaction statement next}
      (hlive : s.transactions t = some transaction)
      (hrest : transaction.rest = .ask statement next)
      (havailable : ∀ request ∈
          statement.needs sha256 (transaction.view s.db),
        s.locks.available t request = true) :
      Moves sha256 s (.exec t) (s.executed sha256 t transaction statement next)
  | commit {t acknowledged transaction returned session}
      (hlive : s.transactions t = some transaction)
      (hrest : transaction.rest = .pure (.ok returned, session))
      (hsound : transaction.rollbackOnly = false) :
      Moves sha256 s (.commit t acknowledged) (s.committed t transaction
        ⟨transaction.call, returned, session⟩ acknowledged)
  | fail {t transaction exception session}
      (hlive : s.transactions t = some transaction)
      (hrest : transaction.rest = .pure (.error exception, session)) :
      Moves sha256 s (.fail t)
        (s.rolledBack t transaction .rolledBack (.failed exception))
  | abort {t transaction status} (hlive : s.transactions t = some transaction)
      (hstatus : status ≠ .committed) :
      Moves sha256 s (.abort t status)
        (s.rolledBack t transaction status (.aborted status))

variable {sha256 : List UInt8 → List UInt8}

theorem System.moves_of_step {s s' : System} {action : Action}
    (hstep : s.step sha256 action = some s') : Moves sha256 s action s' := by
  cases action with
  | begin t server call =>
      simp only [step] at hstep
      split at hstep
      next hguard =>
        simp only [Bool.and_eq_true, Option.isNone_iff_eq_none,
          Bool.not_eq_true', List.contains_eq_mem,
          decide_eq_false_iff_not] at hguard
        obtain ⟨⟨hfree, hnew⟩, hfresh⟩ := hguard
        cases hstep
        exact .begin hfree hnew hfresh
      next => cases hstep
  | next t call =>
      cases hlive : s.transactions t with
      | none => simp [step, hlive] at hstep
      | some transaction =>
          cases hrest : transaction.rest with
          | ask statement next => simp [step, hlive, hrest] at hstep
          | pure result =>
              simp only [step, hlive, hrest] at hstep
              split at hstep
              next hfresh =>
                cases hstep
                exact .next hlive hrest hfresh
              next => cases hstep
  | exec t =>
      cases hlive : s.transactions t with
      | none => simp [step, hlive] at hstep
      | some transaction =>
          cases hrest : transaction.rest with
          | pure result => simp [step, hlive, hrest] at hstep
          | ask statement next =>
              simp only [step, hlive, hrest] at hstep
              split at hstep
              next hguard =>
                cases hstep
                exact .exec hlive hrest (List.all_eq_true.mp hguard)
              next => cases hstep
  | commit t acknowledged =>
      cases hlive : s.transactions t with
      | none => simp [step, hlive] at hstep
      | some transaction =>
          rcases hrest : transaction.rest with
            ⟨exception | returned, session⟩ | ⟨statement, next⟩
          · simp [step, hlive, hrest] at hstep
          · simp only [step, hlive, hrest] at hstep
            split at hstep
            next => cases hstep
            next hsound =>
              cases hstep
              exact .commit hlive hrest (Bool.not_eq_true _ ▸ hsound)
          · simp [step, hlive, hrest] at hstep
  | fail t =>
      cases hlive : s.transactions t with
      | none => simp [step, hlive] at hstep
      | some transaction =>
          rcases hrest : transaction.rest with
            ⟨exception | returned, session⟩ | ⟨statement, next⟩
          · simp only [step, hlive, hrest] at hstep
            cases hstep
            exact .fail hlive hrest
          · simp [step, hlive, hrest] at hstep
          · simp [step, hlive, hrest] at hstep
  | abort t status =>
      cases hlive : s.transactions t with
      | none => simp [step, hlive] at hstep
      | some transaction =>
          simp only [step, hlive] at hstep
          split at hstep
          next => cases hstep
          next hstatus =>
            cases hstep
            exact .abort hlive hstatus

/-- A step does what one of its moves says. -/
theorem Moves.step {s s' : System}
    {action : Action} (hmoves : Moves sha256 s action s') :
    s.step sha256 action = some s' := by
  cases hmoves with
  | begin hfree hnew hfresh => simp [System.step, hfree, hnew, hfresh]
  | next hlive hrest hfresh => simp [System.step, hlive, hrest, hfresh]
  | exec hlive hrest havailable =>
      simp only [System.step, hlive, hrest]
      exact if_pos (List.all_eq_true.mpr havailable)
  | commit hlive hrest hclean => simp [System.step, hlive, hrest, hclean]
  | fail hlive hrest => simp [System.step, hlive, hrest]
  | abort hlive hstatus => simp [System.step, hlive, hstatus]

/-- Only a commit changes the tables. -/
theorem System.db_of_not_commit {s s' : System} {action : Action}
    (hstep : s.step sha256 action = some s')
    (hnot : ∀ t acknowledged, action ≠ .commit t acknowledged) :
    s'.db = s.db := by
  cases System.moves_of_step hstep with
  | commit hlive hrest hclean => exact absurd rfl (hnot _ _)
  | _ => rfl

/-! ## Runs -/

namespace System

@[simp] theorem run_nil (s : System) : s.run sha256 [] = some s := rfl

theorem run_cons (s : System) (action : Action) (actions : List Action) :
    s.run sha256 (action :: actions) =
      (s.step sha256 action).bind fun s' => s'.run sha256 actions := rfl

theorem run_append (s : System) (first second : List Action) :
    s.run sha256 (first ++ second) =
      (s.run sha256 first).bind fun s' => s'.run sha256 second := by
  unfold run
  rw [List.foldlM_append]
  rfl

/-- What holds at the start and is kept by every step of the allowed actions
holds after every run of such actions. -/
theorem run_induction_of {P : System → Prop} {allowed : Action → Prop}
    {s s' : System} {actions : List Action}
    (hallowed : ∀ action ∈ actions, allowed action) (hstart : P s)
    (hstep : ∀ {s action s'}, allowed action → P s →
      Moves sha256 s action s' → P s')
    (hrun : s.run sha256 actions = some s') : P s' := by
  induction actions generalizing s with
  | nil =>
      cases hrun
      exact hstart
  | cons action actions ih =>
      rw [run_cons, Option.bind_eq_some_iff] at hrun
      obtain ⟨middle, hfirst, hrest⟩ := hrun
      have hmiddle : P middle :=
        hstep (hallowed action List.mem_cons_self) hstart (moves_of_step hfirst)
      exact ih (fun other hother =>
        hallowed other (List.mem_cons_of_mem _ hother)) hmiddle hrest

theorem run_induction {P : System → Prop} {s s' : System}
    {actions : List Action} (hstart : P s)
    (hstep : ∀ {s action s'}, P s → Moves sha256 s action s' → P s')
    (hrun : s.run sha256 actions = some s') : P s' :=
  run_induction_of (fun _ _ => trivial) hstart (fun _ => hstep) hrun

theorem Reachable.induction {P : System → Prop} (hinitial : P initial)
    (hstep : ∀ {s action s'}, P s → Moves sha256 s action s' → P s')
    {s : System} (hreach : Reachable sha256 s) : P s := by
  obtain ⟨actions, hrun⟩ := hreach
  exact run_induction hinitial hstep hrun

theorem Reachable.run {s s' : System} {actions : List Action}
    (hreach : Reachable sha256 s) (hrun : s.run sha256 actions = some s') :
    Reachable sha256 s' := by
  obtain ⟨earlier, hearlier⟩ := hreach
  exact ⟨earlier ++ actions, by rw [run_append, hearlier]; exact hrun⟩

/-- A product is created and restocked, two instances reserve under one key,
and the reservation is cancelled. -/
def sampleActions : List Action :=
  [.begin 0 0 (.createProduct ⟨1, ⟨1000⟩⟩ (some [97, 49]) (some [65]) 5),
    .exec 0, .exec 0, .commit 0 true,
    .begin 1 0 (.addStock 1 4), .exec 1, .exec 1, .commit 1 true,
    .begin 2 1 (.reserve ⟨2, ⟨2000⟩⟩ 1 3 (some [99]) (some [107])),
    .begin 3 2 (.reserve ⟨3, ⟨2000⟩⟩ 1 3 (some [99]) (some [107])),
    .exec 2, .exec 2, .exec 2, .exec 2, .exec 2, .exec 2, .commit 2 true,
    .exec 3, .exec 3, .commit 3 true,
    .begin 4 1 (.cancelReservation ⟨3000⟩ 2 (some [99])),
    .exec 4, .exec 4, .exec 4, .exec 4, .commit 4 true]

end System

end InventoryCloud

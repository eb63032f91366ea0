import InventoryCloud.TransactionSystem

/-!
# The history of committed calls

In every reachable state the committed rows are those which the calls of the
committed transactions produce when they run one after another, in the order
of the commits.  A call that changed a row happened on the rows left by its
predecessors; a call that changed nothing happened on these or on an earlier
state of the tables.
-/

namespace InventoryCloud

open Interaction
open Interaction.Interference
open Locking

/-- The call happened as if it had run alone on the database. -/
def Completed.HappensOn (completed : Completed) (db : Database) : Prop :=
  Performs db completed.call completed.returned completed.session ∨
    (completed.session.writes = [] ∧ ∃ moment : Database,
      moment.WellFormed ∧ moment.Evolves db ∧
        Performs moment completed.call completed.returned completed.session)

/-- The calls happen one after another, starting on the database. -/
def Serial : Database → List Completed → Prop
  | _, [] => True
  | db, completed :: calls => completed.HappensOn db ∧
      Serial (db.applyAll completed.session.writes) calls

@[simp] theorem writesOf_nil : writesOf [] = [] := rfl

@[simp] theorem writesOf_cons (completed : Completed)
    (calls : List Completed) :
    writesOf (completed :: calls) =
      completed.session.writes ++ writesOf calls := rfl

theorem writesOf_append (first second : List Completed) :
    writesOf (first ++ second) = writesOf first ++ writesOf second :=
  List.flatMap_append

theorem applyAll_writesOf_snoc (db : Database) (calls : List Completed)
    (last : Completed) :
    db.applyAll (writesOf (calls ++ [last])) =
      (db.applyAll (writesOf calls)).applyAll last.session.writes := by
  rw [writesOf_append, writesOf_cons, writesOf_nil, List.append_nil,
    Database.applyAll_append]

theorem Serial.append {db : Database} {first second : List Completed} :
    Serial db (first ++ second) ↔
      Serial db first ∧ Serial (db.applyAll (writesOf first)) second := by
  induction first generalizing db with
  | nil => simp [Serial]
  | cons completed calls ih =>
      simp only [List.cons_append, Serial, ih, and_assoc, writesOf_cons,
        Database.applyAll_append]

theorem Completed.HappensOn.legalAll {completed : Completed} {db : Database}
    (hwell : db.WellFormed) (hhappens : completed.HappensOn db) :
    db.LegalAll completed.session.writes := by
  rcases hhappens with hperforms | ⟨hquiet, -⟩
  · exact hperforms.legalAll hwell
  · rw [hquiet]
    trivial

theorem Database.LegalAll.append {db : Database} {first second : List Write}
    (hfirst : db.LegalAll first)
    (hsecond : (db.applyAll first).LegalAll second) :
    db.LegalAll (first ++ second) := by
  induction first generalizing db with
  | nil => exact hsecond
  | cons write writes ih => exact ⟨hfirst.1, ih hfirst.2 hsecond⟩

theorem Serial.legalAll {db : Database} {calls : List Completed}
    (hwell : db.WellFormed) (hserial : Serial db calls) :
    db.LegalAll (writesOf calls) := by
  induction calls generalizing db with
  | nil => trivial
  | cons completed calls ih =>
      have hfirst := hserial.1.legalAll hwell
      exact hfirst.append (ih (hfirst.wellFormed hwell) hserial.2)

theorem Serial.wellFormed {db : Database} {calls : List Completed}
    (hwell : db.WellFormed) (hserial : Serial db calls) :
    (db.applyAll (writesOf calls)).WellFormed :=
  (hserial.legalAll hwell).wellFormed hwell

/-- A position in the history of committed calls. -/
theorem Serial.split {db : Database} {calls : List Completed}
    (hserial : Serial db calls) {completed : Completed}
    (hmem : completed ∈ calls) :
    ∃ before after, calls = before ++ completed :: after ∧
      completed.HappensOn (db.applyAll (writesOf before)) ∧
        Serial (db.applyAll (writesOf (before ++ [completed]))) after := by
  obtain ⟨before, after, rfl⟩ := List.append_of_mem hmem
  rw [Serial.append] at hserial
  obtain ⟨-, hhappens, hafter⟩ := hserial
  refine ⟨before, after, rfl, hhappens, ?_⟩
  rwa [applyAll_writesOf_snoc]

theorem Serial.evolves {db : Database} {calls : List Completed}
    (hwell : db.WellFormed) (hserial : Serial db calls) :
    db.Evolves (db.applyAll (writesOf calls)) :=
  (hserial.legalAll hwell).evolves

/-! ## Live transactions -/

/-- Every call the transaction has completed is explained on the view it had,
and the locks cover what it wrote. -/
def Accounted (sha256 : List UInt8 → List UInt8) (held : Set Lock) :
    Database → List Completed → Prop
  | _, [] => True
  | view, completed :: calls =>
      (serviceInterference sha256).Explained (fun _ => True) held view
          completed.call.program
          (.pure (.ok completed.returned, completed.session)) ∧
        (∀ write ∈ completed.session.writes, Covers sha256 held write) ∧
        Accounted sha256 held (view.applyAll completed.session.writes) calls

variable {sha256 : List UInt8 → List UInt8}

namespace Accounted

variable {held : Set Lock} {db : Database} {calls : List Completed}

theorem later {after : Database} (hrely : Rely sha256 held db after)
    (haccounted : Accounted sha256 held db calls) :
    Accounted sha256 held after calls := by
  induction calls generalizing db after with
  | nil => trivial
  | cons completed calls ih =>
      obtain ⟨hexplained, hcovers, hrest⟩ := haccounted
      exact ⟨hexplained.later hrely, hcovers,
        ih (hrely.applyAll hcovers) hrest⟩

theorem mono {more : Set Lock} (hsub : held ⊆ more)
    (haccounted : Accounted sha256 held db calls) :
    Accounted sha256 more db calls := by
  induction calls generalizing db with
  | nil => trivial
  | cons completed calls ih =>
      obtain ⟨hexplained, hcovers, hrest⟩ := haccounted
      exact ⟨hexplained.mono hsub,
        fun write hwrite => (hcovers write hwrite).mono hsub, ih hrest⟩

theorem covers (haccounted : Accounted sha256 held db calls) :
    ∀ write ∈ writesOf calls, Covers sha256 held write := by
  induction calls generalizing db with
  | nil =>
      intro write hwrite
      cases hwrite
  | cons completed calls ih =>
      intro write hwrite
      rcases List.mem_append.mp hwrite with hfirst | hrest
      · exact haccounted.2.1 write hfirst
      · exact ih haccounted.2.2 write hrest

theorem snoc {last : Completed}
    (haccounted : Accounted sha256 held db calls)
    (hexplained : (serviceInterference sha256).Explained (fun _ => True) held
      (db.applyAll (writesOf calls)) last.call.program
        (.pure (.ok last.returned, last.session)))
    (hcovers : ∀ write ∈ last.session.writes, Covers sha256 held write) :
    Accounted sha256 held db (calls ++ [last]) := by
  induction calls generalizing db with
  | nil => exact ⟨hexplained, hcovers, trivial⟩
  | cons completed calls ih =>
      rw [writesOf_cons, Database.applyAll_append] at hexplained
      exact ⟨haccounted.1, haccounted.2.1, ih haccounted.2.2 hexplained⟩

/-- On a well-formed database the explained calls happen in their order. -/
theorem serial (hwell : db.WellFormed)
    (haccounted : Accounted sha256 held db calls) : Serial db calls := by
  induction calls generalizing db with
  | nil => trivial
  | cons completed calls ih =>
      obtain ⟨hexplained, -, hrest⟩ := haccounted
      have hhappens : completed.HappensOn db := by
        rcases hexplained.finished hwell with
          hnow | ⟨hquiet, moment, hmoment, -, hpast, hthen⟩
        · exact Or.inl (performs_of_resultOn hnow)
        · exact Or.inr ⟨hquiet, moment, hmoment, hpast.evolves,
            performs_of_resultOn hthen⟩
      exact ⟨hhappens, ih ((hhappens.legalAll hwell).wellFormed hwell) hrest⟩

end Accounted

/-- What is known of a transaction that may still commit. -/
structure Transaction.Sound (sha256 : List UInt8 → List UInt8)
    (held : Set Lock) (db : Database) (transaction : Transaction) : Prop where
  accounted : Accounted sha256 held db transaction.earlier
  explained : (serviceInterference sha256).Explained (fun _ => True) held
    (transaction.view db) transaction.call.program transaction.rest
  guarded : (serviceInterference sha256).Guarded held transaction.rest

namespace Transaction.Sound

variable {held : Set Lock} {db : Database} {transaction : Transaction}

theorem later {after : Database} (hrely : Rely sha256 held db after)
    (hsound : transaction.Sound sha256 held db) :
    transaction.Sound sha256 held after where
  accounted := hsound.accounted.later hrely
  explained := hsound.explained.later (hrely.applyAll hsound.accounted.covers)
  guarded := hsound.guarded

theorem view_wellFormed (hwell : db.WellFormed)
    (hsound : transaction.Sound sha256 held db) :
    (transaction.view db).WellFormed :=
  (hsound.accounted.serial hwell).wellFormed hwell

/-- The calls of a transaction whose current call returned. -/
theorem snoc {returned : Returned} {session : Session}
    (hsound : transaction.Sound sha256 held db)
    (hrest : transaction.rest = .pure (.ok returned, session)) :
    Accounted sha256 held db
      (transaction.earlier ++ [⟨transaction.call, returned, session⟩]) := by
  have hexplained := hsound.explained
  have hguarded := hsound.guarded
  rw [hrest] at hexplained hguarded
  exact hsound.accounted.snoc hexplained hguarded

end Transaction.Sound

/-! ## Reachable states -/

/-- The calls an event made durable. -/
def Event.durable : Event → List Completed
  | .finished _ _ (.committed calls _) => calls
  | _ => []

namespace System

/-- The calls of the committed transactions in the order of the commits. -/
def durable (s : System) : List Completed :=
  s.history.flatMap Event.durable

structure Invariant (sha256 : List UInt8 → List UInt8) (s : System) :
    Prop where
  serial : Serial .empty s.durable
  rows : s.db = Database.empty.applyAll (writesOf s.durable)
  sound : ∀ {t transaction}, s.transactions t = some transaction →
    transaction.rollbackOnly = false →
      transaction.Sound sha256 (s.locks.held t) s.db
  idle : ∀ {t}, s.transactions t = none → s.locks.held t = ∅

theorem Invariant.wellFormed {s : System} (hinv : s.Invariant sha256) :
    s.db.WellFormed := by
  rw [hinv.rows]
  exact hinv.serial.wellFormed Database.wellFormed_empty

theorem durable_append (history : List Event) (event : Event) :
    (history ++ [event]).flatMap Event.durable =
      history.flatMap Event.durable ++ event.durable := by
  simp

theorem invariant_initial : initial.Invariant sha256 where
  serial := trivial
  rows := rfl
  sound hlive := by cases hlive
  idle _ := by
    ext resource
    simp [initial, LockTable.empty]

/-- A transaction that ends without a commit leaves the others alone. -/
theorem Invariant.rolledBack {s : System} (hinv : s.Invariant sha256) {t : ℕ}
    {transaction : Transaction} {status : CompletionStatus}
    {outcome : Outcome}
    (hquiet : (Event.finished t transaction.server outcome).durable = []) :
    (s.rolledBack t transaction status outcome).Invariant sha256 := by
  have hdurable : (s.rolledBack t transaction status outcome).durable =
      s.durable := by
    unfold durable
    rw [System.rolledBack, System.completed, durable_append, hquiet,
      List.append_nil]
  constructor
  · rw [hdurable]
    exact hinv.serial
  · rw [hdurable]
    exact hinv.rows
  · intro other live hlive hclean
    by_cases hother : other = t
    · subst hother
      simp [System.rolledBack, System.completed] at hlive
    · obtain ⟨hkept, hheld⟩ := rolledBack_other hother
      rw [hkept] at hlive
      rw [hheld]
      exact hinv.sound hlive hclean
  · intro other hidle
    by_cases hother : other = t
    · subst hother
      exact LockTable.held_release_self s.locks other
    · obtain ⟨hkept, hheld⟩ := rolledBack_other hother
      rw [hkept] at hidle
      exact hheld.trans (hinv.idle hidle)

theorem Invariant.committed {s : System} (hinv : s.Invariant sha256) {t : ℕ}
    {transaction : Transaction} {returned : Returned} {session : Session}
    {acknowledged : Bool} (hlive : s.transactions t = some transaction)
    (hrest : transaction.rest = .pure (.ok returned, session))
    (hclean : transaction.rollbackOnly = false) :
    (s.committed t transaction ⟨transaction.call, returned, session⟩
      acknowledged).Invariant sha256 := by
  have haccounted := (hinv.sound hlive hclean).snoc hrest
  have hserial := haccounted.serial hinv.wellFormed
  have hdurable : (s.committed t transaction
      ⟨transaction.call, returned, session⟩ acknowledged).durable =
        s.durable ++ (transaction.earlier ++
          [⟨transaction.call, returned, session⟩]) :=
    durable_append s.history _
  constructor
  · rw [hdurable, Serial.append, ← hinv.rows]
    exact ⟨hinv.serial, hserial⟩
  · rw [hdurable, writesOf_append, Database.applyAll_append, ← hinv.rows]
    rfl
  · intro other live hother hothersClean
    by_cases hsame : other = t
    · subst hsame
      simp [System.committed, System.completed] at hother
    · obtain ⟨hkept, hheld⟩ := committed_other hsame
      rw [hkept] at hother
      have hrely := Rely.frameAll haccounted.covers
        (LockTable.held_disjoint s.locks (Ne.symm hsame))
        (hserial.legalAll hinv.wellFormed)
      rw [hheld]
      exact (hinv.sound hother hothersClean).later hrely
  · intro other hidle
    by_cases hsame : other = t
    · subst hsame
      exact LockTable.held_release_self s.locks other
    · obtain ⟨hkept, hheld⟩ := committed_other hsame
      rw [hkept] at hidle
      exact hheld.trans (hinv.idle hidle)

theorem Invariant.begun {s : System} (hinv : s.Invariant sha256)
    {t server : ℕ} {call : Call} :
    (s.begun t server call).Invariant sha256 := by
  have hdurable : (s.begun t server call).durable = s.durable := by
    unfold durable
    rw [System.begun, durable_append]
    exact List.append_nil _
  constructor
  · rw [hdurable]
    exact hinv.serial
  · rw [hdurable]
    exact hinv.rows
  · intro other live hlive hclean
    by_cases hother : other = t
    · subst hother
      cases begun_self hlive
      exact ⟨trivial, .start _ _ _, guarded_program call⟩
    · rw [begun_other hother] at hlive
      exact hinv.sound hlive hclean
  · intro other hidle
    by_cases hother : other = t
    · subst hother
      simp [System.begun] at hidle
    · rw [begun_other hother] at hidle
      exact hinv.idle hidle

theorem Invariant.continued {s : System} (hinv : s.Invariant sha256) {t : ℕ}
    {transaction : Transaction} {result : Result} {call : Call}
    (hlive : s.transactions t = some transaction)
    (hrest : transaction.rest = .pure result) :
    (s.continued t transaction result call).Invariant sha256 := by
  constructor
  · exact hinv.serial
  · exact hinv.rows
  · intro other live hother hclean
    by_cases hsame : other = t
    · subst hsame
      cases continued_self hother
      obtain ⟨exception | returned, session⟩ := result
      · cases hclean
      · exact ⟨(hinv.sound hlive hclean).snoc hrest, .start _ _ _,
          guarded_program call⟩
    · rw [continued_other hsame] at hother
      exact hinv.sound hother hclean
  · intro other hidle
    by_cases hsame : other = t
    · subst hsame
      simp [System.continued] at hidle
    · rw [continued_other hsame] at hidle
      exact hinv.idle hidle

theorem Invariant.executed {s : System} (hinv : s.Invariant sha256) {t : ℕ}
    {transaction : Transaction} {statement : Statement}
    {next : statement.Answer → Program Statement Statement.Answer Result}
    (hlive : s.transactions t = some transaction)
    (hrest : transaction.rest = .ask statement next)
    (havailable : ∀ request ∈ statement.needs sha256 (transaction.view s.db),
      s.locks.available t request = true) :
    (s.executed sha256 t transaction statement next).Invariant sha256 := by
  constructor
  · exact hinv.serial
  · exact hinv.rows
  · intro other live hother hclean
    by_cases hsame : other = t
    · subst hsame
      cases executed_self hother
      have hsound := hinv.sound hlive hclean
      have hview := hsound.view_wellFormed hinv.wellFormed
      have hguarded := hsound.guarded
      have hexplained := hsound.explained
      rw [hrest] at hguarded hexplained
      rw [held_executed_self]
      exact ⟨hsound.accounted.mono Set.subset_union_left,
        hexplained.step hview trivial hguarded, hguarded.rest hview⟩
    · obtain ⟨hkept, hheld⟩ := executed_other hsame havailable
      rw [hkept] at hother
      rw [hheld]
      exact hinv.sound hother hclean
  · intro other hidle
    by_cases hsame : other = t
    · subst hsame
      simp [System.executed] at hidle
    · obtain ⟨hkept, hheld⟩ := executed_other hsame havailable
      rw [hkept] at hidle
      exact hheld.trans (hinv.idle hidle)

theorem Invariant.step {s s' : System} {action : Action}
    (hinv : s.Invariant sha256) (hmoves : Moves sha256 s action s') :
    s'.Invariant sha256 := by
  cases hmoves with
  | begin hfree hnew hfresh => exact hinv.begun
  | next hlive hrest hfresh => exact hinv.continued hlive hrest
  | exec hlive hrest havailable => exact hinv.executed hlive hrest havailable
  | commit hlive hrest hclean => exact hinv.committed hlive hrest hclean
  | fail hlive hrest => exact hinv.rolledBack rfl
  | abort hlive hstatus => exact hinv.rolledBack rfl

/-- What a step of one transaction leaves to another. -/
theorem Invariant.frame {s s' : System} {action : Action}
    (hinv : s.Invariant sha256) (hmoves : Moves sha256 s action s') {t : ℕ}
    (hne : t ≠ action.transaction) :
    s'.transactions t = s.transactions t ∧
      s'.locks.held t = s.locks.held t ∧
        Rely sha256 (s.locks.held t) s.db s'.db := by
  cases hmoves with
  | begin hfree hnew hfresh =>
      exact ⟨Function.update_of_ne hne _ _, rfl, Rely.refl _ _⟩
  | next hlive hrest hfresh =>
      exact ⟨Function.update_of_ne hne _ _, rfl, Rely.refl _ _⟩
  | exec hlive hrest havailable =>
      exact ⟨Function.update_of_ne hne _ _,
        LockTable.held_acquireAll_other hne havailable, Rely.refl _ _⟩
  | commit hlive hrest hclean =>
      have haccounted := (hinv.sound hlive hclean).snoc hrest
      have hserial := haccounted.serial hinv.wellFormed
      exact ⟨Function.update_of_ne hne _ _, LockTable.held_release_other hne,
        Rely.frameAll haccounted.covers
          (LockTable.held_disjoint s.locks (Ne.symm hne))
          (hserial.legalAll hinv.wellFormed)⟩
  | fail hlive hrest =>
      exact ⟨Function.update_of_ne hne _ _, LockTable.held_release_other hne,
        Rely.refl _ _⟩
  | abort hlive hstatus =>
      exact ⟨Function.update_of_ne hne _ _, LockTable.held_release_other hne,
        Rely.refl _ _⟩

/-- Every reachable state is accounted for by its committed calls. -/
theorem Reachable.invariant {s : System} (hreach : Reachable sha256 s) :
    s.Invariant sha256 :=
  hreach.induction invariant_initial fun hinv hmoves => hinv.step hmoves

/-- A step changes the tables by a commit only, and lets them evolve. -/
theorem Invariant.evolves {s s' : System} {action : Action}
    (hinv : s.Invariant sha256) (hmoves : Moves sha256 s action s') :
    s.db.Evolves s'.db := by
  cases hmoves with
  | commit hlive hrest hclean =>
      have hserial := ((hinv.sound hlive hclean).snoc hrest).serial
        hinv.wellFormed
      exact (hserial.legalAll hinv.wellFormed).evolves
  | _ => exact .refl s.db

theorem Reachable.evolves {s s' : System} {actions : List Action}
    (hreach : Reachable sha256 s) (hrun : s.run sha256 actions = some s') :
    s.db.Evolves s'.db := by
  have hboth : s'.Invariant sha256 ∧ s.db.Evolves s'.db :=
    @run_induction sha256 (fun s' => s'.Invariant sha256 ∧ s.db.Evolves s'.db)
      s s' actions ⟨hreach.invariant, .refl s.db⟩
      (fun ⟨hinv, hevolves⟩ hmoves =>
        ⟨hinv.step hmoves, hevolves.trans (hinv.evolves hmoves)⟩) hrun
  exact hboth.2

/-- The calls of a reachable state around one of them. -/
theorem Reachable.split {s : System} (hreach : Reachable sha256 s)
    {completed : Completed} (hmem : completed ∈ s.durable) :
    ∃ before after : List Completed,
      s.durable = before ++ completed :: after ∧
        (Database.empty.applyAll (writesOf before)).WellFormed ∧
        completed.HappensOn (Database.empty.applyAll (writesOf before)) ∧
          (Database.empty.applyAll
            (writesOf (before ++ [completed]))).Evolves s.db := by
  have hinv := hreach.invariant
  obtain ⟨before, after, hsplit, hhappens, hafter⟩ := hinv.serial.split hmem
  have hserial := hinv.serial
  rw [hsplit, List.append_cons, Serial.append, Serial.append] at hserial
  have hwell := hserial.1.1.wellFormed Database.wellFormed_empty
  have hnext : (Database.empty.applyAll
      (writesOf (before ++ [completed]))).WellFormed := by
    rw [← Serial.append] at hserial
    exact hserial.1.wellFormed Database.wellFormed_empty
  refine ⟨before, after, hsplit, hwell, hhappens, ?_⟩
  have hevolves := hafter.evolves hnext
  rwa [← Database.applyAll_append, ← writesOf_append, ← List.append_cons,
    ← hsplit, ← hinv.rows] at hevolves

end System

end InventoryCloud

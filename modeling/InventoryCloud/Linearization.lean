import InventoryCloud.CallMoments

/-!
# Linearizability of the service

The order is built along the run.  A call enters it when its outcome is
decided: at the statement whose answer decides a call without effect, at the
commit otherwise.  A call that is aborted after it was decided had no effect
and leaves the order again.
-/

namespace InventoryCloud

open Interaction
open Interaction.Interference
open Locking

/-- A call with its place in the order and its result there. -/
structure Entry where
  transaction : ℕ
  call : Call
  result : Result

/-- The bodies run one after another give the results of the order. -/
def Sequential : Database → List Entry → Prop
  | _, [] => True
  | db, entry :: order => entry.call.resultOn db = entry.result ∧
      Sequential (entry.call.after db) order

def finalTables (db : Database) (order : List Entry) : Database :=
  order.foldl (fun current entry => entry.call.after current) db

theorem Sequential.snoc {db : Database} {order : List Entry} {entry : Entry}
    (hsequential : Sequential db order)
    (hlast : entry.call.resultOn (finalTables db order) = entry.result) :
    Sequential db (order ++ [entry]) := by
  induction order generalizing db with
  | nil => exact ⟨hlast, trivial⟩
  | cons first order ih => exact ⟨hsequential.1, ih hsequential.2 hlast⟩

theorem finalTables_snoc (db : Database) (order : List Entry) (entry : Entry) :
    finalTables db (order ++ [entry]) =
      entry.call.after (finalTables db order) := by
  simp [finalTables, List.foldl_append]

/-- Calls without effect can be taken out of the order. -/
theorem Sequential.filter {db : Database} {order : List Entry}
    {keep : Entry → Bool}
    (hquiet : ∀ entry ∈ order, keep entry = false → effect entry.result = [])
    (hsequential : Sequential db order) :
    Sequential db (order.filter keep) ∧
      finalTables db (order.filter keep) = finalTables db order := by
  induction order generalizing db with
  | nil => exact ⟨trivial, rfl⟩
  | cons first order ih =>
      obtain ⟨hfirst, hrest⟩ := hsequential
      have htail := fun entry hentry =>
        hquiet entry (List.mem_cons_of_mem _ hentry)
      cases hkeep : keep first with
      | true =>
          obtain ⟨hkept, htables⟩ := ih htail hrest
          rw [List.filter_cons_of_pos hkeep]
          exact ⟨⟨hfirst, hkept⟩, htables⟩
      | false =>
          have hsame : first.call.after db = db := by
            rw [Call.after_of_resultOn hfirst,
              hquiet first List.mem_cons_self hkeep, Database.applyAll_nil]
          rw [hsame] at hrest
          obtain ⟨hkept, htables⟩ := ih htail hrest
          have hcons : finalTables db (first :: order) =
              finalTables (first.call.after db) order := rfl
          rw [List.filter_cons_of_neg (by rw [hkeep]; decide), hcons, hsame]
          exact ⟨hkept, htables⟩

/-! ## Real time and responses -/

/-- The first transaction has finished before the second is invoked. -/
def Before (history : List Event) (t u : ℕ) : Prop :=
  ∃ earlier later server outcome place call,
    history = earlier ++ later ∧ .finished t server outcome ∈ earlier ∧
      Event.invoked u place call ∈ later

theorem Before.finished {history : List Event} {t u : ℕ}
    (hbefore : Before history t u) :
    ∃ server outcome, Event.finished t server outcome ∈ history := by
  obtain ⟨earlier, later, server, outcome, -, -, rfl, hfinished, -⟩ := hbefore
  exact ⟨server, outcome, List.mem_append_left _ hfinished⟩

theorem before_append {history : List Event} {event : Event} {t u : ℕ}
    (hbefore : Before (history ++ [event]) t u) :
    Before history t u ∨ ∃ place call, event = .invoked u place call := by
  obtain ⟨earlier, later, server, outcome, place, call, heq, hfinished,
    hinvoked⟩ := hbefore
  rcases List.eq_nil_or_concat later with rfl | ⟨front, last, rfl⟩
  · cases hinvoked
  · rw [List.concat_eq_append, ← List.append_assoc] at heq
    obtain ⟨hhistory, hlast⟩ := List.append_inj' heq rfl
    rw [List.concat_eq_append] at hinvoked
    rcases List.mem_append.mp hinvoked with hfront | hend
    · exact Or.inl ⟨earlier, front, server, outcome, place, call, hhistory,
        hfinished, hfront⟩
    · have hevent : Event.invoked u place call = last :=
        List.mem_singleton.mp hend
      exact Or.inr ⟨place, call,
        (List.cons.inj hlast).1.trans hevent.symm⟩

def JavaException.isDomainError : JavaException → Bool
  | .illegalArgument _ => true
  | .domain _ _ => true
  | _ => false

/-- The call committed or threw. -/
def Outcome.Answers : Outcome → Prop
  | .aborted _ => False
  | _ => True

/-- The call committed or ended in a domain error. -/
def Outcome.Counts : Outcome → Prop
  | .committed _ _ => True
  | .failed exception => exception.isDomainError = true
  | .aborted _ => False

theorem Outcome.Counts.answers {outcome : Outcome} (hcounts : outcome.Counts) :
    outcome.Answers := by
  cases outcome with
  | aborted status => exact hcounts
  | _ => trivial

/-! ## The order along a run -/

def Action.IsPointCall : Action → Prop
  | .begin _ _ (.listProducts _) => False
  | .begin _ _ (.listReservations _ _) => False
  | .next _ _ => False
  | _ => True

variable {sha256 : List UInt8 → List UInt8}

/-- How the order accounts for a live transaction. -/
def Settled (sha256 : List UInt8 → List UInt8) (order : List Entry)
    (held : Set Lock) (db : Database) (t : ℕ) (transaction : Transaction) :
    Prop :=
  (∃ result, ⟨t, transaction.call, result⟩ ∈ order ∧ effect result = [] ∧
      (serviceInterference sha256).Forces held db transaction.rest result) ∨
    (t ∉ order.map (·.transaction) ∧
      (serviceInterference sha256).Agree held db transaction.call.program
        transaction.rest)

theorem Settled.later {order : List Entry} {held : Set Lock}
    {db after : Database} {t : ℕ} {transaction : Transaction}
    (hrely : Rely sha256 held db after)
    (hsettled : Settled sha256 order held db t transaction) :
    Settled sha256 order held after t transaction := by
  rcases hsettled with ⟨result, hmem, hquiet, hforces⟩ | ⟨hnew, hagree⟩
  · exact Or.inl ⟨result, hmem, hquiet, hforces.later hrely⟩
  · exact Or.inr ⟨hnew, hagree.later hrely⟩

theorem Settled.snoc {order : List Entry} {held : Set Lock} {db : Database}
    {t : ℕ} {transaction : Transaction} {entry : Entry}
    (hne : t ≠ entry.transaction)
    (hsettled : Settled sha256 order held db t transaction) :
    Settled sha256 (order ++ [entry]) held db t transaction := by
  rcases hsettled with ⟨result, hmem, hquiet, hforces⟩ | ⟨hnew, hagree⟩
  · exact Or.inl ⟨result, List.mem_append_left _ hmem, hquiet, hforces⟩
  · refine Or.inr ⟨?_, hagree⟩
    rw [List.map_append, List.mem_append, not_or]
    exact ⟨hnew, by simpa using hne⟩

theorem Settled.filter {order : List Entry} {held : Set Lock} {db : Database}
    {t gone : ℕ} {transaction : Transaction} (hne : t ≠ gone)
    (hsettled : Settled sha256 order held db t transaction) :
    Settled sha256 (order.filter (·.transaction ≠ gone)) held db t
      transaction := by
  rcases hsettled with ⟨result, hmem, hquiet, hforces⟩ | ⟨hnew, hagree⟩
  · exact Or.inl ⟨result, List.mem_filter.mpr ⟨hmem, by simpa using hne⟩,
      hquiet, hforces⟩
  · refine Or.inr ⟨fun hmem => hnew ?_, hagree⟩
    obtain ⟨entry, hentry, rfl⟩ := List.mem_map.mp hmem
    exact List.mem_map_of_mem (List.mem_filter.mp hentry).1

/-- How the order fits the history. -/
structure Arranged (s : System) (order : List Entry) : Prop where
  nodup : (order.map (·.transaction)).Nodup
  invoked : ∀ entry ∈ order, ∃ server,
    Event.invoked entry.transaction server entry.call ∈ s.history
  answered : ∀ entry ∈ order, ∀ outcome,
    s.Finished entry.transaction outcome →
      outcome.Matches entry.call entry.result
  complete : ∀ t outcome, s.Finished t outcome → outcome.Answers →
    t ∈ order.map (·.transaction)
  placed : ∀ entry ∈ order,
    (∃ transaction, s.transactions entry.transaction = some transaction) ∨
      ∃ outcome, s.Finished entry.transaction outcome ∧ outcome.Answers
  realTime : ∀ t u, t ∈ order.map (·.transaction) →
    u ∈ order.map (·.transaction) → Before s.history t u →
      [t, u].Sublist (order.map (·.transaction))

structure Linearized (sha256 : List UInt8 → List UInt8) (s : System)
    (order : List Entry) : Prop where
  sequential : Sequential .empty order
  tables : finalTables .empty order = s.db
  arranged : Arranged s order
  single : ∀ {t transaction}, s.transactions t = some transaction →
    transaction.earlier = [] ∧ transaction.rollbackOnly = false ∧
      Event.invoked t transaction.server transaction.call ∈ s.history
  settled : ∀ {t transaction}, s.transactions t = some transaction →
    Settled sha256 order (s.locks.held t) s.db t transaction

/-! ## The arrangement under steps -/

namespace Arranged

variable {s s' : System} {order : List Entry}

/-- A live call enters the order at its end. -/
theorem snoc (harranged : Arranged s order) (hchronicle : s.Chronicle)
    {entry : Entry} {transaction : Transaction}
    (hlive : s.transactions entry.transaction = some transaction)
    (hnew : entry.transaction ∉ order.map (·.transaction))
    (hinvoked : ∃ server,
      Event.invoked entry.transaction server entry.call ∈ s.history) :
    Arranged s (order ++ [entry]) where
  nodup := by
    rw [List.map_append, List.nodup_append]
    refine ⟨harranged.nodup, List.nodup_singleton _, ?_⟩
    intro t ht u hu heq
    have hsame : t = entry.transaction :=
      heq.trans (List.mem_singleton.mp hu)
    exact hnew (hsame ▸ ht)
  invoked := by
    intro other hother
    rcases List.mem_append.mp hother with hold | hlast
    · exact harranged.invoked other hold
    · rw [List.mem_singleton.mp hlast]
      exact hinvoked
  answered := by
    intro other hother outcome hfinished
    rcases List.mem_append.mp hother with hold | hlast
    · exact harranged.answered other hold outcome hfinished
    · rw [List.mem_singleton.mp hlast] at hfinished
      exact absurd hfinished (hchronicle.unfinished hlive)
  complete := by
    intro t outcome hfinished hanswers
    rw [List.map_append]
    exact List.mem_append_left _
      (harranged.complete t outcome hfinished hanswers)
  placed := by
    intro other hother
    rcases List.mem_append.mp hother with hold | hlast
    · exact harranged.placed other hold
    · rw [List.mem_singleton.mp hlast]
      exact Or.inl ⟨transaction, hlive⟩
  realTime := by
    intro t u ht hu hbefore
    rw [List.map_append] at ht hu ⊢
    obtain ⟨server, outcome, hfinished⟩ := hbefore.finished
    have htold : t ∈ order.map (·.transaction) := by
      rcases List.mem_append.mp ht with hold | hlast
      · exact hold
      · have heq : t = entry.transaction := List.mem_singleton.mp hlast
        exact absurd ⟨server, heq ▸ hfinished⟩ (hchronicle.unfinished hlive)
    rcases List.mem_append.mp hu with hold | hlast
    · exact (harranged.realTime t u htold hold hbefore).trans
        (List.sublist_append_left _ _)
    · have hlastSub : [u].Sublist ([entry].map (·.transaction)) := by
        rw [List.mem_singleton.mp hlast]
        exact List.Sublist.refl _
      exact (List.singleton_sublist.mpr htold).append hlastSub

/-- The order still fits when no event is added and the same transactions are
live. -/
theorem transfer (harranged : Arranged s order)
    (hhistory : s'.history = s.history)
    (hlive : ∀ t transaction, s.transactions t = some transaction →
      ∃ other, s'.transactions t = some other) : Arranged s' order where
  nodup := harranged.nodup
  invoked := hhistory ▸ harranged.invoked
  answered := by
    intro entry hentry outcome ⟨server, hfinished⟩
    exact harranged.answered entry hentry outcome
      ⟨server, hhistory ▸ hfinished⟩
  complete := by
    intro t outcome ⟨server, hfinished⟩ hanswers
    exact harranged.complete t outcome ⟨server, hhistory ▸ hfinished⟩ hanswers
  placed := by
    intro entry hentry
    rcases harranged.placed entry hentry with
      ⟨transaction, htransaction⟩ | ⟨outcome, ⟨server, hfinished⟩, hanswers⟩
    · exact Or.inl (hlive _ transaction htransaction)
    · exact Or.inr ⟨outcome, ⟨server, hhistory ▸ hfinished⟩, hanswers⟩
  realTime := by
    intro t u ht hu hbefore
    exact harranged.realTime t u ht hu (hhistory ▸ hbefore)

theorem begun (harranged : Arranged s order) (hchronicle : s.Chronicle)
    {t server : ℕ} {call : Call} (hnew : t ∉ s.started) :
    Arranged (s.begun t server call) order := by
  have hfinished : ∀ {u outcome}, (s.begun t server call).Finished u outcome →
      s.Finished u outcome := by
    rintro u outcome ⟨place, hmem⟩
    rcases List.mem_append.mp hmem with hold | hlast
    · exact ⟨place, hold⟩
    · cases List.mem_singleton.mp hlast
  have hfresh : t ∉ order.map (·.transaction) := by
    intro hmem
    obtain ⟨entry, hentry, rfl⟩ := List.mem_map.mp hmem
    obtain ⟨place, hinvoked⟩ := harranged.invoked entry hentry
    exact hnew (hchronicle.recorded hinvoked)
  constructor
  · exact harranged.nodup
  · intro entry hentry
    obtain ⟨place, hinvoked⟩ := harranged.invoked entry hentry
    exact ⟨place, List.mem_append_left _ hinvoked⟩
  · intro entry hentry outcome hdone
    exact harranged.answered entry hentry outcome (hfinished hdone)
  · intro u outcome hdone hanswers
    exact harranged.complete u outcome (hfinished hdone) hanswers
  · intro entry hentry
    rcases harranged.placed entry hentry with
      ⟨transaction, hlive⟩ | ⟨outcome, ⟨place, hmem⟩, hanswers⟩
    · have hne : entry.transaction ≠ t := fun heq =>
        hfresh (heq ▸ List.mem_map_of_mem hentry)
      exact Or.inl ⟨transaction, by simpa [System.begun, hne] using hlive⟩
    · exact Or.inr ⟨outcome, ⟨place, List.mem_append_left _ hmem⟩, hanswers⟩
  · intro a b ha hb hbefore
    rcases before_append hbefore with hold | ⟨place, other, heq⟩
    · exact harranged.realTime a b ha hb hold
    · cases heq
      exact absurd hb hfresh

/-- The history after a transaction has finished. -/
private theorem finished_ended {t server : ℕ} {outcome : Outcome}
    (hhistory : s'.history = s.history ++ [.finished t server outcome])
    {u : ℕ} {final : Outcome} (hfinished : s'.Finished u final) :
    s.Finished u final ∨ (u = t ∧ final = outcome) := by
  obtain ⟨place, hmem⟩ := hfinished
  rw [hhistory] at hmem
  rcases List.mem_append.mp hmem with hold | hlast
  · exact Or.inl ⟨place, hold⟩
  · cases List.mem_singleton.mp hlast
    exact Or.inr ⟨rfl, rfl⟩

private theorem before_ended {history : List Event} {t server : ℕ}
    {outcome : Outcome} {a b : ℕ}
    (hbefore : Before (history ++ [.finished t server outcome]) a b) :
    Before history a b := by
  rcases before_append hbefore with hold | ⟨place, call, heq⟩
  · exact hold
  · cases heq

/-- A call whose entry matches its outcome is over. -/
theorem ended (harranged : Arranged s order)
    {t server : ℕ} {outcome : Outcome} {transaction : Transaction}
    {result : Result} (hlive : s.transactions t = some transaction)
    (hentry : ⟨t, transaction.call, result⟩ ∈ order)
    (hmatches : outcome.Matches transaction.call result)
    (htransactions : s'.transactions = Function.update s.transactions t none)
    (hhistory : s'.history = s.history ++ [.finished t server outcome]) :
    Arranged s' order := by
  have hanswers : outcome.Answers := by
    cases outcome with
    | aborted status => exact hmatches
    | _ => trivial
  constructor
  · exact harranged.nodup
  · intro entry hmem
    obtain ⟨place, hinvoked⟩ := harranged.invoked entry hmem
    exact ⟨place, hhistory ▸ List.mem_append_left _ hinvoked⟩
  · intro entry hmem final hfinished
    rcases finished_ended hhistory hfinished with hold | ⟨hsame, rfl⟩
    · exact harranged.answered entry hmem final hold
    · have heq : entry = ⟨t, transaction.call, result⟩ :=
        List.inj_on_of_nodup_map harranged.nodup hmem hentry hsame
      rw [heq]
      exact hmatches
  · intro u final hfinished hfinal
    rcases finished_ended hhistory hfinished with hold | ⟨rfl, rfl⟩
    · exact harranged.complete u final hold hfinal
    · exact List.mem_map_of_mem hentry
  · intro entry hmem
    by_cases hsame : entry.transaction = t
    · exact Or.inr ⟨outcome, ⟨server, by rw [hhistory, hsame]; simp⟩,
        hanswers⟩
    · rcases harranged.placed entry hmem with
        ⟨other, hother⟩ | ⟨final, ⟨place, hold⟩, hfinal⟩
      · exact Or.inl ⟨other, by
          rw [htransactions, Function.update_of_ne hsame, hother]⟩
      · exact Or.inr ⟨final,
          ⟨place, hhistory ▸ List.mem_append_left _ hold⟩, hfinal⟩
  · intro a b ha hb hbefore
    rw [hhistory] at hbefore
    exact harranged.realTime a b ha hb (before_ended hbefore)

/-- An aborted call leaves the order. -/
theorem dropped (harranged : Arranged s order) {t server : ℕ}
    {status : CompletionStatus}
    (htransactions : s'.transactions = Function.update s.transactions t none)
    (hhistory : s'.history =
      s.history ++ [.finished t server (.aborted status)])
    (hunfinished : ∀ outcome, ¬ s.Finished t outcome) :
    Arranged s' (order.filter (·.transaction ≠ t)) := by
  have hids : (order.filter (·.transaction ≠ t)).map (·.transaction) =
      (order.map (·.transaction)).filter (· ≠ t) := by
    rw [List.filter_map]
    rfl
  constructor
  · rw [hids]
    exact harranged.nodup.filter _
  · intro entry hmem
    obtain ⟨place, hinvoked⟩ :=
      harranged.invoked entry (List.mem_filter.mp hmem).1
    exact ⟨place, hhistory ▸ List.mem_append_left _ hinvoked⟩
  · intro entry hmem final hfinished
    obtain ⟨hentry, hne⟩ := List.mem_filter.mp hmem
    rcases finished_ended hhistory hfinished with hold | ⟨hsame, rfl⟩
    · exact harranged.answered entry hentry final hold
    · simp [hsame] at hne
  · intro u final hfinished hfinal
    rcases finished_ended hhistory hfinished with hold | ⟨rfl, rfl⟩
    · rw [hids, List.mem_filter]
      refine ⟨harranged.complete u final hold hfinal, ?_⟩
      simp only [ne_eq, decide_eq_true_eq]
      rintro rfl
      exact hunfinished final hold
    · exact absurd hfinal id
  · intro entry hmem
    obtain ⟨hentry, hne⟩ := List.mem_filter.mp hmem
    rcases harranged.placed entry hentry with
      ⟨other, hother⟩ | ⟨final, ⟨place, hold⟩, hfinal⟩
    · refine Or.inl ⟨other, ?_⟩
      rw [htransactions, Function.update_of_ne (by simpa using hne), hother]
    · exact Or.inr ⟨final, ⟨place, hhistory ▸ List.mem_append_left _ hold⟩,
        hfinal⟩
  · intro a b ha hb hbefore
    rw [hids] at ha hb ⊢
    rw [hhistory] at hbefore
    obtain ⟨haold, hane⟩ := List.mem_filter.mp ha
    obtain ⟨hbold, hbne⟩ := List.mem_filter.mp hb
    have hsub := (harranged.realTime a b haold hbold
      (before_ended hbefore)).filter (· ≠ t)
    have hpair : [a, b].filter (· ≠ t) = [a, b] := by
      rw [decide_eq_true_eq] at hane hbne
      simp [hane, hbne]
    rwa [hpair] at hsub

end Arranged

/-! ## Steps -/

namespace Linearized

variable {s : System} {order : List Entry}

/-- The call of a transaction that stands at its end has an entry, in the
order as it is or at its end. -/
theorem settle (hlinearized : Linearized sha256 s order)
    (hinv : s.Invariant sha256) (hchronicle : s.Chronicle) {t : ℕ}
    {transaction : Transaction} {result : Result}
    (hlive : s.transactions t = some transaction)
    (hrest : transaction.rest = .pure result) :
    ∃ settled, Sequential .empty settled ∧
      finalTables .empty settled = s.db.applyAll (effect result) ∧
      Arranged s settled ∧ ⟨t, transaction.call, result⟩ ∈ settled ∧
      ∀ {held db other live}, other ≠ t →
        Settled sha256 order held db other live →
          Settled sha256 settled held db other live := by
  have hwell := hinv.wellFormed
  obtain ⟨-, -, hinvoked⟩ := hlinearized.single hlive
  rcases hlinearized.settled hlive with
    ⟨decided, hmem, hquiet, hforces⟩ | ⟨hnew, hagree⟩
  · rw [hrest] at hforces
    have hsame : result = decided := hforces.now hwell
    subst hsame
    refine ⟨order, hlinearized.sequential, ?_, hlinearized.arranged, hmem,
      fun _ hsettled => hsettled⟩
    rw [hquiet, Database.applyAll_nil]
    exact hlinearized.tables
  · rw [hrest] at hagree
    have hresult : transaction.call.resultOn s.db = result :=
      hagree.now hwell
    refine ⟨order ++ [⟨t, transaction.call, result⟩], ?_, ?_, ?_, ?_, ?_⟩
    · refine hlinearized.sequential.snoc ?_
      rw [hlinearized.tables]
      exact hresult
    · rw [finalTables_snoc, hlinearized.tables]
      exact Call.after_of_resultOn hresult
    · exact hlinearized.arranged.snoc hchronicle hlive hnew ⟨_, hinvoked⟩
    · exact List.mem_append_right _ (List.mem_singleton_self _)
    · exact fun hother hsettled => hsettled.snoc hother

theorem begun (hlinearized : Linearized sha256 s order)
    (hchronicle : s.Chronicle) {t server : ℕ} {call : Call}
    (hnew : t ∉ s.started) :
    Linearized sha256 (s.begun t server call) order where
  sequential := hlinearized.sequential
  tables := hlinearized.tables
  arranged := hlinearized.arranged.begun hchronicle hnew
  single := by
    intro other live hother
    by_cases hsame : other = t
    · subst hsame
      cases System.begun_self hother
      exact ⟨rfl, rfl, List.mem_append_right _ (List.mem_singleton_self _)⟩
    · rw [System.begun_other hsame] at hother
      obtain ⟨hearlier, hclean, hinvoked⟩ := hlinearized.single hother
      exact ⟨hearlier, hclean, List.mem_append_left _ hinvoked⟩
  settled := by
    intro other live hother
    by_cases hsame : other = t
    · subst hsame
      cases System.begun_self hother
      refine Or.inr ⟨fun hmem => ?_, Agree.refl _ _ _⟩
      obtain ⟨entry, hentry, rfl⟩ := List.mem_map.mp hmem
      obtain ⟨place, hinvoked⟩ := hlinearized.arranged.invoked entry hentry
      exact hnew (hchronicle.recorded hinvoked)
    · rw [System.begun_other hsame] at hother
      exact hlinearized.settled hother

theorem executed (hlinearized : Linearized sha256 s order)
    (hinv : s.Invariant sha256) (hchronicle : s.Chronicle) {t : ℕ}
    {transaction : Transaction} {statement : Statement}
    {next : statement.Answer → Program Statement Statement.Answer Result}
    (hlive : s.transactions t = some transaction)
    (hrest : transaction.rest = .ask statement next)
    (havailable : ∀ request ∈ statement.needs sha256 (transaction.view s.db),
      s.locks.available t request = true) :
    ∃ longer, Linearized sha256
      (s.executed sha256 t transaction statement next) longer := by
  obtain ⟨hearlier, hclean, hinvoked⟩ := hlinearized.single hlive
  have hview : transaction.view s.db = s.db := by
    rw [Transaction.view, hearlier]
    rfl
  have hwell := hinv.wellFormed
  have hguarded := (hinv.sound hlive hclean).guarded
  rw [hrest] at hguarded
  have hown : (s.executed sha256 t transaction statement next).locks.held t =
      s.locks.held t ∪ statement.takes sha256 s.db := by
    rw [← hview]
    exact System.held_executed_self
  have htransfer : ∀ {longer}, Arranged s longer → Arranged
      (s.executed sha256 t transaction statement next) longer := by
    intro longer harranged
    refine harranged.transfer rfl fun u live hu => ?_
    by_cases hsame : u = t
    · subst hsame
      exact ⟨_, Function.update_self _ _ _⟩
    · exact ⟨live, (Function.update_of_ne hsame _ _).trans hu⟩
  have hsingle : ∀ {u live},
      (s.executed sha256 t transaction statement next).transactions u =
          some live →
        live.earlier = [] ∧ live.rollbackOnly = false ∧
          Event.invoked u live.server live.call ∈ s.history := by
    intro u live hu
    by_cases hsame : u = t
    · subst hsame
      cases System.executed_self hu
      exact ⟨hearlier, hclean, hinvoked⟩
    · rw [(System.executed_other hsame havailable).1] at hu
      exact hlinearized.single hu
  have hothers : ∀ {u live longer}, u ≠ t →
      (s.executed sha256 t transaction statement next).transactions u =
          some live →
        (Settled sha256 order (s.locks.held u) s.db u live →
          Settled sha256 longer (s.locks.held u) s.db u live) →
            Settled sha256 longer ((s.executed sha256 t transaction statement
              next).locks.held u) s.db u live := by
    intro u live longer hne hu hkeep
    obtain ⟨hkept, hheld⟩ := System.executed_other hne havailable
    rw [hkept] at hu
    rw [hheld]
    exact hkeep (hlinearized.settled hu)
  have hself : ∀ {live},
      (s.executed sha256 t transaction statement next).transactions t =
          some live →
        live = { transaction with rest := next (statement.answer s.db) } := by
    intro live hu
    rw [← hview]
    exact System.executed_self hu
  -- The statement leaves the call as it was, or its answer decides it now.
  rcases hlinearized.settled hlive with
    ⟨result, hmem, hquiet, hforces⟩ | ⟨hnew, hagree⟩
  · rw [hrest] at hforces
    have hnext := hguarded.step_forces hwell hforces
    refine ⟨order, hlinearized.sequential, hlinearized.tables,
      htransfer hlinearized.arranged, hsingle, ?_⟩
    intro u live hu
    by_cases hsame : u = t
    · subst hsame
      rw [hself hu, hown]
      exact Or.inl ⟨result, hmem, hquiet, hnext⟩
    · exact hothers hsame hu id
  · rw [hrest] at hagree
    rcases hguarded.step_agree hwell hagree with
      hafter | ⟨result, hquiet, hwhole, hforces⟩
    · refine ⟨order, hlinearized.sequential, hlinearized.tables,
        htransfer hlinearized.arranged, hsingle, ?_⟩
      intro u live hu
      by_cases hsame : u = t
      · subst hsame
        rw [hself hu, hown]
        exact Or.inr ⟨hnew, hafter⟩
      · exact hothers hsame hu id
    · have hresult : transaction.call.resultOn s.db = result := hwhole
      have heffect : effect result = [] := hquiet
      refine ⟨order ++ [⟨t, transaction.call, result⟩], ?_, ?_,
        htransfer (hlinearized.arranged.snoc hchronicle hlive hnew
          ⟨_, hinvoked⟩), hsingle, ?_⟩
      · refine hlinearized.sequential.snoc ?_
        rw [hlinearized.tables]
        exact hresult
      · rw [finalTables_snoc, hlinearized.tables,
          Call.after_of_resultOn hresult, heffect, Database.applyAll_nil]
        rfl
      · intro u live hu
        by_cases hsame : u = t
        · subst hsame
          rw [hself hu, hown]
          exact Or.inl ⟨result, List.mem_append_right _
            (List.mem_singleton_self _), heffect, hforces⟩
        · exact hothers hsame hu fun hsettled => hsettled.snoc hsame

/-- The end of a call that committed or threw. -/
private theorem answered (hlinearized : Linearized sha256 s order)
    (hinv : s.Invariant sha256) (hchronicle : s.Chronicle) {s' : System}
    {t server : ℕ} {transaction : Transaction} {result : Result}
    {outcome : Outcome} (hlive : s.transactions t = some transaction)
    (hrest : transaction.rest = .pure result)
    (hmatches : outcome.Matches transaction.call result)
    (hdb : s'.db = s.db.applyAll (effect result))
    (htransactions : s'.transactions = Function.update s.transactions t none)
    (hlocks : s'.locks = s.locks.release t)
    (hhistory : s'.history = s.history ++ [.finished t server outcome])
    (hrely : ∀ other, other ≠ t →
      Rely sha256 (s.locks.held other) s.db s'.db) :
    ∃ longer, Linearized sha256 s' longer := by
  obtain ⟨settled, hsequential, htables, harranged, hentry, hkeep⟩ :=
    hlinearized.settle hinv hchronicle hlive hrest
  have hothers : ∀ {u live}, s'.transactions u = some live →
      u ≠ t ∧ s.transactions u = some live :=
    System.live_of_ended htransactions
  refine ⟨settled, hsequential, htables.trans hdb.symm,
    harranged.ended hlive hentry hmatches htransactions hhistory, ?_, ?_⟩
  · intro u live hu
    obtain ⟨-, hold⟩ := hothers hu
    obtain ⟨hearlier, hclean, hinvoked⟩ := hlinearized.single hold
    exact ⟨hearlier, hclean, hhistory ▸ List.mem_append_left _ hinvoked⟩
  · intro u live hu
    obtain ⟨hne, hold⟩ := hothers hu
    have hheld : s'.locks.held u = s.locks.held u := by
      rw [hlocks]
      exact LockTable.held_release_other hne
    rw [hheld]
    exact hkeep hne ((hlinearized.settled hold).later (hrely u hne))

theorem committed (hlinearized : Linearized sha256 s order)
    (hinv : s.Invariant sha256) (hchronicle : s.Chronicle) {t : ℕ}
    {transaction : Transaction} {returned : Returned} {session : Session}
    {acknowledged : Bool} (hlive : s.transactions t = some transaction)
    (hrest : transaction.rest = .pure (.ok returned, session)) :
    ∃ longer, Linearized sha256 (s.committed t transaction
      ⟨transaction.call, returned, session⟩ acknowledged) longer := by
  obtain ⟨hearlier, hclean, -⟩ := hlinearized.single hlive
  have haccounted := (hinv.sound hlive hclean).snoc hrest
  rw [hearlier, List.nil_append] at haccounted
  have hcalls : transaction.earlier ++
      [⟨transaction.call, returned, session⟩] =
        [⟨transaction.call, returned, session⟩] := by
    rw [hearlier, List.nil_append]
  have hdb : (s.committed t transaction
      ⟨transaction.call, returned, session⟩ acknowledged).db =
        s.db.applyAll session.writes := by
    simp only [System.committed]
    rw [hcalls, writesOf_cons, writesOf_nil, List.append_nil]
  have hmatches : Outcome.Matches transaction.call (.ok returned, session)
      (.committed (transaction.earlier ++
        [⟨transaction.call, returned, session⟩]) acknowledged) :=
    ⟨returned, session, rfl, hcalls⟩
  refine hlinearized.answered hinv hchronicle hlive hrest hmatches hdb rfl rfl
    rfl fun other hother => ?_
  rw [hdb]
  have hcovers := haccounted.covers
  have hlegal := (haccounted.serial hinv.wellFormed).legalAll hinv.wellFormed
  rw [writesOf_cons, writesOf_nil, List.append_nil] at hcovers hlegal
  exact Rely.frameAll hcovers
    (LockTable.held_disjoint s.locks (Ne.symm hother)) hlegal

theorem failed (hlinearized : Linearized sha256 s order)
    (hinv : s.Invariant sha256) (hchronicle : s.Chronicle) {t : ℕ}
    {transaction : Transaction} {exception : JavaException}
    {session : Session} (hlive : s.transactions t = some transaction)
    (hrest : transaction.rest = .pure (.error exception, session)) :
    ∃ longer, Linearized sha256
      (s.rolledBack t transaction .rolledBack (.failed exception)) longer := by
  have hmatches : Outcome.Matches transaction.call (.error exception, session)
      (.failed exception) := ⟨session, rfl⟩
  exact hlinearized.answered hinv hchronicle hlive hrest hmatches rfl rfl rfl
    rfl fun _ _ => Rely.refl _ _

theorem aborted (hlinearized : Linearized sha256 s order)
    (hchronicle : s.Chronicle) {t : ℕ} {transaction : Transaction}
    {status : CompletionStatus}
    (hlive : s.transactions t = some transaction) :
    ∃ shorter, Linearized sha256
      (s.rolledBack t transaction status (.aborted status)) shorter := by
  have hquiet : ∀ entry ∈ order, decide (entry.transaction ≠ t) = false →
      effect entry.result = [] := by
    intro entry hentry hgone
    have hsame : entry.transaction = t := by simpa using hgone
    rcases hlinearized.settled hlive with
      ⟨result, hmem, heffect, -⟩ | ⟨hnew, -⟩
    · have heq : entry = ⟨t, transaction.call, result⟩ :=
        List.inj_on_of_nodup_map hlinearized.arranged.nodup hentry hmem hsame
      rw [heq]
      exact heffect
    · exact absurd (hsame ▸ List.mem_map_of_mem hentry) hnew
  obtain ⟨hsequential, htables⟩ :=
    hlinearized.sequential.filter hquiet
  have hothers : ∀ {u live},
      (s.rolledBack t transaction status
        (.aborted status)).transactions u = some live →
          u ≠ t ∧ s.transactions u = some live := by
    intro u live hu
    by_cases hsame : u = t
    · subst hsame
      simp [System.rolledBack, System.completed] at hu
    · rw [(System.rolledBack_other hsame).1] at hu
      exact ⟨hsame, hu⟩
  refine ⟨order.filter (·.transaction ≠ t), hsequential,
    htables.trans hlinearized.tables,
    hlinearized.arranged.dropped rfl rfl
      (fun outcome => hchronicle.unfinished hlive), ?_, ?_⟩
  · intro u live hu
    obtain ⟨-, hold⟩ := hothers hu
    obtain ⟨hearlier, hclean, hinvoked⟩ := hlinearized.single hold
    exact ⟨hearlier, hclean, List.mem_append_left _ hinvoked⟩
  · intro u live hu
    obtain ⟨hne, hold⟩ := hothers hu
    rw [(System.rolledBack_other hne).2]
    exact (hlinearized.settled hold).filter hne

theorem step {s' : System} {action : Action}
    (hlinearized : Linearized sha256 s order) (hinv : s.Invariant sha256)
    (hchronicle : s.Chronicle) (hpoint : action.IsPointCall)
    (hmoves : Moves sha256 s action s') :
    ∃ longer, Linearized sha256 s' longer := by
  cases hmoves with
  | begin hfree hnew hfresh => exact ⟨order, hlinearized.begun hchronicle hnew⟩
  | next hlive hrest hfresh => exact absurd hpoint id
  | exec hlive hrest havailable =>
      exact hlinearized.executed hinv hchronicle hlive hrest havailable
  | commit hlive hrest hclean =>
      exact hlinearized.committed hinv hchronicle hlive hrest
  | fail hlive hrest => exact hlinearized.failed hinv hchronicle hlive hrest
  | abort hlive hstatus => exact hlinearized.aborted hchronicle hlive

end Linearized

theorem linearized_initial : Linearized sha256 System.initial [] where
  sequential := trivial
  tables := rfl
  arranged := by
    constructor
    · exact List.nodup_nil
    · rintro entry ⟨⟩
    · rintro entry ⟨⟩
    · rintro t outcome ⟨server, ⟨⟩⟩
    · rintro entry ⟨⟩
    · rintro t u ⟨⟩
  single hlive := by cases hlive
  settled hlive := by cases hlive

namespace System

theorem linearized_of_run {s s' : System} {actions : List Action}
    (hpoint : ∀ action ∈ actions, action.IsPointCall)
    (hinv : s.Invariant sha256) (hchronicle : s.Chronicle)
    (hlinearized : ∃ order, Linearized sha256 s order)
    (hrun : s.run sha256 actions = some s') :
    s'.Invariant sha256 ∧ s'.Chronicle ∧
      ∃ order, Linearized sha256 s' order := by
  apply run_induction_of hpoint ⟨hinv, hchronicle, hlinearized⟩ _ hrun
  rintro before action after hcall ⟨hinv, hchronicle, order, horder⟩ hmoves
  exact ⟨hinv.step hmoves, hchronicle.step hmoves,
    horder.step hinv hchronicle hcall hmoves⟩

/-- The calls that committed or ended in a domain error can be ordered, in
keeping with real time, such that their bodies run one after another give the
same responses and the same tables. -/
theorem linearizable {actions : List Action} {s : System}
    (hpoint : ∀ action ∈ actions, action.IsPointCall)
    (hrun : initial.run sha256 actions = some s) :
    ∃ order : List Entry,
      (order.map (·.transaction)).Nodup ∧
      (∀ t, t ∈ order.map (·.transaction) ↔
        ∃ outcome, s.Finished t outcome ∧ outcome.Counts) ∧
      (∀ entry ∈ order,
        (∃ server, Event.invoked entry.transaction server entry.call ∈
          s.history) ∧
        ∀ outcome, s.Finished entry.transaction outcome →
          outcome.Matches entry.call entry.result) ∧
      (∀ t u, t ∈ order.map (·.transaction) →
        u ∈ order.map (·.transaction) → Before s.history t u →
          [t, u].Sublist (order.map (·.transaction))) ∧
      Sequential .empty order ∧ finalTables .empty order = s.db := by
  classical
  obtain ⟨hinv, hchronicle, order, hlinearized⟩ := linearized_of_run hpoint
    invariant_initial chronicle_initial ⟨[], linearized_initial⟩ hrun
  have harranged := hlinearized.arranged
  -- What is decided but not finished, or failed otherwise, had no effect.
  let counts : ℕ → Bool := fun t =>
    decide (∃ outcome, s.Finished t outcome ∧ outcome.Counts)
  have hids : (order.filter fun entry => counts entry.transaction).map
      (·.transaction) = (order.map (·.transaction)).filter counts := by
    rw [List.filter_map]
    rfl
  have hquiet : ∀ entry ∈ order, counts entry.transaction = false →
      effect entry.result = [] := by
    intro entry hentry hnot
    rw [decide_eq_false_iff_not] at hnot
    rcases harranged.placed entry hentry with
      ⟨transaction, hlive⟩ | ⟨outcome, hfinished, hanswers⟩
    · rcases hlinearized.settled hlive with
        ⟨result, hmem, heffect, -⟩ | ⟨hnew, -⟩
      · have heq : entry = ⟨entry.transaction, transaction.call, result⟩ :=
          List.inj_on_of_nodup_map harranged.nodup hentry hmem rfl
        rw [heq]
        exact heffect
      · exact absurd (List.mem_map_of_mem hentry) hnew
    · have hmatches := harranged.answered entry hentry outcome hfinished
      cases outcome with
      | committed calls acknowledged =>
          exact absurd ⟨_, hfinished, trivial⟩ hnot
      | failed exception =>
          obtain ⟨session, hresult⟩ := hmatches
          rw [hresult, effect_error]
      | aborted status => exact absurd hanswers id
  obtain ⟨hsequential, htables⟩ := hlinearized.sequential.filter hquiet
  refine ⟨order.filter fun entry => counts entry.transaction, ?_, ?_, ?_, ?_,
    hsequential, htables.trans hlinearized.tables⟩
  · rw [hids]
    exact harranged.nodup.filter _
  · intro t
    rw [hids, List.mem_filter]
    constructor
    · rintro ⟨-, hcounts⟩
      exact of_decide_eq_true hcounts
    · rintro ⟨outcome, hfinished, hcounts⟩
      exact ⟨harranged.complete t outcome hfinished hcounts.answers,
        decide_eq_true ⟨outcome, hfinished, hcounts⟩⟩
  · intro entry hentry
    have hold := (List.mem_filter.mp hentry).1
    exact ⟨harranged.invoked entry hold, harranged.answered entry hold⟩
  · intro t u ht hu hbefore
    rw [hids] at ht hu ⊢
    obtain ⟨htold, htcounts⟩ := List.mem_filter.mp ht
    obtain ⟨huold, hucounts⟩ := List.mem_filter.mp hu
    have hsub := (harranged.realTime t u htold huold hbefore).filter counts
    rwa [List.filter_cons_of_pos htcounts, List.filter_cons_of_pos hucounts,
      List.filter_nil] at hsub

theorem linearizable_sample :
    ∃ s : System, initial.run (fun _ => []) sampleActions = some s ∧
      ∃ order : List Entry, Sequential .empty order ∧
        finalTables .empty order = s.db := by
  have hsome : (initial.run (fun _ => []) sampleActions).isSome = true := by
    decide +kernel
  obtain ⟨s, hrun⟩ := Option.isSome_iff_exists.mp hsome
  have hpoint : ∀ action ∈ sampleActions, action.IsPointCall := by
    intro action haction
    fin_cases haction <;> trivial
  obtain ⟨order, -, -, -, -, hsequential, htables⟩ := linearizable hpoint hrun
  exact ⟨s, hrun, order, hsequential, htables⟩

end System

end InventoryCloud

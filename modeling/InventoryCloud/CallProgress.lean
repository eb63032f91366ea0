import InventoryCloud.CommittedHistory

/-!
# The progress of live calls

What is left of a live call is left of its program, and the ids that the calls
of a live transaction drew are its own: no committed row and no other live
transaction bears one of them.
-/

namespace InventoryCloud

open Interaction
open InventoryService

/-- The ids the calls of the transaction drew. -/
def Transaction.ids (transaction : Transaction) : List UUID :=
  (transaction.earlier.flatMap fun completed =>
    completed.call.freshId.toList) ++ transaction.call.freshId.toList

/-- The ids that the call draws are not in use. -/
def Call.Unused (call : Call) (view : Database) : Prop :=
  ∀ id ∈ call.freshId.toList,
    view.findProduct id = none ∧ view.findReservation id = none

/-! ## Inserted rows -/

/-- The ids of the rows of both tables. -/
def Database.ids (db : Database) : List UUID :=
  db.products.map (·.id) ++ db.reservations.map (·.id)

def Write.insertedId : Write → Option UUID
  | .insertProduct product => some product.id
  | .insertReservation reservation => some reservation.id
  | _ => none

theorem Database.not_mem_ids {db : Database} {id : UUID} :
    id ∉ db.ids ↔
      db.findProduct id = none ∧ db.findReservation id = none := by
  rw [findProduct_eq_none, findReservation_eq_none]
  simp [ids]

theorem Database.mem_ids_apply {db : Database} {write : Write} {id : UUID}
    (hmem : id ∈ (db.apply write).ids) :
    id ∈ db.ids ∨ write.insertedId = some id := by
  cases write with
  | insertProduct product =>
      simp only [ids, apply, List.map_append, List.mem_append,
        List.map_cons, List.map_nil, List.mem_singleton] at hmem ⊢
      rcases hmem with (hold | rfl) | hold
      · exact Or.inl (Or.inl hold)
      · exact Or.inr rfl
      · exact Or.inl (Or.inr hold)
  | insertReservation reservation =>
      simp only [ids, apply, List.map_append, List.mem_append,
        List.map_cons, List.map_nil, List.mem_singleton] at hmem ⊢
      rcases hmem with hold | hold | rfl
      · exact Or.inl (Or.inl hold)
      · exact Or.inl (Or.inr hold)
      · exact Or.inr rfl
  | updateProduct entity =>
      left
      simpa [ids, apply] using hmem
  | updateReservation entity =>
      left
      simpa [ids, apply] using hmem

/-- A row of the new tables was there or has been inserted. -/
theorem Database.mem_ids_applyAll {db : Database} {writes : List Write}
    {id : UUID} (hmem : id ∈ (db.applyAll writes).ids) :
    id ∈ db.ids ∨ ∃ write ∈ writes, write.insertedId = some id := by
  induction writes generalizing db with
  | nil => exact Or.inl hmem
  | cons write writes ih =>
      rcases ih hmem with hlater | ⟨other, hother, hid⟩
      · rcases mem_ids_apply hlater with hold | hnew
        · exact Or.inl hold
        · exact Or.inr ⟨write, List.mem_cons_self, hnew⟩
      · exact Or.inr ⟨other, List.mem_cons_of_mem _ hother, hid⟩

theorem Performs.inserted_id {view : Database} {call : Call}
    {returned : Returned} {session : Session}
    (hperforms : Performs view call returned session) {write : Write}
    (hwrite : write ∈ session.writes) {id : UUID}
    (hinserted : write.insertedId = some id) :
    id ∈ call.freshId.toList := by
  cases hperforms with
  | created hnew haccept =>
      obtain ⟨-, normalized, given, -, -, hproduct⟩ := Product.new_ok hnew
      simp only [createdSession_writes, List.mem_singleton] at hwrite
      subst hwrite
      cases hinserted
      rw [hproduct]
      exact List.mem_singleton_self _
  | reserved hquantity hcustomer hkey hfind hstock hadmits hupdate =>
      simp only [reservedSession_writes, List.mem_cons, List.not_mem_nil,
        or_false] at hwrite
      rcases hwrite with rfl | rfl
      · cases hinserted
        exact List.mem_singleton_self _
      · cases hinserted
  | restocked =>
      simp only [restockedSession_writes, List.mem_singleton] at hwrite
      subst hwrite
      cases hinserted
  | cancelled =>
      simp only [cancelledSession_writes, List.mem_cons, List.not_mem_nil,
        or_false] at hwrite
      rcases hwrite with rfl | rfl <;> cases hinserted
  | _ => simp at hwrite

theorem Serial.inserted_id {db : Database} {calls : List Completed}
    (hserial : Serial db calls) {write : Write}
    (hwrite : write ∈ writesOf calls) {id : UUID}
    (hinserted : write.insertedId = some id) :
    ∃ completed ∈ calls, id ∈ completed.call.freshId.toList := by
  induction calls generalizing db with
  | nil => cases hwrite
  | cons completed calls ih =>
      obtain ⟨hhappens, hrest⟩ := hserial
      rw [writesOf_cons, List.mem_append] at hwrite
      rcases hwrite with hfirst | hlater
      · rcases hhappens with hperforms | ⟨hquiet, -⟩
        · exact ⟨completed, List.mem_cons_self,
            hperforms.inserted_id hfirst hinserted⟩
        · rw [hquiet] at hfirst
          cases hfirst
      · obtain ⟨other, hother, hid⟩ := ih hrest hlater
        exact ⟨other, List.mem_cons_of_mem _ hother, hid⟩

/-! ## The invariant -/

variable {sha256 : List UInt8 → List UInt8}

namespace System

structure Progress (s : System) : Prop where
  program : ∀ {t transaction}, s.transactions t = some transaction →
    transaction.call.program.LeadsTo transaction.rest
  issued : ∀ {t transaction}, s.transactions t = some transaction →
    ∀ id ∈ transaction.ids, id ∈ s.issued
  rows : ∀ id ∈ s.db.ids, id ∈ s.issued
  unused : ∀ {t transaction}, s.transactions t = some transaction →
    ∀ id ∈ transaction.ids, id ∉ s.db.ids
  apart : ∀ {t u first second}, t ≠ u → s.transactions t = some first →
    s.transactions u = some second → ∀ id ∈ first.ids, id ∉ second.ids

theorem progress_initial : initial.Progress where
  program hlive := by cases hlive
  issued hlive := by cases hlive
  rows id hmem := by cases hmem
  unused hlive := by cases hlive
  apart _ hlive := by cases hlive

variable {s s' : System}

/-- A transaction that takes new ids only, while nothing else changes. -/
private theorem Progress.relive (hprogress : s.Progress) {t : ℕ}
    {transaction : Transaction} {fresh : List UUID}
    (htransactions : s'.transactions =
      Function.update s.transactions t (some transaction))
    (hissued : s'.issued = fresh ++ s.issued) (hdb : s'.db = s.db)
    (hprogram : transaction.call.program.LeadsTo transaction.rest)
    (hnew : ∀ id ∈ fresh, id ∉ s.issued)
    (hids : ∀ id ∈ transaction.ids, id ∈ fresh ∨
      ∃ old, s.transactions t = some old ∧ id ∈ old.ids) : s'.Progress := by
  have hcases : ∀ {u live}, s'.transactions u = some live →
      u = t ∧ live = transaction ∨
        u ≠ t ∧ s.transactions u = some live := by
    intro u live hlive
    rcases live_of_update htransactions hlive with ⟨rfl, hnew⟩ | hold
    · cases hnew
      exact Or.inl ⟨rfl, rfl⟩
    · exact Or.inr hold
  have hknown : ∀ {u live}, s'.transactions u = some live →
      ∀ id ∈ live.ids, id ∈ fresh ∨
        ∃ old, s.transactions u = some old ∧ id ∈ old.ids := by
    intro u live hlive id hid
    rcases hcases hlive with ⟨rfl, rfl⟩ | ⟨-, hold⟩
    · exact hids id hid
    · exact Or.inr ⟨live, hold, hid⟩
  constructor
  · intro u live hlive
    rcases hcases hlive with ⟨rfl, rfl⟩ | ⟨-, hold⟩
    · exact hprogram
    · exact hprogress.program hold
  · intro u live hlive id hid
    rw [hissued]
    rcases hknown hlive id hid with hfresh | ⟨old, hold, hid⟩
    · exact List.mem_append_left _ hfresh
    · exact List.mem_append_right _ (hprogress.issued hold id hid)
  · intro id hmem
    rw [hdb] at hmem
    rw [hissued]
    exact List.mem_append_right _ (hprogress.rows id hmem)
  · intro u live hlive id hid
    rw [hdb]
    rcases hknown hlive id hid with hfresh | ⟨old, hold, hid⟩
    · exact fun hmem => hnew id hfresh (hprogress.rows id hmem)
    · exact hprogress.unused hold id hid
  · intro u v first second hne hfirst hsecond id hid hother
    have hmixed : ∀ {w live}, w ≠ t → s.transactions w = some live →
        id ∈ transaction.ids → id ∉ live.ids := by
      intro w live hne hlive hmine hother
      rcases hids id hmine with hfresh | ⟨old, hold, hmine⟩
      · exact hnew id hfresh (hprogress.issued hlive id hother)
      · exact hprogress.apart hne hlive hold id hother hmine
    rcases hcases hfirst with ⟨rfl, rfl⟩ | ⟨hu, hfirst⟩ <;>
      rcases hcases hsecond with ⟨rfl, rfl⟩ | ⟨hv, hsecond⟩
    · exact hne rfl
    · exact hmixed hv hsecond hid hother
    · exact hmixed hu hfirst hother hid
    · exact hprogress.apart hne hfirst hsecond id hid hother

/-- A transaction that is gone; the new rows bear only ids it drew. -/
private theorem Progress.ended (hprogress : s.Progress) {t : ℕ}
    {transaction : Transaction} (hlive : s.transactions t = some transaction)
    (htransactions : s'.transactions = Function.update s.transactions t none)
    (hissued : s'.issued = s.issued)
    (hrows : ∀ id ∈ s'.db.ids, id ∈ s.db.ids ∨ id ∈ transaction.ids) :
    s'.Progress := by
  have hothers : ∀ {u live}, s'.transactions u = some live →
      u ≠ t ∧ s.transactions u = some live :=
    live_of_ended htransactions
  constructor
  · intro u live hother
    exact hprogress.program (hothers hother).2
  · intro u live hother
    rw [hissued]
    exact hprogress.issued (hothers hother).2
  · intro id hmem
    rw [hissued]
    rcases hrows id hmem with hrow | hown
    · exact hprogress.rows id hrow
    · exact hprogress.issued hlive id hown
  · intro u live hother id hid hmem
    obtain ⟨hne, hother⟩ := hothers hother
    rcases hrows id hmem with hrow | hown
    · exact hprogress.unused hother id hid hrow
    · exact hprogress.apart hne hother hlive id hid hown
  · intro u v first second hne hfirst hsecond
    exact hprogress.apart hne (hothers hfirst).2 (hothers hsecond).2

theorem Progress.step {action : Action} (hprogress : s.Progress)
    (hinv : s.Invariant sha256) (hmoves : Moves sha256 s action s') :
    s'.Progress := by
  cases hmoves with
  | @begin t server call hfree hnew hfresh =>
      refine hprogress.relive rfl rfl rfl .start ?_ ?_
      · intro id hid
        simp only [admitsFresh, Option.all_eq_true] at hfresh
        simpa using hfresh id (Option.mem_toList.mp hid)
      · intro id hid
        exact Or.inl hid
  | @next t call transaction result hlive hrest hfresh =>
      refine hprogress.relive rfl rfl rfl ?_ ?_ ?_
      · rcases result with ⟨exception | returned, session⟩ <;> exact .start
      · intro id hid
        simp only [admitsFresh, Option.all_eq_true] at hfresh
        simpa using hfresh id (Option.mem_toList.mp hid)
      · intro id hid
        rcases result with ⟨exception | returned, session⟩
        · rcases List.mem_append.mp hid with hearlier | hcall
          · exact Or.inr ⟨transaction, hlive, List.mem_append_left _ hearlier⟩
          · exact Or.inl hcall
        · rcases List.mem_append.mp hid with hearlier | hcall
          · simp only [Transaction.following, List.flatMap_append,
              List.flatMap_cons, List.flatMap_nil, List.append_nil]
              at hearlier
            exact Or.inr ⟨transaction, hlive, hearlier⟩
          · exact Or.inl hcall
  | @exec t transaction statement next hlive hrest havailable =>
      refine hprogress.relive rfl (List.nil_append _).symm rfl ?_ ?_ ?_
      · have hleads := hprogress.program hlive
        rw [hrest] at hleads
        exact .answered hleads _
      · intro id hid
        cases hid
      · intro id hid
        exact Or.inr ⟨transaction, hlive, hid⟩
  | @commit t acknowledged transaction returned session hlive hrest hclean =>
      have hserial := ((hinv.sound hlive hclean).snoc hrest).serial
        hinv.wellFormed
      refine hprogress.ended hlive rfl rfl ?_
      intro id hmem
      rcases Database.mem_ids_applyAll hmem with
        hold | ⟨write, hwrite, hinserted⟩
      · exact Or.inl hold
      · obtain ⟨completed, hcompleted, hown⟩ :=
          hserial.inserted_id hwrite hinserted
        right
        rcases List.mem_append.mp hcompleted with hearlier | hlast
        · exact List.mem_append_left _
            (List.mem_flatMap.mpr ⟨completed, hearlier, hown⟩)
        · obtain rfl := List.mem_singleton.mp hlast
          exact List.mem_append_right _ hown
  | fail hlive hrest =>
      exact hprogress.ended hlive rfl rfl
        fun _ hmem => Or.inl hmem
  | abort hlive hstatus =>
      exact hprogress.ended hlive rfl rfl
        fun _ hmem => Or.inl hmem

theorem Reachable.progress (hreach : Reachable sha256 s) : s.Progress := by
  have hboth :=
    @Reachable.induction sha256 (fun s => s.Invariant sha256 ∧ s.Progress)
      ⟨invariant_initial, progress_initial⟩
      (fun ⟨hinv, hprogress⟩ hmoves =>
        ⟨hinv.step hmoves, hprogress.step hinv hmoves⟩) s hreach
  exact hboth.2

/-- The ids of a running call are not in use. -/
theorem Reachable.unused_of_live (hreach : Reachable sha256 s) {t : ℕ}
    {transaction : Transaction} (hlive : s.transactions t = some transaction) :
    transaction.call.Unused s.db := by
  intro id hid
  have hown : id ∈ transaction.ids := List.mem_append_right _ hid
  exact Database.not_mem_ids.mp (hreach.progress.unused hlive id hown)

end System

end InventoryCloud

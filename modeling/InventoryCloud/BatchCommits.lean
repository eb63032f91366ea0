import InventoryCloud.CallRefusals

/-!
# The commits of a batch

A batch of calls is sent to an idle service, each call in a transaction of its
own.  What it has committed so far is a list of transactions with their calls,
each transaction once; the calls follow one another on the tables that were
there before the batch, and whoever is refused is refused on tables which some
of them have left.
-/

namespace InventoryCloud

/-- Only transactions of the batch begin, each with its call. -/
def Action.Serves (batch : ℕ → Call → Prop) : Action → Prop
  | .begin t _ call => batch t call
  | .next _ _ => False
  | _ => True

/-- Calls that write nothing on the tables all happen on them. -/
theorem Serial.quiet {db : Database} {calls : List Completed}
    (hquiet : ∀ completed ∈ calls, completed.HappensOn db →
      completed.session.writes = []) (hserial : Serial db calls) :
    ∀ completed ∈ calls, completed.HappensOn db := by
  induction calls with
  | nil => simp
  | cons completed calls ih =>
      obtain ⟨hhappens, hrest⟩ := hserial
      have hnone := hquiet completed List.mem_cons_self hhappens
      rw [hnone, Database.applyAll_nil] at hrest
      have hothers := ih (fun other hother =>
        hquiet other (List.mem_cons_of_mem _ hother)) hrest
      simpa [hhappens] using hothers

namespace System

variable {sha256 : List UInt8 → List UInt8} {base s s' : System}
  {batch : ℕ → Call → Prop} {commits : List (ℕ × Completed)}

/-- The state after these commits of the batch. -/
structure Serving (batch : ℕ → Call → Prop) (base : System)
    (commits : List (ℕ × Completed)) (s : System) : Prop where
  live : ∀ {t transaction}, s.transactions t = some transaction →
    transaction.earlier = [] ∧ batch t transaction.call ∧ t ∉ base.started
  known : ∀ t ∈ base.started, t ∈ s.started
  durable : s.durable = base.durable ++ commits.map Prod.snd
  nodup : (commits.map Prod.fst).Nodup
  committed : ∀ {t completed}, (t, completed) ∈ commits →
    batch t completed.call ∧
      ∃ acknowledged, s.Finished t (.committed [completed] acknowledged)
  answered : ∀ {t calls acknowledged}, t ∉ base.started →
    s.Finished t (.committed calls acknowledged) →
      ∃ completed, calls = [completed] ∧ (t, completed) ∈ commits
  refused : ∀ {t exception}, t ∉ base.started →
    s.Finished t (.failed exception) → t ∉ commits.map Prod.fst

namespace Serving

theorem start (hidle : ∀ t, base.transactions t = none)
    (hchronicle : base.Chronicle) : Serving batch base [] base where
  live hlive := by simp [hidle] at hlive
  known _ hknown := hknown
  durable := by simp
  nodup := by simp
  committed hmem := by simp at hmem
  answered hnew hfinished := by
    obtain ⟨server, hmem⟩ := hfinished
    exact absurd (hchronicle.recorded hmem) hnew
  refused _ _ := by simp

/-- A live transaction is not among the commits. -/
theorem uncommitted (hserving : Serving batch base commits s)
    (hchronicle : s.Chronicle) {t : ℕ} {transaction : Transaction}
    (hlive : s.transactions t = some transaction) :
    t ∉ commits.map Prod.fst := by
  intro hmem
  obtain ⟨⟨u, completed⟩, hcommit, rfl⟩ := List.mem_map.mp hmem
  obtain ⟨-, _, hfinished⟩ := hserving.committed hcommit
  exact hchronicle.unfinished hlive hfinished

/-- A step without a commit, after which `t` runs as `updated`. -/
private theorem quiet (hserving : Serving batch base commits s) {t : ℕ}
    {updated : Option Transaction} {events : List Event}
    (htransactions : s'.transactions =
      Function.update s.transactions t updated)
    (hupdated : ∀ transaction, updated = some transaction →
      transaction.earlier = [] ∧ batch t transaction.call ∧
        t ∉ base.started)
    (hstarted : ∀ u ∈ s.started, u ∈ s'.started)
    (hhistory : s'.history = s.history ++ events)
    (hevents : ∀ u server calls acknowledged,
      .finished u server (.committed calls acknowledged) ∉ events)
    (hrefused : ∀ u server exception,
      .finished u server (.failed exception) ∈ events →
        u ∉ commits.map Prod.fst)
    (hdurable : events.flatMap Event.durable = []) :
    Serving batch base commits s' where
  live := by
    intro u transaction hlive
    rcases live_of_update htransactions hlive with ⟨rfl, hnew⟩ | ⟨-, hold⟩
    · exact hupdated transaction hnew
    · exact hserving.live hold
  known u hknown := hstarted u (hserving.known u hknown)
  durable := by
    unfold System.durable
    rw [hhistory, List.flatMap_append, hdurable, List.append_nil]
    exact hserving.durable
  nodup := hserving.nodup
  committed := by
    intro u completed hmem
    obtain ⟨hbatch, acknowledged, server, hfinished⟩ := hserving.committed hmem
    exact ⟨hbatch, acknowledged, server, by simp [hhistory, hfinished]⟩
  answered := by
    rintro u calls acknowledged hnew ⟨server, hmem⟩
    rw [hhistory, List.mem_append] at hmem
    rcases hmem with hold | hlast
    · exact hserving.answered hnew ⟨server, hold⟩
    · exact absurd hlast (hevents u server calls acknowledged)
  refused := by
    rintro u exception hnew ⟨server, hmem⟩
    rw [hhistory, List.mem_append] at hmem
    rcases hmem with hold | hlast
    · exact hserving.refused hnew ⟨server, hold⟩
    · exact hrefused u server exception hlast

private theorem commit (hserving : Serving batch base commits s)
    (hchronicle : s.Chronicle) {t : ℕ} {transaction : Transaction}
    {returned : Returned} {session : Session} {acknowledged : Bool}
    (hlive : s.transactions t = some transaction) :
    Serving batch base
      (commits ++ [(t, ⟨transaction.call, returned, session⟩)])
      (s.committed t transaction ⟨transaction.call, returned, session⟩
        acknowledged) := by
  obtain ⟨hfirst, hbatch, hnew⟩ := hserving.live hlive
  have hhistory : (s.committed t transaction
      ⟨transaction.call, returned, session⟩ acknowledged).history =
        s.history ++ [.finished t transaction.server (.committed
          [⟨transaction.call, returned, session⟩] acknowledged)] := by
    simp [System.committed, completed, hfirst]
  have hfresh := hserving.uncommitted hchronicle hlive
  constructor
  · intro u other hother
    by_cases hsame : u = t
    · subst hsame
      simp [System.committed, completed] at hother
    · rw [(committed_other hsame).1] at hother
      exact hserving.live hother
  · exact hserving.known
  · have hdurable := hserving.durable
    unfold System.durable at hdurable ⊢
    rw [hhistory, durable_append, hdurable]
    simp [Event.durable]
  · rw [List.map_append, List.nodup_append]
    refine ⟨hserving.nodup, by simp, ?_⟩
    intro u hu v hv hsame
    have hlast : v = t := by simpa using hv
    exact hfresh (hlast ▸ hsame ▸ hu)
  · intro u other hmem
    rw [List.mem_append, List.mem_singleton, Prod.mk.injEq] at hmem
    rcases hmem with hold | ⟨rfl, rfl⟩
    · obtain ⟨hother, known, server, hfinished⟩ := hserving.committed hold
      exact ⟨hother, known, server, by simp [hhistory, hfinished]⟩
    · exact ⟨hbatch, acknowledged, transaction.server, by simp [hhistory]⟩
  · rintro u calls known hother ⟨server, hmem⟩
    rw [hhistory, List.mem_append, List.mem_singleton] at hmem
    rcases hmem with hold | hlast
    · obtain ⟨other, rfl, hcommit⟩ := hserving.answered hother ⟨server, hold⟩
      exact ⟨other, rfl, List.mem_append_left _ hcommit⟩
    · cases hlast
      exact ⟨_, rfl, by simp⟩
  · rintro u exception hother ⟨server, hmem⟩
    rw [hhistory, List.mem_append, List.mem_singleton] at hmem
    rcases hmem with hold | hlast
    · have hne : u ≠ t := by
        rintro rfl
        exact hchronicle.unfinished hlive ⟨server, hold⟩
      simpa [hne] using hserving.refused hother ⟨server, hold⟩
    · cases hlast

theorem step {action : Action} (hserving : Serving batch base commits s)
    (hchronicle : s.Chronicle) (hserves : action.Serves batch)
    (hmoves : Moves sha256 s action s') :
    ∃ more, Serving batch base (commits ++ more) s' := by
  cases hmoves with
  | begin hfree hnew hfresh =>
      refine ⟨[], ?_⟩
      rw [List.append_nil]
      refine hserving.quiet rfl ?_ (fun _ => List.mem_cons_of_mem _) rfl
        (by simp) (by simp) rfl
      intro transaction hsame
      cases hsame
      exact ⟨rfl, hserves, fun hknown => hnew (hserving.known _ hknown)⟩
  | next hlive hrest hfresh => exact hserves.elim
  | @exec t transaction statement next hlive hrest havailable =>
      obtain ⟨hfirst, hbatch, hnew⟩ := hserving.live hlive
      refine ⟨[], ?_⟩
      rw [List.append_nil]
      refine hserving.quiet rfl ?_ (fun _ hknown => hknown)
        (List.append_nil _).symm (by simp) (by simp) rfl
      intro updated hsame
      cases hsame
      exact ⟨hfirst, hbatch, hnew⟩
  | commit hlive hrest hclean =>
      exact ⟨_, hserving.commit hchronicle hlive⟩
  | fail hlive hrest | abort hlive hstatus =>
      have hfresh := hserving.uncommitted hchronicle hlive
      refine ⟨[], ?_⟩
      rw [List.append_nil]
      refine hserving.quiet rfl (by simp) (fun _ hknown => hknown) rfl
        (by simp) ?_ rfl
      rintro u server exception hmem
      rw [List.mem_singleton] at hmem
      cases hmem <;> exact hfresh

theorem run {actions : List Action} (hserving : Serving batch base commits s)
    (hchronicle : s.Chronicle)
    (hserves : ∀ action ∈ actions, action.Serves batch)
    (hrun : s.run sha256 actions = some s') :
    ∃ more, Serving batch base (commits ++ more) s' := by
  have hboth : s'.Chronicle ∧
      ∃ more, Serving batch base (commits ++ more) s' := by
    apply run_induction_of hserves ⟨hchronicle, [], by simpa using hserving⟩ _
      hrun
    rintro before action after hserved ⟨hbefore, more, hmore⟩ hmoves
    obtain ⟨last, hlast⟩ := hmore.step hbefore hserved hmoves
    rw [List.append_assoc] at hlast
    exact ⟨hbefore.step hmoves, _, hlast⟩
  exact hboth.2

/-- The commits follow one another on the tables of the start. -/
theorem tables (hserving : Serving batch base commits s)
    (hbase : base.Invariant sha256) (hinv : s.Invariant sha256) :
    Serial base.db (commits.map Prod.snd) ∧
      s.db = base.db.applyAll (writesOf (commits.map Prod.snd)) := by
  have hserial := hinv.serial
  have hrows := hinv.rows
  rw [hserving.durable, Serial.append, ← hbase.rows] at hserial
  rw [hserving.durable, writesOf_append, Database.applyAll_append,
    ← hbase.rows] at hrows
  exact ⟨hserial.2, hrows⟩

/-- An answered call of the batch was decided on tables which some of the
commits have left. -/
theorem decided {actions : List Action} (hreach : Reachable sha256 base)
    (hidle : ∀ t, base.transactions t = none)
    (hserves : ∀ action ∈ actions, action.Serves batch)
    (hrun : base.run sha256 actions = some s)
    (hserving : Serving batch base commits s) {t : ℕ} {outcome : Outcome}
    (hnew : t ∉ base.started) (hfinished : s.Finished t outcome)
    (hanswers : outcome.Answers) :
    ∃ call earlier later, commits.map Prod.snd = earlier ++ later ∧
      batch t call ∧
        outcome.Matches call
          (call.resultOn (base.db.applyAll (writesOf earlier))) ∧
        (call.Sendable →
          outcome.JustifiedOn (base.db.applyAll (writesOf earlier)) call) := by
  have hone : ∀ call, Action.next t call ∉ actions :=
    fun call hmem => hserves _ hmem
  obtain ⟨call, server, -, db, hrunning, hmatches⟩ :=
    hreach.decided hnew hone hrun hfinished hanswers
  have hjustified := fun hsendable =>
    RunningOn.justified hreach hrunning hsendable hmatches
  obtain ⟨front, back, middle, transaction, rfl, hfront, hlive, rfl, -, rfl⟩ :=
    hrunning
  have hback : middle.run sha256 back = some s := by
    rwa [run_append, hfront, Option.bind_some] at hrun
  have hmiddle : Reachable sha256 middle := hreach.run hfront
  obtain ⟨earlier, hearlier⟩ := (start hidle hreach.chronicle).run
    hreach.chronicle (fun action haction =>
      hserves action (List.mem_append_left _ haction)) hfront
  rw [List.nil_append] at hearlier
  obtain ⟨later, hlater⟩ := hearlier.run hmiddle.chronicle
    (fun action haction =>
      hserves action (List.mem_append_right _ haction)) hback
  have hsame : commits.map Prod.snd =
      earlier.map Prod.snd ++ later.map Prod.snd := by
    have hdurable := hserving.durable.symm.trans hlater.durable
    rwa [List.map_append, List.append_cancel_left_eq] at hdurable
  refine ⟨_, _, _, hsame, (hearlier.live hlive).2.1, ?_⟩
  rw [← (hearlier.tables hreach.invariant hmiddle.invariant).2]
  exact ⟨hmatches, hjustified⟩

/-- When every call of the batch was committed, its commits are the batch in
some order. -/
theorem perm (hserving : Serving batch base commits s) {ids : List ℕ}
    (hids : ids.Nodup) (hbatch : ∀ t call, batch t call → t ∈ ids)
    {completed : ℕ → Completed}
    (hall : ∀ t ∈ ids, (t, completed t) ∈ commits) :
    commits.Perm (ids.map fun t => (t, completed t)) := by
  have hcommits : commits.Nodup := List.Nodup.of_map _ hserving.nodup
  have hlist : (ids.map fun t => (t, completed t)).Nodup :=
    hids.map fun first second hsame => (Prod.mk.inj hsame).1
  rw [List.perm_ext_iff_of_nodup hcommits hlist]
  rintro ⟨t, other⟩
  rw [List.mem_map]
  constructor
  · intro hmem
    have ht := hbatch t _ (hserving.committed hmem).1
    have hsame := List.inj_on_of_nodup_map hserving.nodup hmem (hall t ht) rfl
    exact ⟨t, ht, hsame.symm⟩
  · rintro ⟨u, hu, hsame⟩
    rw [← hsame]
    exact hall u hu

end Serving

end System

end InventoryCloud

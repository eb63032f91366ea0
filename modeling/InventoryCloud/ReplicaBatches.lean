import InventoryCloud.BatchReservations
import InventoryCloud.CancellationClocks
import InventoryCloud.JsonResponses

/-!
# Batches of requests

A batch of a customer's requests is sent to an idle service, and each request
is answered.  However the requests interleave on the replicas, every answer
was decided on tables which some of the commits of the batch have left.
-/

namespace InventoryCloud

open InventoryController
open ReplicaDrill

/-! ### Answers over HTTP -/

/-- What the caller of one request is answered.  A transaction that breaks
off, and a commit that is not confirmed, leave it without one of these
answers. -/
def Outcome.reply (request : Request) : Outcome → Option HttpResponse
  | .committed [completed] true => some (respond request completed.returned)
  | .failed exception => some (ApiExceptionHandler.handle exception)
  | _ => none

def Event.reply (t : ℕ) (request : Request) : Event → Option HttpResponse
  | .finished u _ outcome => if u = t then outcome.reply request else none
  | _ => none

def System.reply (s : System) (t : ℕ) (request : Request) :
    Option HttpResponse :=
  s.history.findSome? (Event.reply t request)

/-- A customer's requests, each sent in a transaction of its own. -/
structure Batch where
  customer : JavaString
  count : ℕ
  transaction : ℕ → ℕ
  request : ℕ → Request
  distinct : ∀ first < count, ∀ second < count,
    transaction first = transaction second → first = second

namespace Batch

variable (batch : Batch)

def calls (t : ℕ) (call : Call) : Prop :=
  ∃ index < batch.count, batch.transaction index = t ∧
    (batch.request index).call batch.customer = .ok call

/-- The answers of a state, as the client of the drill reads them. -/
def operation (texts : JsonTexts) (s : System) : Operation :=
  fun _ index =>
    match s.reply (batch.transaction index) (batch.request index) with
    | some response => .ok (response.status, texts.body index response.body)
    | none => .error "TimeoutError"

def ids : List ℕ := (List.range batch.count).map batch.transaction

end Batch

/-- What a client has of a response. -/
def HttpResponse.sample (texts : JsonTexts) (index : ℕ)
    (response : HttpResponse) : Sample :=
  ⟨index, index % 2, response.status, texts.body index response.body⟩

namespace System

variable {sha256 : List UInt8 → List UInt8} {s s' : System}

theorem reply_cases {t : ℕ} {request : Request} {response : HttpResponse}
    (hreply : s.reply t request = some response) :
    (∃ completed, s.Finished t (.committed [completed] true) ∧
        response = respond request completed.returned) ∨
      ∃ exception, s.Finished t (.failed exception) ∧
        response = ApiExceptionHandler.handle exception := by
  obtain ⟨event, hmem, hevent⟩ := List.exists_of_findSome?_eq_some hreply
  cases event with
  | invoked u server call => simp [Event.reply] at hevent
  | finished u server outcome =>
      rw [Event.reply] at hevent
      split at hevent
      next hsame =>
        subst hsame
        unfold Outcome.reply at hevent
        split at hevent
        next completed =>
          exact Or.inl ⟨completed, ⟨server, hmem⟩,
            (Option.some.inj hevent).symm⟩
        next exception =>
          exact Or.inr ⟨exception, ⟨server, hmem⟩,
            (Option.some.inj hevent).symm⟩
        next => cases hevent
      next => cases hevent

/-- A batch which has been answered has a response for each request. -/
theorem samples_of_batch {batch : Batch} {texts : JsonTexts}
    {samples : List Sample} (hsamples : concurrentBatch 2
      (batch.operation texts s) batch.count = .ok samples) :
    0 < batch.count ∧ ∃ response : ℕ → HttpResponse,
      (∀ index < batch.count, s.reply (batch.transaction index)
        (batch.request index) = some (response index)) ∧
      samples = (List.range batch.count).map fun index =>
        (response index).sample texts index := by
  obtain ⟨-, hcount, -, -, hworkers⟩ := concurrentBatch_ok.mp hsamples
  refine ⟨by omega, ?_⟩
  have hall : ∀ index < batch.count, ∃ response,
      s.reply (batch.transaction index) (batch.request index) =
        some response := by
    intro index hindex
    have hmem : worker (batch.operation texts s) index ∈
        samples.map Except.ok := by
      rw [← hworkers]
      exact List.mem_map_of_mem (List.mem_range.mpr hindex)
    obtain ⟨sample, -, hsample⟩ := List.mem_map.mp hmem
    cases hreply : s.reply (batch.transaction index) (batch.request index) with
    | some response => exact ⟨response, rfl⟩
    | none => simp [worker, Batch.operation, hreply] at hsample
  obtain ⟨some_response, -⟩ := hall 0 (by omega)
  have : Nonempty HttpResponse := ⟨some_response⟩
  choose! response hresponse using hall
  refine ⟨response, hresponse, ?_⟩
  have hsame : (List.range batch.count).map (worker
      (batch.operation texts s)) = ((List.range batch.count).map fun index =>
        (response index).sample texts index).map .ok := by
    rw [List.map_map]
    apply List.map_congr_left
    intro index hindex
    simp [worker, Batch.operation, HttpResponse.sample,
      hresponse index (List.mem_range.mp hindex)]
  rw [hworkers] at hsame
  exact List.map_injective_iff.mpr (fun _ _ => Except.ok.inj) hsame

end System

/-- How a request of the batch was answered: by a call that was committed, or
by a refusal, each on tables which some of the commits have left. -/
inductive Answered (batch : Batch) (db : Database)
    (commits : List (ℕ × Completed)) (index : ℕ) (response : HttpResponse) :
    Prop where
  | committed {completed : Completed} {earlier later : List Completed}
      (split : commits.map Prod.snd = earlier ++ later)
      (mem : (batch.transaction index, completed) ∈ commits)
      (call : (batch.request index).call batch.customer = .ok completed.call)
      (performs : Performs (db.applyAll (writesOf earlier)) completed.call
        completed.returned completed.session)
      (response_eq : response =
        respond (batch.request index) completed.returned)
  | refused {call : Call} {exception : JavaException}
      {earlier later : List Completed}
      (split : commits.map Prod.snd = earlier ++ later)
      (uncommitted : batch.transaction index ∉ commits.map Prod.fst)
      (call_eq : (batch.request index).call batch.customer = .ok call)
      (refuses : call.Sendable →
        Refuses (db.applyAll (writesOf earlier)) call exception)
      (response_eq : response = ApiExceptionHandler.handle exception)

/-- A batch that was sent to an idle service and answered. -/
structure Batch.Served (batch : Batch) (texts : JsonTexts) (s s' : System)
    (samples : List Sample) (commits : List (ℕ × Completed))
    (response : ℕ → HttpResponse) : Prop where
  nonempty : 0 < batch.count
  serving : System.Serving batch.calls s commits s'
  answered : ∀ index < batch.count,
    Answered batch s.db commits index (response index)
  samples : samples = (List.range batch.count).map fun index =>
    (response index).sample texts index
  serial : Serial s.db (commits.map Prod.snd)
  tables : s'.db = s.db.applyAll (writesOf (commits.map Prod.snd))

/-- The batch is sent to an idle service, in a state that other requests have
led to, and every request of it is answered. -/
structure Batch.Sent (batch : Batch) (texts : JsonTexts)
    (sha256 : List UInt8 → List UInt8) (s s' : System)
    (samples : List Sample) : Prop where
  reachable : System.Reachable sha256 s
  idle : ∀ t, s.transactions t = none
  new : ∀ index < batch.count, batch.transaction index ∉ s.started
  run : ∃ actions : List Action,
    (∀ action ∈ actions, action.Serves batch.calls) ∧
      s.run sha256 actions = some s'
  samples : concurrentBatch 2 (batch.operation texts s') batch.count =
    .ok samples

namespace Batch.Sent

variable {batch : Batch} {texts : JsonTexts}
  {sha256 : List UInt8 → List UInt8} {s s' : System} {samples : List Sample}

theorem reaches (hsent : batch.Sent texts sha256 s s' samples) :
    System.Reachable sha256 s' := by
  obtain ⟨actions, -, hrun⟩ := hsent.run
  exact hsent.reachable.run hrun

theorem served (hsent : batch.Sent texts sha256 s s' samples) :
    ∃ commits response,
      batch.Served texts s s' samples commits response := by
  obtain ⟨hsome, response, hresponse, heq⟩ :=
    System.samples_of_batch hsent.samples
  obtain ⟨actions, hserves, hrun⟩ := hsent.run
  have hreach := hsent.reachable
  obtain ⟨commits, hserving⟩ :=
    (System.Serving.start hsent.idle hreach.chronicle).run hreach.chronicle
      hserves hrun
  rw [List.nil_append] at hserving
  obtain ⟨hserial, htables⟩ :=
    hserving.tables hreach.invariant hsent.reaches.invariant
  refine ⟨commits, response, hsome, hserving, ?_, heq, hserial, htables⟩
  intro index hindex
  have hnew := hsent.new index hindex
  have hown : ∀ call, batch.calls (batch.transaction index) call →
      (batch.request index).call batch.customer = .ok call := by
    rintro call ⟨other, hother, hsame, hcall⟩
    rwa [batch.distinct other hother index hindex hsame] at hcall
  rcases System.reply_cases (hresponse index hindex) with
    ⟨completed, hfinished, hequal⟩ | ⟨exception, hfinished, hequal⟩
  · obtain ⟨call, earlier, later, hsplit, hcall, hmatches, -⟩ :=
      hserving.decided hreach hsent.idle hserves hrun hnew hfinished trivial
    obtain ⟨returned, session, hresult, hcalls⟩ := hmatches
    have hsame : completed = ⟨call, returned, session⟩ :=
      (List.cons.inj hcalls).1
    obtain ⟨other, hother, hmem⟩ := hserving.answered hnew hfinished
    rw [← (List.cons.inj hother).1, hsame] at hmem
    rw [hsame] at hequal
    exact .committed hsplit hmem (hown call hcall)
      (performs_of_resultOn hresult) hequal
  · obtain ⟨call, earlier, later, hsplit, hcall, -, hjustified⟩ :=
      hserving.decided hreach hsent.idle hserves hrun hnew hfinished trivial
    exact .refused hsplit (hserving.refused hnew hfinished)
      (hown call hcall) (fun hsendable => (hjustified hsendable).1) hequal

/-- After the batch the service is idle again. -/
theorem idle_after (hsent : batch.Sent texts sha256 s s' samples) :
    ∀ t, s'.transactions t = none := by
  intro t
  obtain ⟨commits, response, hserved⟩ := hsent.served
  obtain ⟨-, response, hresponse, -⟩ :=
    System.samples_of_batch hsent.samples
  cases hlive : s'.transactions t with
  | none => rfl
  | some transaction =>
      obtain ⟨-, ⟨index, hindex, rfl, -⟩, -⟩ :=
        hserved.serving.live hlive
      rcases System.reply_cases (hresponse index hindex) with
        ⟨completed, hfinished, -⟩ | ⟨exception, hfinished, -⟩
      all_goals
        exact absurd hfinished (hsent.reaches.chronicle.unfinished hlive)

end Batch.Sent

/-! ### Counting the answers -/

namespace Batch

theorem nodup_ids (batch : Batch) : batch.ids.Nodup := by
  apply List.Nodup.map_on _ List.nodup_range
  intro first hfirst second hsecond hsame
  exact batch.distinct first (List.mem_range.mp hfirst) second
    (List.mem_range.mp hsecond) hsame

theorem mem_ids_of_calls {batch : Batch} {t : ℕ} {call : Call}
    (hcall : batch.calls t call) : t ∈ batch.ids := by
  obtain ⟨index, hindex, rfl, -⟩ := hcall
  exact List.mem_map_of_mem (List.mem_range.mpr hindex)

namespace Served

variable {batch : Batch} {texts : JsonTexts} {s s' : System}
  {samples : List Sample} {commits : List (ℕ × Completed)}
  {response : ℕ → HttpResponse}

theorem mem_ids (hserved : batch.Served texts s s' samples commits response) :
    ∀ t ∈ commits.map Prod.fst, t ∈ batch.ids := by
  intro t hmem
  obtain ⟨⟨u, completed⟩, hcommit, rfl⟩ := List.mem_map.mp hmem
  exact mem_ids_of_calls (hserved.serving.committed hcommit).1

theorem statuses
    (hserved : batch.Served texts s s' samples commits response) :
    samples.map (·.status) =
      (List.range batch.count).map fun index => (response index).status := by
  rw [hserved.samples, List.map_map]
  rfl

/-- The requests whose calls were committed are as many as the commits. -/
theorem length_committed
    (hserved : batch.Served texts s s' samples commits response) :
    ((List.range batch.count).filter fun index =>
      decide (batch.transaction index ∈ commits.map Prod.fst)).length =
        commits.length := by
  have hperm : (batch.ids.filter fun t =>
      decide (t ∈ commits.map Prod.fst)).Perm (commits.map Prod.fst) := by
    rw [List.perm_ext_iff_of_nodup (batch.nodup_ids.filter _)
      hserved.serving.nodup]
    intro t
    rw [List.mem_filter, decide_eq_true_eq]
    exact and_iff_right_of_imp (hserved.mem_ids t)
  have hlength := hperm.length_eq
  rw [ids, List.filter_map, List.length_map, List.length_map] at hlength
  exact hlength

end Served

end Batch

/-! ### Two requests on two replicas -/

def sampleTexts : JsonTexts where
  text text := String.ofList (text.map fun unit => Char.ofNat unit.toNat)
  instant instant := "1970-01-01T00:00:00.00000" ++
    toString (instant.epochNanos / 1000) ++ "Z"
  problem _ := [("title", .string "Conflict"), ("status", .integer 409)]

/-- Two requests of one customer. -/
def sampleBatch (request : ℕ → Request) : Batch where
  customer := [99]
  count := 2
  transaction index := 10 + index
  request := request
  distinct := by
    intros
    omega

/-- Both transactions begin; the second waits for the first to commit. -/
def sampleRun (first second : Call) (steps later : ℕ) (last : Action) :
    List Action :=
  [.begin 10 0 first, .begin 11 1 second] ++
    List.replicate steps (.exec 10) ++ [.commit 10 true] ++
      List.replicate later (.exec 11) ++ [last]

theorem sampleRun_serves {request : ℕ → Request} {first second : Call}
    {steps later : ℕ} {last : Action}
    (hfirst : (request 0).call [99] = .ok first)
    (hsecond : (request 1).call [99] = .ok second)
    (hlast : last = .commit 11 true ∨ last = .fail 11) :
    ∀ action ∈ sampleRun first second steps later last,
      action.Serves (sampleBatch request).calls := by
  intro action hmem
  simp only [sampleRun, List.mem_append, List.mem_cons, List.mem_replicate,
    List.not_mem_nil, or_false] at hmem
  rcases hmem with ((((rfl | rfl) | ⟨-, rfl⟩) | rfl) | ⟨-, rfl⟩) | rfl
  · exact ⟨0, Nat.zero_lt_two, rfl, hfirst⟩
  · exact ⟨1, Nat.one_lt_two, rfl, hsecond⟩
  · trivial
  · trivial
  · trivial
  · rcases hlast with rfl | rfl <;> trivial

/-- One product with five units. -/
def sampleStock : Database := ⟨[⟨1, [65, 49], [65], 5, ⟨1000⟩⟩], []⟩

/-- Six units, and a reservation of three. -/
def sampleBooked : Database :=
  ⟨[⟨1, [65, 49], [65], 6, ⟨1000⟩⟩], [System.activeReservation]⟩

/-- The service is idle, and the batch uses transactions of its own. -/
def System.rested (s : System) : Bool :=
  s.started.all fun t => (s.transactions t).isNone && t < 10

theorem sampleStock_reached :
    (System.initial.run (fun _ => []) (System.sampleActions.take 4)).map
      (fun s => (s.rested, s.db)) = some (true, sampleStock) := by
  decide +kernel

theorem sampleBooked_reached :
    (System.initial.run (fun _ => []) (System.sampleActions.take 20)).map
      (fun s => (s.rested, s.db)) = some (true, sampleBooked) := by
  decide +kernel

theorem sampleBatch_sent {before : List Action} {db : Database}
    (hbefore : (System.initial.run (fun _ => []) before).map
      (fun s => (s.rested, s.db)) = some (true, db))
    (request : ℕ → Request) {first second : Call} {steps later : ℕ}
    {last : Action} (hfirst : (request 0).call [99] = .ok first)
    (hsecond : (request 1).call [99] = .ok second)
    (hlast : last = .commit 11 true ∨ last = .fail 11)
    (hafter : ((System.initial.run (fun _ => []) before).bind
      (·.run (fun _ => []) (sampleRun first second steps later last))).map
        (fun s => (s.reply 10 (request 0)).isSome &&
          (s.reply 11 (request 1)).isSome) = some true) :
    ∃ s s' samples, s.db = db ∧
      (sampleBatch request).Sent sampleTexts (fun _ => []) s s' samples := by
  obtain ⟨s, hstart, hrested⟩ := Option.map_eq_some_iff.mp hbefore
  rw [hstart, Option.bind_some] at hafter
  obtain ⟨s', hrun, hreplies⟩ := Option.map_eq_some_iff.mp hafter
  rw [Prod.mk.injEq, System.rested, List.all_eq_true] at hrested
  rw [Bool.and_eq_true, Option.isSome_iff_exists,
    Option.isSome_iff_exists] at hreplies
  obtain ⟨hover, hdb⟩ := hrested
  obtain ⟨⟨one, hone⟩, two, htwo⟩ := hreplies
  have hreach : System.Reachable (fun _ => []) s := ⟨_, hstart⟩
  refine ⟨s, s', [one.sample sampleTexts 0, two.sample sampleTexts 1], hdb,
    hreach, ?_, ?_, ⟨_, sampleRun_serves hfirst hsecond hlast, hrun⟩, ?_⟩
  · intro t
    cases hlive : s.transactions t with
    | none => rfl
    | some transaction =>
        have hdone := hover t (hreach.chronicle.started hlive)
        simp [hlive] at hdone
  · intro index hindex hstarted
    have hsmall := hover _ hstarted
    simp [sampleBatch] at hsmall
  · apply ReplicaDrill.concurrentBatch_ok.mpr
    refine ⟨rfl, le_rfl, (by omega : 2 ≤ 16), Nat.mod_self 2, ?_⟩
    simp [sampleBatch, List.range_succ, worker, Batch.operation, hone, htwo,
      HttpResponse.sample]

end InventoryCloud

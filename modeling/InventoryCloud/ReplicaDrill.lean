import InventoryCloud.InventoryEndpoints
import InventoryCloud.PythonEquality

/-!
# The checks of the replica drill

`replica-drill.py` sends a batch of requests at once to two replicas that share
a database and checks the answers: `concurrent_batch`, the two checks of a
batch and the check of the stock.  What a request is answered is an argument of
the batch; that all workers reach the barrier is assumed.
-/

namespace InventoryCloud

namespace ReplicaDrill

open JsonValue

/-- `RuntimeError`, which `require` and the workers raise. -/
abbrev Failure := PythonError String

def require (condition : Bool) (message : String) : Except Failure PUnit :=
  if condition then pure ⟨⟩ else throw (.own message)

structure Sample where
  index : ℕ
  replica : ℕ
  status : ℕ
  payload : JsonValue

/-- The operation of a worker: the answer of a replica to the request with an
index, or the name of the exception. -/
abbrev Operation := ℕ → ℕ → Except String (ℕ × JsonValue)

def worker (operation : Operation) (index : ℕ) : Except Failure Sample :=
  match operation (index % 2) index with
  | .ok (status, payload) => .ok ⟨index, index % 2, status, payload⟩
  | .error name =>
      .error (.own ("Replica request " ++ toString index ++ " failed: " ++
        name))

def concurrentBatch (apis : ℕ) (operation : Operation) (count : ℕ) :
    Except Failure (List Sample) := do
  require (apis == 2)
    "Concurrency verification requires exactly two replicas"
  require (2 ≤ count && count ≤ 16 && count % 2 == 0)
    "Request batch must be an even integer from 2 to 16"
  (List.range count).mapM (worker operation)

/-- `Counter(statuses) == Counter(expected)`, where what is missing counts as
zero. -/
def counterEquals (statuses : List ℕ) (expected : List (ℕ × ℤ)) : Bool :=
  (statuses ++ expected.map Prod.fst).all fun status =>
    (statuses.count status : ℤ) == (expected.lookup status).getD 0

/-- `isinstance(reference, dict) and bool(reference.get("id"))` -/
def hasIdentity : JsonValue → Bool
  | .object members => Python.truthy ((lookup "id" members).getD .null)
  | _ => false

def firstPayload : List Sample → Except Failure JsonValue
  | [] => .error .indexError
  | sample :: _ => .ok sample.payload

def requireSameReservation (samples : List Sample)
    (expectedCounts : List (ℕ × ℤ)) (expected : Option JsonValue) :
    Except Failure JsonValue := do
  require (counterEquals (samples.map (·.status)) expectedCounts)
    "Concurrent requests returned unexpected HTTP status counts"
  let reference ← expected.elim (firstPayload samples) pure
  require (hasIdentity reference) "Reservation response has no identity"
  require (samples.all fun sample => Python.equal sample.payload reference)
    "Concurrent requests did not return identical reservation fields"
  pure reference

/-- `isinstance(payload, dict) and payload.get("detail") == detail` -/
def hasDetail (detail : String) : JsonValue → Bool
  | .object members =>
      Python.equal ((lookup "detail" members).getD .null) (.string detail)
  | _ => false

/-- A value as an element of a set, which lists and dictionaries cannot be. -/
def hashed : JsonValue → Except Failure JsonValue
  | .array _ => .error .typeError
  | .object _ => .error .typeError
  | value => .ok value

/-- The elements of a set made of the values. -/
def distinct (values : List JsonValue) : List JsonValue :=
  values.foldr (fun value others =>
    if others.any (Python.equal value) then others else value :: others) []

def requireStockConflicts (samples : List Sample) (successes : ℕ) :
    Except Failure (List JsonValue) := do
  require (counterEquals (samples.map (·.status))
      [(201, successes), (409, samples.length - successes)])
    "Contending replicas returned unexpected success/conflict counts"
  require ((samples.filter (·.status == 409)).all fun sample =>
      hasDetail "Insufficient available stock" sample.payload)
    "A non-stock conflict cannot establish that overselling was prevented"
  let created := (samples.filter (·.status == 201)).map (·.payload)
  let ids ← created.mapM fun reservation =>
    Python.subscript "id" reservation >>= hashed
  require ((distinct ids).length == successes)
    "Distinct successful reservation requests did not produce distinct records"
  pure created

/-- The check of the product as both replicas show it. -/
def verifyStock (first second : JsonValue) (quantity : ℤ) :
    Except Failure PUnit := do
  let holds ← if Python.equal first second then do
      let stock ← Python.subscript "availableQuantity" first
      pure (Python.equal stock (.integer quantity))
    else pure false
  require holds "Replicas disagree with expected shared stock"

/-! ### What a passed check says -/

theorem require_ok {condition : Bool} {message : String} {done : PUnit} :
    require condition message = .ok done ↔ condition = true := by
  cases condition <;> simp [require, throw, throwThe, MonadExceptOf.throw, pure,
    Except.pure]

theorem require_true (message : String) : require true message = .ok ⟨⟩ := rfl

theorem counterEquals_iff {statuses : List ℕ} {expected : List (ℕ × ℤ)} :
    counterEquals statuses expected = true ↔ ∀ status,
      (statuses.count status : ℤ) = (expected.lookup status).getD 0 := by
  simp only [counterEquals, List.all_eq_true, List.mem_append, beq_iff_eq]
  constructor
  · intro hall status
    by_cases hmem : status ∈ statuses ∨ status ∈ expected.map Prod.fst
    · exact hall status hmem
    · rw [not_or] at hmem
      have hnone : expected.lookup status = none := by
        rw [List.lookup_eq_none_iff]
        intro entry hentry
        have hne : status ≠ entry.1 := fun hsame =>
          hmem.2 (List.mem_map.mpr ⟨entry, hentry, hsame.symm⟩)
        simpa using hne
      rw [List.count_eq_zero_of_not_mem hmem.1, hnone]
      rfl
  · intro hall status _
    exact hall status

/-- Answers with two statuses are counted as the requests with either. -/
theorem counterEquals_split {count among other : ℕ} {status : ℕ → ℕ}
    {chosen : ℕ → Bool} {number : ℕ} (hne : among ≠ other)
    (hstatus : ∀ index < count,
      status index = if chosen index then among else other)
    (hnumber : ((List.range count).filter chosen).length = number) :
    counterEquals ((List.range count).map status)
      [(among, number), (other, count - number)] = true := by
  have hparts := List.filter_append_perm chosen (List.range count)
  have hlength := hparts.length_eq
  rw [List.length_append, hnumber, List.length_range] at hlength
  have hfirst : ((List.range count).filter chosen).map status =
      List.replicate number among := by
    rw [← hnumber, List.map_eq_replicate_iff]
    intro index hindex
    obtain ⟨hmem, hchosen⟩ := List.mem_filter.mp hindex
    rw [hstatus index (List.mem_range.mp hmem), if_pos hchosen]
  have hsecond : ((List.range count).filter fun index =>
      !chosen index).map status = List.replicate (count - number) other := by
    have hothers : ((List.range count).filter
        fun index => !chosen index).length = count - number := by
      omega
    rw [← hothers, List.map_eq_replicate_iff]
    intro index hindex
    obtain ⟨hmem, hchosen⟩ := List.mem_filter.mp hindex
    rw [hstatus index (List.mem_range.mp hmem), if_neg (by simpa using hchosen)]
  have hsplit := hparts.map status
  rw [List.map_append, hfirst, hsecond] at hsplit
  rw [counterEquals_iff]
  intro value
  rw [← hsplit.count_eq, List.count_append, List.count_replicate,
    List.count_replicate, List.lookup_cons, List.lookup_cons]
  by_cases hamong : value = among
  · subst hamong
    simp [hne.symm]
  · rw [beq_false_of_ne hamong, beq_false_of_ne (Ne.symm hamong)]
    by_cases hother : value = other
    · subst hother
      simp
      omega
    · rw [beq_false_of_ne hother, beq_false_of_ne (Ne.symm hother)]
      rfl

theorem counterEquals_same {count value : ℕ} {status : ℕ → ℕ}
    (hstatus : ∀ index < count, status index = value) :
    counterEquals ((List.range count).map status) [(value, count)] = true := by
  have hsame : (List.range count).map status = List.replicate count value := by
    rw [List.eq_replicate_iff, List.length_map, List.length_range]
    refine ⟨rfl, fun found hfound => ?_⟩
    obtain ⟨index, hindex, rfl⟩ := List.mem_map.mp hfound
    exact hstatus index (List.mem_range.mp hindex)
  rw [counterEquals_iff, hsame]
  intro found
  rw [List.count_replicate, List.lookup_cons]
  by_cases hfound : found = value
  · subst hfound
    simp
  · rw [beq_false_of_ne hfound, beq_false_of_ne (Ne.symm hfound)]
    rfl

theorem requireSameReservation_ok {samples : List Sample}
    {counts : List (ℕ × ℤ)} {expected : Option JsonValue}
    {reference : JsonValue} (hsome : samples ≠ [])
    (hcounts : counterEquals (samples.map (·.status)) counts = true)
    (hexpected : ∀ value, expected = some value → value = reference)
    (hidentity : hasIdentity reference = true)
    (hself : Python.equal reference reference = true)
    (hsame : ∀ sample ∈ samples, sample.payload = reference) :
    requireSameReservation samples counts expected = .ok reference := by
  have hreference : expected.elim (firstPayload samples) pure =
      .ok reference := by
    cases hcase : expected with
    | some value => rw [← hexpected value hcase]; rfl
    | none =>
        cases samples with
        | nil => exact absurd rfl hsome
        | cons sample rest =>
            rw [← hsame sample List.mem_cons_self]
            rfl
  have hall : (samples.all fun sample =>
      Python.equal sample.payload reference) = true := by
    rw [List.all_eq_true]
    intro sample hmem
    rw [hsame sample hmem, hself]
  simp only [requireSameReservation, hcounts, hreference, hidentity, hall,
    require_true, Outcome.ok_bind]
  rfl

theorem distinct_of_nodup {texts : List String} (hnodup : texts.Nodup) :
    distinct (texts.map .string) = texts.map .string := by
  induction texts with
  | nil => rfl
  | cons text rest ih =>
      obtain ⟨hnew, hrest⟩ := List.nodup_cons.mp hnodup
      have hnone : (rest.map JsonValue.string).any
          (Python.equal (.string text)) = false := by
        rw [List.any_eq_false]
        intro value hvalue
        obtain ⟨other, hother, rfl⟩ := List.mem_map.mp hvalue
        have hne : text ≠ other := fun hsame => hnew (hsame ▸ hother)
        simpa using hne
      have hstep : distinct ((text :: rest).map .string) =
          if (distinct (rest.map JsonValue.string)).any
              (Python.equal (.string text)) then
            distinct (rest.map .string)
          else .string text :: distinct (rest.map .string) := rfl
      rw [hstep, ih hrest, hnone, List.map_cons]
      rfl

theorem requireStockConflicts_ok {samples : List Sample} {successes : ℕ}
    {id : Sample → String}
    (hcounts : counterEquals (samples.map (·.status))
      [(201, successes), (409, samples.length - successes)] = true)
    (hconflicts : ∀ sample ∈ samples, sample.status = 409 →
      hasDetail "Insufficient available stock" sample.payload = true)
    (hids : ∀ sample ∈ samples, sample.status = 201 →
      Python.subscript "id" sample.payload =
        (.ok (.string (id sample)) : Except Failure JsonValue))
    (hdistinct : ((samples.filter (·.status == 201)).map id).Nodup) :
    requireStockConflicts samples successes =
      .ok ((samples.filter (·.status == 201)).map (·.payload)) := by
  have hlength : (samples.filter (·.status == 201)).length = successes := by
    have hcount := counterEquals_iff.mp hcounts 201
    rw [List.count_eq_countP, List.countP_map, List.countP_eq_length_filter,
      List.lookup_cons_self, Option.getD_some, Nat.cast_inj] at hcount
    exact hcount
  have hall : ((samples.filter (·.status == 409)).all fun sample =>
      hasDetail "Insufficient available stock" sample.payload) = true := by
    rw [List.all_eq_true]
    intro sample hsample
    obtain ⟨hmem, hstatus⟩ := List.mem_filter.mp hsample
    exact hconflicts sample hmem (by simpa using hstatus)
  have hread : ((samples.filter (·.status == 201)).map (·.payload)).mapM
      (fun reservation => Python.subscript "id" reservation >>= hashed) =
        (.ok (((samples.filter (·.status == 201)).map id).map .string) :
          Except Failure (List JsonValue)) := by
    rw [Outcome.mapM_eq, List.map_map, List.map_map, List.map_map]
    apply List.map_congr_left
    intro sample hsample
    obtain ⟨hmem, hstatus⟩ := List.mem_filter.mp hsample
    have hid := hids sample hmem (by simpa using hstatus)
    simp [hid, Outcome.ok_bind, hashed]
  simp only [requireStockConflicts, hcounts, hall, hread, require_true,
    Outcome.ok_bind, distinct_of_nodup hdistinct, List.length_map, hlength,
    beq_self_eq_true]
  rfl

theorem concurrentBatch_ok {apis count : ℕ} {operation : Operation}
    {samples : List Sample} :
    concurrentBatch apis operation count = .ok samples ↔
      apis = 2 ∧ 2 ≤ count ∧ count ≤ 16 ∧ count % 2 = 0 ∧
        (List.range count).map (worker operation) = samples.map .ok := by
  simp only [concurrentBatch, Outcome.bind_ok, require_ok, exists_const,
    Outcome.mapM_eq, beq_iff_eq, Bool.and_eq_true, decide_eq_true_eq,
    and_assoc]

end ReplicaDrill

end InventoryCloud

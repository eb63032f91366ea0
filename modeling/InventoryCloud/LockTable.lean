import Mathlib.Data.Set.Basic
import Mathlib.Logic.Function.Basic
import Mathlib.Logic.Relation
import Mathlib.Tactic

/-!
# Lock tables and waiting

Every resource has at most one exclusive owner and any number of sharers.  A
request waits for each other party whose lock conflicts with it.  The last
section is the usual rank argument: when a party only waits above everything
it already holds, no cycle of waiting parties can arise.
-/

namespace Locking

universe u v

inductive Mode where
  | exclusive
  | shared
  deriving DecidableEq, Repr

structure LockTable (L : Type u) (T : Type v) where
  owner : L → Option T
  sharers : L → List T

namespace LockTable

variable {L : Type u} {T : Type v}

def empty : LockTable L T where
  owner := fun _ => none
  sharers := fun _ => []

/-- `other` stands in the way of a request of `party`. -/
def Blocks (table : LockTable L T) (party : T) (request : L × Mode)
    (other : T) : Prop :=
  other ≠ party ∧
    (table.owner request.1 = some other ∨
      (request.2 = .exclusive ∧ other ∈ table.sharers request.1))

def available [DecidableEq T] (table : LockTable L T) (party : T)
    (request : L × Mode) : Bool :=
  (match table.owner request.1 with
    | none => true
    | some other => other == party) &&
    (request.2 == .shared || (table.sharers request.1).all (· == party))

def acquire [DecidableEq L] (table : LockTable L T) (party : T)
    (request : L × Mode) : LockTable L T :=
  match request.2 with
  | .exclusive =>
      { table with owner := Function.update table.owner request.1 (some party) }
  | .shared =>
      { table with
        sharers := Function.update table.sharers request.1
          (party :: table.sharers request.1) }

def acquireAll [DecidableEq L] (table : LockTable L T) (party : T)
    (requests : List (L × Mode)) : LockTable L T :=
  requests.foldl (fun current request => current.acquire party request) table

def release [DecidableEq T] (table : LockTable L T) (party : T) :
    LockTable L T where
  owner := fun resource =>
    if table.owner resource = some party then none else table.owner resource
  sharers := fun resource => (table.sharers resource).filter (· ≠ party)

/-- The resources a party owns exclusively. -/
def held (table : LockTable L T) (party : T) : Set L :=
  {resource | table.owner resource = some party}

def exclusiveOf (requests : List (L × Mode)) : Set L :=
  {resource | (resource, Mode.exclusive) ∈ requests}

@[simp] theorem mem_held {table : LockTable L T} {party : T} {resource : L} :
    resource ∈ table.held party ↔ table.owner resource = some party :=
  Iff.rfl

theorem held_disjoint (table : LockTable L T) {party other : T}
    (hne : party ≠ other) :
    ∀ resource ∈ table.held party, resource ∉ table.held other := by
  intro resource hparty hother
  rw [mem_held] at hparty hother
  rw [hparty, Option.some.injEq] at hother
  exact hne hother

theorem exclusiveOf_cons (request : L × Mode) (requests : List (L × Mode)) :
    exclusiveOf (request :: requests) =
      exclusiveOf [request] ∪ exclusiveOf requests := by
  ext resource
  simp [exclusiveOf, or_comm]

/-! ## Availability and release -/

section

variable [DecidableEq T]

theorem available_iff (table : LockTable L T) (party : T)
    (request : L × Mode) :
    table.available party request = true ↔
      ∀ other, ¬ table.Blocks party request other := by
  obtain ⟨resource, mode⟩ := request
  simp only [available, Blocks, Bool.and_eq_true, Bool.or_eq_true, beq_iff_eq,
    List.all_eq_true]
  constructor
  · rintro ⟨howner, hsharers⟩ other ⟨hne, hblock | ⟨hmode, hmem⟩⟩
    · rw [hblock] at howner
      exact hne (by simpa using howner)
    · rcases hsharers with hshared | hall
      · exact absurd (hmode.symm.trans hshared) (by decide)
      · exact hne (hall other hmem)
  · intro hfree
    constructor
    · cases howner : table.owner resource with
      | none => rfl
      | some other =>
          by_contra hne
          exact hfree other ⟨by simpa using hne, Or.inl howner⟩
    · cases mode with
      | shared => exact Or.inl rfl
      | exclusive =>
          refine Or.inr fun other hmem => ?_
          by_contra hne
          exact hfree other ⟨hne, Or.inr ⟨rfl, hmem⟩⟩

theorem owner_of_available {table : LockTable L T} {party : T}
    {request : L × Mode} (havailable : table.available party request = true)
    {other : T} (howner : table.owner request.1 = some other) :
    other = party := by
  by_contra hne
  exact (available_iff table party request).mp havailable other
    ⟨hne, Or.inl howner⟩

@[simp] theorem held_release_self (table : LockTable L T) (party : T) :
    (table.release party).held party = ∅ := by
  ext resource
  by_cases howner : table.owner resource = some party <;>
    simp [release, howner]

theorem held_release_other {table : LockTable L T} {party other : T}
    (hne : other ≠ party) :
    (table.release party).held other = table.held other := by
  ext resource
  by_cases howner : table.owner resource = some party
  · have hnot : table.owner resource ≠ some other := by
      rw [howner]
      simpa using hne.symm
    simp [release, howner, hne.symm]
  · simp [release, howner]

end

/-! ## Acquisition -/

section

variable [DecidableEq L]

theorem held_acquire_self (table : LockTable L T) (party : T)
    (request : L × Mode) :
    (table.acquire party request).held party =
      table.held party ∪ exclusiveOf [request] := by
  obtain ⟨resource, mode⟩ := request
  ext other
  cases mode with
  | shared => simp [acquire, exclusiveOf]
  | exclusive =>
      by_cases heq : other = resource
      · subst heq
        simp [acquire, exclusiveOf]
      · simp [acquire, exclusiveOf, Function.update, heq]

theorem held_acquireAll_self (table : LockTable L T) (party : T)
    (requests : List (L × Mode)) :
    (table.acquireAll party requests).held party =
      table.held party ∪ exclusiveOf requests := by
  induction requests generalizing table with
  | nil => simp [acquireAll, exclusiveOf]
  | cons request requests ih =>
      have hrest := ih (table.acquire party request)
      rw [held_acquire_self, Set.union_assoc, ← exclusiveOf_cons] at hrest
      exact hrest

variable [DecidableEq T]

theorem held_acquire_other {table : LockTable L T} {party other : T}
    {request : L × Mode} (hne : other ≠ party)
    (havailable : table.available party request = true) :
    (table.acquire party request).held other = table.held other := by
  obtain ⟨resource, mode⟩ := request
  ext candidate
  cases mode with
  | shared => simp [acquire]
  | exclusive =>
      by_cases heq : candidate = resource
      · subst heq
        simp only [acquire, mem_held, Function.update_self, Option.some.injEq]
        constructor
        · intro hparty
          exact absurd hparty.symm hne
        · intro howner
          exact absurd (owner_of_available havailable howner) hne
      · simp [acquire, Function.update, heq]

theorem available_acquire {table : LockTable L T} {party : T}
    {first second : L × Mode}
    (hsecond : table.available party second = true) :
    (table.acquire party first).available party second = true := by
  rw [available_iff] at hsecond ⊢
  rintro other ⟨hne, hblock⟩
  obtain ⟨resource, mode⟩ := first
  refine hsecond other ⟨hne, ?_⟩
  cases mode with
  | exclusive =>
      refine hblock.imp_left fun howner => ?_
      by_cases heq : second.1 = resource
      · simp only [acquire, heq, Function.update_self,
          Option.some.injEq] at howner
        exact absurd howner.symm hne
      · simpa [acquire, Function.update, heq] using howner
  | shared =>
      refine hblock.imp_right fun ⟨hmode, hmem⟩ => ⟨hmode, ?_⟩
      by_cases heq : second.1 = resource
      · simp only [acquire, heq, Function.update_self, List.mem_cons] at hmem
        rw [heq]
        exact hmem.resolve_left hne
      · simpa [acquire, Function.update, heq] using hmem

theorem held_acquireAll_other {table : LockTable L T} {party other : T}
    {requests : List (L × Mode)} (hne : other ≠ party)
    (havailable : ∀ request ∈ requests,
      table.available party request = true) :
    (table.acquireAll party requests).held other = table.held other := by
  induction requests generalizing table with
  | nil => rfl
  | cons request requests ih =>
      have hfirst := havailable request List.mem_cons_self
      have hrest := @ih (table.acquire party request) fun next hnext =>
        available_acquire (havailable next (List.mem_cons_of_mem _ hnext))
      rw [held_acquire_other hne hfirst] at hrest
      exact hrest

end

/-! ## Shared locks of an owner -/

/-- Whoever shares a resource also owns it. -/
def SharedByOwner (table : LockTable L T) : Prop :=
  ∀ resource party, party ∈ table.sharers resource →
    table.owner resource = some party

theorem sharedByOwner_empty : (empty : LockTable L T).SharedByOwner :=
  fun _ _ hmem => by cases hmem

/-- A table in which nobody owns anything is empty. -/
theorem SharedByOwner.eq_empty {table : LockTable L T}
    (hshared : table.SharedByOwner) (hidle : ∀ party, table.held party = ∅) :
    table = empty := by
  have howner : ∀ resource, table.owner resource = none := by
    intro resource
    cases howner : table.owner resource with
    | none => rfl
    | some party =>
        have hheld : resource ∈ table.held party := howner
        rw [hidle party] at hheld
        cases hheld
  have hsharers : ∀ resource, table.sharers resource = [] := by
    intro resource
    cases hsharers : table.sharers resource with
    | nil => rfl
    | cons party rest =>
        have hown := hshared resource party
          (by rw [hsharers]; exact List.mem_cons_self)
        rw [howner resource] at hown
        cases hown
  cases table
  exact congrArg₂ LockTable.mk (funext howner) (funext hsharers)

theorem SharedByOwner.owner_of_blocks {table : LockTable L T}
    (hshared : table.SharedByOwner) {party other : T} {request : L × Mode}
    (hblocks : table.Blocks party request other) :
    table.owner request.1 = some other := by
  rcases hblocks with ⟨-, howner | ⟨-, hmem⟩⟩
  · exact howner
  · exact hshared _ _ hmem

theorem SharedByOwner.release [DecidableEq T] {table : LockTable L T}
    (hshared : table.SharedByOwner) (party : T) :
    (table.release party).SharedByOwner := by
  intro resource other hmem
  simp only [LockTable.release, ne_eq, decide_not, List.mem_filter,
    Bool.not_eq_true', decide_eq_false_iff_not] at hmem
  have howner := hshared _ _ hmem.1
  have hne : some other ≠ some party := by simpa using hmem.2
  simp only [LockTable.release, howner]
  exact if_neg hne

section

variable [DecidableEq L] [DecidableEq T]

theorem SharedByOwner.acquire {table : LockTable L T}
    (hshared : table.SharedByOwner) {party : T} {request : L × Mode}
    (havailable : table.available party request = true)
    (howned : request.2 = .shared → table.owner request.1 = some party) :
    (table.acquire party request).SharedByOwner := by
  obtain ⟨resource, mode⟩ := request
  intro other sharer hmem
  cases mode with
  | exclusive =>
      have howner := hshared _ _ hmem
      by_cases heq : other = resource
      · subst heq
        have hsame : sharer = party := owner_of_available havailable howner
        simp [LockTable.acquire, hsame]
      · simp [LockTable.acquire, Function.update, heq, howner]
  | shared =>
      by_cases heq : other = resource
      · subst heq
        simp only [LockTable.acquire, Function.update_self,
          List.mem_cons] at hmem
        rcases hmem with rfl | hold
        · exact howned rfl
        · exact hshared _ _ hold
      · simp only [LockTable.acquire, Function.update, heq, dite_false]
          at hmem
        exact hshared _ _ hmem

theorem SharedByOwner.acquireAll {table : LockTable L T}
    (hshared : table.SharedByOwner) {party : T}
    {requests : List (L × Mode)}
    (havailable : ∀ request ∈ requests,
      table.available party request = true)
    (howned : ∀ request ∈ requests, request.2 = .shared →
      table.owner request.1 = some party) :
    (table.acquireAll party requests).SharedByOwner := by
  induction requests generalizing table with
  | nil => exact hshared
  | cons request requests ih =>
      have hfirst := havailable request List.mem_cons_self
      refine @ih (table.acquire party request)
        (hshared.acquire hfirst (howned request List.mem_cons_self)) ?_ ?_
      · intro next hnext
        exact available_acquire (havailable next (List.mem_cons_of_mem _ hnext))
      · intro next hnext hmode
        have howner : next.1 ∈ table.held party :=
          howned next (List.mem_cons_of_mem _ hnext) hmode
        have hafter : next.1 ∈ (table.acquire party request).held party := by
          rw [held_acquire_self]
          exact Or.inl howner
        exact hafter

end

/-! ## Leaving parties out -/

/-- The table without the locks of some parties. -/
def without (table : LockTable L T) (gone : T → Bool) : LockTable L T where
  owner := fun resource => (table.owner resource).filter fun party => !gone party
  sharers := fun resource =>
    (table.sharers resource).filter fun party => !gone party

section

variable {table : LockTable L T} {gone : T → Bool} {party : T}

theorem without_empty (gone : T → Bool) :
    (empty : LockTable L T).without gone = empty := rfl

section

variable [DecidableEq T]

theorem available_without {request : L × Mode}
    (havailable : table.available party request = true) :
    (table.without gone).available party request = true := by
  rw [available_iff] at havailable ⊢
  rintro other ⟨hne, hblock⟩
  refine havailable other ⟨hne, ?_⟩
  rcases hblock with howner | ⟨hmode, hmem⟩
  · have howned := (Option.filter_eq_some_iff.mp howner).1
    exact Or.inl howned
  · exact Or.inr ⟨hmode, (List.mem_filter.mp hmem).1⟩

theorem without_release (table : LockTable L T) (gone : T → Bool) (party : T) :
    (table.release party).without gone =
      (table.without gone).release party := by
  unfold without release
  congr 1
  · funext resource
    cases howner : table.owner resource with
    | none => simp [howner]
    | some other =>
        by_cases hsame : other = party
        · subst hsame
          cases hgone : gone other <;> simp [howner, Option.filter, hgone]
        · cases hgone : gone other <;>
            simp [howner, Option.filter, hgone, hsame]
  · funext resource
    simp only [List.filter_filter]
    refine List.filter_congr fun other _ => ?_
    rw [Bool.and_comm]

/-- Nothing remains of a party that is left out. -/
theorem without_release_gone (table : LockTable L T)
    (hgone : gone party = true) :
    (table.release party).without gone = table.without gone := by
  unfold without release
  congr 1
  · funext resource
    by_cases howner : table.owner resource = some party
    · simp [howner, Option.filter, hgone]
    · simp [howner]
  · funext resource
    rw [List.filter_filter]
    refine List.filter_congr fun other _ => ?_
    by_cases hsame : other = party
    · simp [hsame, hgone]
    · simp [hsame]

theorem without_release_other (table : LockTable L T) (gone : T → Bool)
    (party : T) :
    (table.release party).without gone =
      (table.without fun other => gone other && other != party).release
        party := by
  unfold without release
  congr 1
  · funext resource
    cases howner : table.owner resource with
    | none => simp [howner]
    | some other =>
        by_cases hsame : other = party
        · simp [howner, hsame, Option.filter]
        · cases hgone : gone other <;>
            simp [howner, Option.filter, hgone, hsame]
  · funext resource
    simp only [List.filter_filter]
    refine List.filter_congr fun other _ => ?_
    by_cases hsame : other = party <;> simp [hsame]

end

section

variable [DecidableEq L]

theorem without_acquire (table : LockTable L T) (request : L × Mode)
    (hstays : gone party = false) :
    (table.acquire party request).without gone =
      (table.without gone).acquire party request := by
  obtain ⟨resource, mode⟩ := request
  cases mode with
  | exclusive =>
      unfold without acquire
      congr 1
      funext other
      by_cases heq : other = resource
      · subst heq
        simp [Option.filter, hstays]
      · simp [Function.update, heq]
  | shared =>
      unfold without acquire
      congr 1
      funext other
      by_cases heq : other = resource
      · subst heq
        simp [hstays]
      · simp [Function.update, heq]

theorem without_acquireAll (table : LockTable L T)
    (requests : List (L × Mode)) (hstays : gone party = false) :
    (table.acquireAll party requests).without gone =
      (table.without gone).acquireAll party requests := by
  induction requests generalizing table with
  | nil => rfl
  | cons request requests ih =>
      have hrest := ih (table.acquire party request)
      rw [without_acquire table request hstays] at hrest
      exact hrest

variable [DecidableEq T]

theorem without_acquire_gone {request : L × Mode}
    (hgone : gone party = true)
    (havailable : table.available party request = true) :
    (table.acquire party request).without gone = table.without gone := by
  obtain ⟨resource, mode⟩ := request
  cases mode with
  | exclusive =>
      unfold without acquire
      congr 1
      funext other
      by_cases heq : other = resource
      · subst heq
        cases howner : table.owner other with
        | none => simp [Option.filter, hgone]
        | some owner =>
            have hsame : owner = party :=
              owner_of_available havailable howner
            simp [Option.filter, hsame, hgone]
      · simp [Function.update, heq]
  | shared =>
      unfold without acquire
      congr 1
      funext other
      by_cases heq : other = resource
      · subst heq
        simp [hgone]
      · simp [Function.update, heq]

theorem without_acquireAll_gone {requests : List (L × Mode)}
    (hgone : gone party = true)
    (havailable : ∀ request ∈ requests,
      table.available party request = true) :
    (table.acquireAll party requests).without gone = table.without gone := by
  induction requests generalizing table with
  | nil => rfl
  | cons request requests ih =>
      have hfirst := havailable request List.mem_cons_self
      have hrest := @ih (table.acquire party request) fun next hnext =>
        available_acquire (havailable next (List.mem_cons_of_mem _ hnext))
      rw [without_acquire_gone hgone hfirst] at hrest
      exact hrest

end

end

/-! ## Ranks -/

/-- A waiting relation whose chains climb a rank has no cycle. -/
theorem no_waiting_cycle {Waits : T → T → Prop} (rank : T → ℕ)
    (hclimb : ∀ {first second third}, Waits first second →
      Waits second third → rank first < rank second) (party : T) :
    ¬ Relation.TransGen Waits party party := by
  have hpath : ∀ {first last}, Relation.TransGen Waits first last →
      ∀ next, Waits last next → rank first < rank last := by
    intro first last hchain
    induction hchain with
    | single hwait =>
        intro next hnext
        exact hclimb hwait hnext
    | tail hchain hwait ih =>
        intro next hnext
        exact (ih _ hwait).trans (hclimb hwait hnext)
  intro hcycle
  obtain ⟨next, hnext, -⟩ := Relation.TransGen.head'_iff.mp hcycle
  exact lt_irrefl _ (hpath hcycle next hnext)

/-- Of finitely many parties which wait only for each other, one waits for
nobody. -/
theorem exists_not_waiting {Waits : T → T → Prop} (rank : T → ℕ)
    (hclimb : ∀ {first second third}, Waits first second →
      Waits second third → rank first < rank second) {parties : List T}
    (hclosed : ∀ {party other}, party ∈ parties → Waits party other →
      other ∈ parties) (hsome : parties ≠ []) :
    ∃ party ∈ parties, ∀ other, ¬ Waits party other := by
  obtain ⟨top, hargmax⟩ : ∃ top, parties.argmax rank = some top :=
    Option.ne_none_iff_exists'.mp (mt List.argmax_eq_none.mp hsome)
  have htop : top ∈ parties := List.argmax_mem hargmax
  by_cases hwaits : ∃ other, Waits top other
  · obtain ⟨other, hother⟩ := hwaits
    refine ⟨other, hclosed htop hother, fun third hthird => ?_⟩
    have hhigher : rank top < rank other := hclimb hother hthird
    have hlower : rank other ≤ rank top :=
      List.le_of_mem_argmax (hclosed htop hother) hargmax
    omega
  · exact ⟨top, htop, fun other hother => hwaits ⟨other, hother⟩⟩

end LockTable

end Locking

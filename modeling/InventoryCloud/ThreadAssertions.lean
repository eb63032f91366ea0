import InventoryCloud.ProgramAssertions
import Mathlib.Logic.Relation

/-!
# Assertions about interleaved programs

Threads run their programs one exchange at a time, in any order, and share one
world.  A discipline says what a move of one thread may do to the world and
what the others can rely on.  `Secures` follows one program with the moves of
the other threads in between; when every program secures its assertions on its
own, `Secured.reaches` gives them to every reachable state of all threads.
-/

namespace Interaction

universe u v w x y z

structure Thread (J : Type y) (Q : Type u) (A : Q → Type v) (R : Type w) where
  job : J
  history : List (Exchange Q A)
  rest : Program Q A R

structure Threads (T : Type z) (J : Type y) (Q : Type u) (A : Q → Type v)
    (R : Type w) (W : Type x) where
  running : T → Option (Thread J Q A R)
  world : W

structure Discipline (T : Type z) (J : Type y) (Q : Type u) (A : Q → Type v)
    (R : Type w) (W : Type x) where
  program : J → Program Q A R
  effect : T → Exchange Q A → W → W → Prop
  Valid : W → Prop
  /-- What a move of the thread may do. -/
  May : T → W → W → Prop
  /-- What the thread may assume about the moves of the others. -/
  Rely : T → W → W → Prop
  valid_of_may : ∀ {thread before after},
    May thread before after → Valid before → Valid after
  rely_of_may : ∀ {thread other before after}, other ≠ thread →
    May other before after → Rely thread before after
  rely_refl : ∀ thread world, Rely thread world world
  rely_trans : ∀ {thread first second third},
    Rely thread first second → Rely thread second third →
      Rely thread first third

variable {T : Type z} {J : Type y} {Q : Type u} {A : Q → Type v}
  {R : Type w} {W : Type x}

namespace Threads

variable [DecidableEq T]

/-- One thread and the world after a move of it. -/
def set (threads : Threads T J Q A R W) (thread : T)
    (current : Thread J Q A R) (world : W) : Threads T J Q A R W where
  running := Function.update threads.running thread (some current)
  world := world

@[simp] theorem set_world (threads : Threads T J Q A R W) (thread : T)
    (current : Thread J Q A R) (world : W) :
    (threads.set thread current world).world = world := rfl

@[simp] theorem set_running_self (threads : Threads T J Q A R W) (thread : T)
    (current : Thread J Q A R) (world : W) :
    (threads.set thread current world).running thread = some current := by
  simp [set]

theorem set_running_of_ne (threads : Threads T J Q A R W) {thread other : T}
    (current : Thread J Q A R) (world : W) (hne : other ≠ thread) :
    (threads.set thread current world).running other =
      threads.running other := by
  simp [set, hne]

/-- Some thread has the property after a move of one: this one, or another
which has not changed. -/
theorem exists_set_iff {threads : Threads T J Q A R W} {thread : T}
    {current : Thread J Q A R} {world : W} {P : Thread J Q A R → Prop} :
    (∃ other found, (threads.set thread current world).running other =
        some found ∧ P found) ↔
      P current ∨ ∃ other found, other ≠ thread ∧
        threads.running other = some found ∧ P found := by
  constructor
  · rintro ⟨other, found, hfound, hproperty⟩
    rcases eq_or_ne other thread with rfl | hne
    · rw [set_running_self, Option.some.injEq] at hfound
      exact Or.inl (hfound ▸ hproperty)
    · rw [set_running_of_ne threads _ _ hne] at hfound
      exact Or.inr ⟨other, found, hne, hfound, hproperty⟩
  · rintro (hproperty | ⟨other, found, hne, hfound, hproperty⟩)
    · exact ⟨thread, current, set_running_self threads thread current world,
        hproperty⟩
    · refine ⟨other, found, ?_, hproperty⟩
      rw [set_running_of_ne threads _ _ hne]
      exact hfound

end Threads

namespace Program

variable {α β : Type w}

/-- Whatever the other threads do in between, the program makes only moves it
may make, `during` holds as long as it is not finished, and it can only end
where `post` holds. -/
def Secures (D : Discipline T J Q A R W) (thread : T)
    (during : List (Exchange Q A) → Prop) (post : α → Assertion Q A W) :
    Program Q A α → Assertion Q A W
  | .pure value, history, world => post value history world
  | .ask query next, history, world => during history ∧
      ∀ later answer after, D.Valid later → D.Rely thread world later →
        D.effect thread ⟨query, answer⟩ later after →
          D.May thread later after ∧
            (next answer).Secures D thread during post
              (history ++ [⟨query, answer⟩]) after

variable {D : Discipline T J Q A R W} {thread : T}
  {during : List (Exchange Q A) → Prop}

theorem secures_bind {program : Program Q A α} {next : α → Program Q A β}
    {post : β → Assertion Q A W} :
    (program >>= next).Secures D thread during post =
      program.Secures D thread during
        (fun value => (next value).Secures D thread during post) := by
  induction program with
  | pure value => rfl
  | ask query following ih =>
      funext history world
      rw [ask_bind]
      unfold Secures
      simp only [ih]

theorem Secures.mono {program : Program Q A α}
    {post weaker : α → Assertion Q A W} {history : List (Exchange Q A)}
    {world : W}
    (hprogram : program.Secures D thread during post history world)
    (hweaker : ∀ value history world, post value history world →
      weaker value history world) :
    program.Secures D thread during weaker history world := by
  induction program generalizing history world with
  | pure value => exact hweaker value history world hprogram
  | ask query next ih =>
      obtain ⟨hduring, hnext⟩ := hprogram
      refine ⟨hduring, ?_⟩
      intro later answer after hvalid hrely heffect
      obtain ⟨hmay, hrest⟩ := hnext later answer after hvalid hrely heffect
      exact ⟨hmay, ih answer hrest⟩

/-- The moves of the others do not disturb what a program secures. -/
theorem Secures.later {program : Program Q A α}
    {post : α → Assertion Q A W} {history : List (Exchange Q A)}
    {world later : W}
    (hstable : ∀ value history world later, D.Rely thread world later →
      post value history world → post value history later)
    (hrely : D.Rely thread world later)
    (hprogram : program.Secures D thread during post history world) :
    program.Secures D thread during post history later := by
  cases program with
  | pure value => exact hstable value history world later hrely hprogram
  | ask query next =>
      obtain ⟨hduring, hnext⟩ := hprogram
      refine ⟨hduring, ?_⟩
      intro moment answer after hvalid hmoment heffect
      exact hnext moment answer after hvalid (D.rely_trans hrely hmoment)
        heffect

end Program

namespace Fallible

variable {E : Type w} {A : Q → Type w} {α β : Type w}

/-- As for a program, with an assertion for every way to end. -/
def Secures (D : Discipline T J Q A R W) (thread : T)
    (during : List (Exchange Q A) → Prop) (post : Except E α → Assertion Q A W)
    (program : Fallible E Q A α) : Assertion Q A W :=
  program.run.Secures D thread during post

variable {D : Discipline T J Q A R W} {thread : T}
  {during : List (Exchange Q A) → Prop} {history : List (Exchange Q A)}
  {world : W}

theorem secures_step {result : Except E α}
    {post : Except E α → Assertion Q A W} :
    (step result : Fallible E Q A α).Secures D thread during post =
      post result :=
  rfl

theorem secures_ask {query : Q} {post : Except E (A query) → Assertion Q A W} :
    (ask query : Fallible E Q A (A query)).Secures D thread during post
        history world ↔
      during history ∧
        ∀ later answer after, D.Valid later → D.Rely thread world later →
          D.effect thread ⟨query, answer⟩ later after →
            D.May thread later after ∧
              post (.ok answer) (history ++ [⟨query, answer⟩]) after :=
  Iff.rfl

theorem secures_bind {program : Fallible E Q A α}
    {next : α → Fallible E Q A β} {post : Except E β → Assertion Q A W} :
    (program >>= next).Secures D thread during post =
      program.Secures D thread during
        (either (fun value => (next value).Secures D thread during post)
          (fun error => post (.error error))) := by
  unfold Secures
  rw [ExceptT.run_bind, Program.secures_bind]
  congr 1
  funext outcome
  cases outcome with
  | ok value => rfl
  | error error => rfl

/-- A step that may raise, before the rest of the program. -/
theorem Secures.step_bind {result : Except E α} {next : α → Fallible E Q A β}
    {post : Except E β → Assertion Q A W}
    (herror : ∀ error, result = .error error →
      post (.error error) history world)
    (hnext : ∀ value, result = .ok value →
      (next value).Secures D thread during post history world) :
    (step result >>= next).Secures D thread during post history world := by
  rw [secures_bind, secures_step]
  cases result with
  | error error => exact herror error rfl
  | ok value => exact hnext value rfl

theorem Secures.mono {program : Fallible E Q A α}
    {post weaker : Except E α → Assertion Q A W}
    (hprogram : program.Secures D thread during post history world)
    (hweaker : ∀ outcome history world, post outcome history world →
      weaker outcome history world) :
    program.Secures D thread during weaker history world :=
  Program.Secures.mono hprogram hweaker

end Fallible

/-! ### All threads together -/

namespace Discipline

variable [DecidableEq T] (D : Discipline T J Q A R W)

/-- A new thread begins with its program, or a thread makes its next
exchange. -/
inductive Move : Threads T J Q A R W → Threads T J Q A R W → Prop
  | begins {threads : Threads T J Q A R W} (thread : T) (job : J)
      (hfree : threads.running thread = none) :
      Move threads
        (threads.set thread ⟨job, [], D.program job⟩ threads.world)
  | exchanges {threads : Threads T J Q A R W} {thread : T} {job : J}
      {history : List (Exchange Q A)} {query : Q}
      {next : A query → Program Q A R} (answer : A query) {after : W}
      (hthread : threads.running thread =
        some ⟨job, history, .ask query next⟩)
      (heffect : D.effect thread ⟨query, answer⟩ threads.world after) :
      Move threads
        (threads.set thread ⟨job, history ++ [⟨query, answer⟩], next answer⟩
          after)

def Reaches : Threads T J Q A R W → Threads T J Q A R W → Prop :=
  Relation.ReflTransGen D.Move

/-- The world is valid and every thread secures its assertions from here. -/
structure Secured (during : J → List (Exchange Q A) → Prop)
    (post : J → R → Assertion Q A W) (threads : Threads T J Q A R W) :
    Prop where
  valid : D.Valid threads.world
  secures : ∀ thread current, threads.running thread = some current →
    current.rest.Secures D thread (during current.job) (post current.job)
      current.history threads.world

variable {D} {during : J → List (Exchange Q A) → Prop}
  {post : J → R → Assertion Q A W} {threads next : Threads T J Q A R W}

theorem Secured.move
    (hprograms : ∀ thread job world, D.Valid world →
      (D.program job).Secures D thread (during job) (post job) [] world)
    (hstable : ∀ thread job value history world later,
      D.Rely thread world later → post job value history world →
        post job value history later)
    (hsecured : D.Secured during post threads) (hmove : D.Move threads next) :
    D.Secured during post next := by
  cases hmove with
  | begins thread job hfree =>
      refine ⟨hsecured.valid, ?_⟩
      intro other current hcurrent
      rcases eq_or_ne other thread with rfl | hne
      · rw [Threads.set_running_self, Option.some.injEq] at hcurrent
        subst hcurrent
        exact hprograms other job threads.world hsecured.valid
      · rw [Threads.set_running_of_ne threads _ _ hne] at hcurrent
        exact hsecured.secures other current hcurrent
  | @exchanges thread job history query rest answer after hthread heffect =>
      obtain ⟨-, hnext⟩ := hsecured.secures thread _ hthread
      obtain ⟨hmay, hrest⟩ := hnext threads.world answer after hsecured.valid
        (D.rely_refl thread threads.world) heffect
      refine ⟨D.valid_of_may hmay hsecured.valid, ?_⟩
      intro other current hcurrent
      rcases eq_or_ne other thread with rfl | hne
      · rw [Threads.set_running_self, Option.some.injEq] at hcurrent
        subst hcurrent
        exact hrest
      · rw [Threads.set_running_of_ne threads _ _ hne] at hcurrent
        exact (hsecured.secures other current hcurrent).later
          (hstable other current.job) (D.rely_of_may hne.symm hmay)

theorem Secured.reaches
    (hprograms : ∀ thread job world, D.Valid world →
      (D.program job).Secures D thread (during job) (post job) [] world)
    (hstable : ∀ thread job value history world later,
      D.Rely thread world later → post job value history world →
        post job value history later)
    (hsecured : D.Secured during post threads)
    (hreaches : D.Reaches threads next) : D.Secured during post next := by
  induction hreaches with
  | refl => exact hsecured
  | tail _ hmove ih => exact ih.move hprograms hstable hmove

end Discipline

end Interaction

import InventoryCloud.ProgramAssertions

/-!
# Programs with a state

A program which can fail and keeps a state of its own besides: an error does
not undo what was done to the state before it.
-/

namespace Interaction

universe u w x

/-- A program that works on a state of type `S` and ends with a value or
raises an error of type `E`. -/
abbrev Stateful (E S : Type w) (Q : Type u) (A : Q → Type w) :=
  ExceptT E (StateT S (Program Q A))

namespace Stateful

variable {E S : Type w} {Q : Type u} {A : Q → Type w} {α β : Type w}

def ask (query : Q) : Stateful E S Q A (A query) :=
  ExceptT.mk fun state => .ask query fun answer => .pure (.ok answer, state)

/-- A step without queries. -/
def step (outcome : Except E α) : Stateful E S Q A α :=
  ExceptT.mk fun state => .pure (outcome, state)

def current : Stateful E S Q A S :=
  ExceptT.mk fun state => .pure (.ok state, state)

def change (update : S → S) : Stateful E S Q A PUnit :=
  ExceptT.mk fun state => .pure (.ok ⟨⟩, update state)

def check (condition : Bool) (error : E) : Stateful E S Q A PUnit :=
  step (if condition then .ok ⟨⟩ else .error error)

/-- The body, whose outcome becomes a value. -/
def caught (body : Stateful E S Q A α) : Stateful E S Q A (Except E α) :=
  ExceptT.mk fun state =>
    body.run.run state >>= fun result => .pure (.ok result.1, result.2)

/-- The program from a state, with the state at its end. -/
def runFrom (program : Stateful E S Q A α) (state : S) :
    Program Q A (Except E α × S) :=
  program.run.run state

section

variable {W : Type x} {effect : Exchange Q A → W → W → Prop} {state : S}
  {history : List (Exchange Q A)} {world : W}

/-- From this state the program can only end where `post` holds. -/
def Establishes (effect : Exchange Q A → W → W → Prop)
    (post : Except E α → S → Assertion Q A W) (program : Stateful E S Q A α)
    (state : S) : Assertion Q A W :=
  (program.runFrom state).Establishes effect
    (fun result => post result.1 result.2)

/-- An assertion for each way to end. -/
def either (returned : α → S → Assertion Q A W)
    (raised : E → S → Assertion Q A W) :
    Except E α → S → Assertion Q A W
  | .ok value => returned value
  | .error error => raised error

theorem either_ok {returned : α → S → Assertion Q A W}
    {raised : E → S → Assertion Q A W} {value : α} :
    either returned raised (.ok value) = returned value :=
  rfl

theorem establishes_iff {program : Stateful E S Q A α}
    {post : Except E α → S → Assertion Q A W} :
    program.Establishes effect post state history world ↔
      ∀ trace outcome final after,
        (program.runFrom state).Runs trace (outcome, final) →
          Follows effect world trace after →
            post outcome final (history ++ trace) after := by
  unfold Establishes
  rw [Program.establishes_iff]
  constructor
  · intro hruns trace outcome final after hrun hfollows
    exact hruns trace (outcome, final) after hrun hfollows
  · intro hruns trace result after hrun hfollows
    exact hruns trace result.1 result.2 after hrun hfollows

theorem Establishes.mono {program : Stateful E S Q A α}
    {post weaker : Except E α → S → Assertion Q A W}
    (hprogram : program.Establishes effect post state history world)
    (hweaker : ∀ outcome state history world, post outcome state history world →
      weaker outcome state history world) :
    program.Establishes effect weaker state history world :=
  Program.Establishes.mono hprogram fun result history world =>
    hweaker result.1 result.2 history world

/-- The run in which one oracle answers every query. -/
theorem runs_of_oracle {program : Stateful E S Q A α}
    {oracle : (query : Q) → A query} {outcome : Except E α} {final : S}
    {expected : List (Exchange Q A)}
    (hprogram : program.Establishes
      (fun exchange (_ _ : Unit) => exchange.answer = oracle exchange.query)
      (fun result after trace _ => result = outcome ∧ after = final ∧
        trace = expected) state [] ()) :
    (program.runFrom state).Runs expected (outcome, final) := by
  have hrun := Program.runs_transcript oracle (program.runFrom state)
  have hanswers := @Program.transcript_answer Q A _ oracle
    (program.runFrom state)
  obtain ⟨houtcome, hfinal, htrace⟩ := establishes_iff.mp hprogram _ _ _ ()
    hrun (follows_of_forall fun exchange hmem => hanswers exchange hmem)
  rw [List.nil_append] at htrace
  rw [htrace] at hrun
  rw [← houtcome, ← hfinal]
  exact hrun

theorem establishes_step {outcome : Except E α}
    {post : Except E α → S → Assertion Q A W} :
    (step outcome : Stateful E S Q A α).Establishes effect post state =
      post outcome state :=
  rfl

theorem establishes_bind {program : Stateful E S Q A α}
    {next : α → Stateful E S Q A β}
    {post : Except E β → S → Assertion Q A W} :
    (program >>= next).Establishes effect post state =
      program.Establishes effect
        (either (fun value => (next value).Establishes effect post)
          (fun error => post (.error error))) state := by
  unfold Establishes runFrom
  rw [ExceptT.run_bind, StateT.run_bind, Program.establishes_bind]
  congr 1
  funext result
  obtain ⟨outcome, final⟩ := result
  cases outcome with
  | ok value => rfl
  | error error => rfl

/-- Sequencing: the rest starts wherever the first part returned. -/
theorem Establishes.bind {program : Stateful E S Q A α}
    {next : α → Stateful E S Q A β}
    {between : Except E α → S → Assertion Q A W}
    {post : Except E β → S → Assertion Q A W}
    (hprogram : program.Establishes effect between state history world)
    (hnext : ∀ value state history world,
      between (.ok value) state history world →
        (next value).Establishes effect post state history world)
    (hraised : ∀ error state history world,
      between (.error error) state history world →
        post (.error error) state history world) :
    (program >>= next).Establishes effect post state history world := by
  rw [establishes_bind]
  apply hprogram.mono
  intro outcome state history world hbetween
  cases outcome with
  | ok value => exact hnext value state history world hbetween
  | error error => exact hraised error state history world hbetween

theorem establishes_current_bind {next : S → Stateful E S Q A β}
    {post : Except E β → S → Assertion Q A W} :
    (current >>= next).Establishes effect post state =
      (next state).Establishes effect post state :=
  establishes_bind

theorem establishes_change_bind {update : S → S}
    {next : PUnit → Stateful E S Q A β}
    {post : Except E β → S → Assertion Q A W} :
    (change update >>= next).Establishes effect post state =
      (next ⟨⟩).Establishes effect post (update state) :=
  establishes_bind

theorem establishes_step_bind {outcome : Except E α}
    {next : α → Stateful E S Q A β}
    {post : Except E β → S → Assertion Q A W} :
    (step outcome >>= next).Establishes effect post state =
      either (fun value => (next value).Establishes effect post)
        (fun error => post (.error error)) outcome state :=
  establishes_bind

/-- A step that raises ends the program. -/
theorem Establishes.step_bind {outcome : Except E α}
    {next : α → Stateful E S Q A β}
    {post : Except E β → S → Assertion Q A W}
    (hraised : ∀ error, post (.error error) state history world)
    (hnext : ∀ value, outcome = .ok value →
      (next value).Establishes effect post state history world) :
    (step outcome >>= next).Establishes effect post state history world := by
  rw [establishes_step_bind]
  cases outcome with
  | error error => exact hraised error
  | ok value => exact hnext value rfl

theorem establishes_check_bind {condition : Bool} {error : E}
    {next : PUnit → Stateful E S Q A β}
    {post : Except E β → S → Assertion Q A W} :
    (check condition error >>= next).Establishes effect post state history
        world ↔
      (condition = true → (next ⟨⟩).Establishes effect post state history
        world) ∧
      (condition = false → post (.error error) state history world) := by
  rw [check, establishes_step_bind]
  cases condition with
  | true => exact ⟨fun hpost => ⟨fun _ => hpost, nofun⟩, fun hpost =>
      hpost.1 rfl⟩
  | false => exact ⟨fun hpost => ⟨nofun, fun _ => hpost⟩, fun hpost =>
      hpost.2 rfl⟩

theorem establishes_ask_bind {query : Q}
    {next : A query → Stateful E S Q A β}
    {post : Except E β → S → Assertion Q A W} :
    (ask query >>= next).Establishes effect post state history world ↔
      ∀ answer after, effect ⟨query, answer⟩ world after →
        (next answer).Establishes effect post state
          (history ++ [⟨query, answer⟩]) after := by
  rw [establishes_bind]
  exact Iff.rfl

theorem establishes_caught {body : Stateful E S Q A α}
    {post : Except E (Except E α) → S → Assertion Q A W} :
    body.caught.Establishes effect post state =
      body.Establishes effect (fun outcome => post (.ok outcome)) state :=
  Program.establishes_bind

end

end Stateful

end Interaction

import InventoryCloud.RecoveryDrill

/-!
# What the commands of the drill ask

One rule for each command of the fixture: which exchanges it adds, in which
state of the fixture, and how it can end.
-/

namespace InventoryCloud

namespace RecoveryDrill

open Interaction JsonValue Python

universe x

variable {W : Type x} {effect : Exchange Request Response → W → W → Prop}
  {python : Library RuntimeError} {fixture : Fixture} {history : Trace}
  {world : W}

theorem checkedOutput_ok {arguments : List String} {outcome : DockerOutcome}
    {stdout : List UInt8} :
    checkedOutput arguments outcome = .ok stdout ↔
      ∃ stderr, outcome = .exited 0 stdout stderr := by
  cases outcome with
  | exited returncode found stderr =>
      unfold checkedOutput
      by_cases hzero : returncode = 0
      · simp [hzero]
      · simp [hzero]
  | _ => simp [checkedOutput]

theorem establishes_docker {arguments : List String} {environment : Variables}
    {timeout : Nat}
    {post : Except Failure (List UInt8) → Fixture →
      Assertion Request Response W} :
    (docker arguments environment timeout).Establishes effect post fixture
        history world ↔
      ∀ outcome after,
        effect ⟨.docker arguments environment timeout, outcome⟩ world after →
          post (checkedOutput arguments outcome) fixture
            (history ++ [⟨.docker arguments environment timeout, outcome⟩])
            after := by
  unfold docker
  rw [Stateful.establishes_ask_bind]
  exact Iff.rfl

/-- A command that fails ends the program. -/
theorem establishes_docker_bind {α : Type} {arguments : List String}
    {environment : Variables} {timeout : Nat} {next : List UInt8 → Drill α}
    {post : Except Failure α → Fixture → Assertion Request Response W}
    (hnext : ∀ outcome after,
      effect ⟨.docker arguments environment timeout, outcome⟩ world after →
      (∀ error, post (.error error) fixture
        (history ++ [⟨.docker arguments environment timeout, outcome⟩])
        after) ∧
      ∀ stdout, checkedOutput arguments outcome = .ok stdout →
        (next stdout).Establishes effect post fixture
          (history ++ [⟨.docker arguments environment timeout, outcome⟩])
          after) :
    (docker arguments environment timeout >>= next).Establishes effect post
      fixture history world := by
  rw [Stateful.establishes_bind, establishes_docker]
  intro outcome after heffect
  obtain ⟨hraised, hreturned⟩ := hnext outcome after heffect
  cases houtcome : checkedOutput arguments outcome with
  | error error => exact hraised error
  | ok stdout => exact hreturned stdout houtcome

/-- What `owned` makes of an answer of `inspect`. -/
def ownedAnswer (python : Library RuntimeError) (runId : String)
    (kind : Kind) (name : String) (outcome : DockerOutcome) :
    Except Failure JsonValue :=
  checkedOutput [kind.word, "inspect", name] outcome >>=
    ownedItem python runId kind name

theorem establishes_owned {kind : Kind} {name : String}
    {post : Except Failure JsonValue → Fixture →
      Assertion Request Response W}
    (hrefused : ∀ error, post (.error error) fixture history world)
    (hasked : fixture.tracks kind name = true → ∀ outcome after,
      effect ⟨.docker [kind.word, "inspect", name] [] 90, outcome⟩ world
          after →
        post (ownedAnswer python fixture.runId kind name outcome) fixture
          (history ++ [⟨.docker [kind.word, "inspect", name] [] 90, outcome⟩])
          after) :
    (owned python kind name).Establishes effect post fixture history
      world := by
  unfold owned RecoveryDrill.fixture require
  rw [Stateful.establishes_current_bind, Stateful.establishes_check_bind]
  refine ⟨fun _ => ?_, fun _ => hrefused _⟩
  rw [Stateful.establishes_check_bind]
  refine ⟨fun htracks => ?_, fun _ => hrefused _⟩
  rw [Stateful.establishes_bind, establishes_docker]
  intro outcome after heffect
  have hpost := hasked htracks outcome after heffect
  unfold ownedAnswer at hpost
  cases houtcome : checkedOutput [kind.word, "inspect", name] outcome with
  | error error =>
      rw [houtcome] at hpost
      exact hpost
  | ok stdout =>
      rw [houtcome] at hpost
      exact hpost

theorem establishes_owned_bind {α : Type} {kind : Kind} {name : String}
    {next : JsonValue → Drill α}
    {post : Except Failure α → Fixture → Assertion Request Response W}
    (hrefused : ∀ error, post (.error error) fixture history world)
    (hasked : fixture.tracks kind name = true → ∀ outcome after,
      effect ⟨.docker [kind.word, "inspect", name] [] 90, outcome⟩ world
          after →
      (∀ error, post (.error error) fixture
        (history ++ [⟨.docker [kind.word, "inspect", name] [] 90, outcome⟩])
        after) ∧
      ∀ item, ownedAnswer python fixture.runId kind name outcome = .ok item →
        (next item).Establishes effect post fixture
          (history ++ [⟨.docker [kind.word, "inspect", name] [] 90, outcome⟩])
          after) :
    (owned python kind name >>= next).Establishes effect post fixture history
      world := by
  rw [Stateful.establishes_bind]
  apply establishes_owned hrefused
  intro htracks outcome after heffect
  obtain ⟨hraised, hreturned⟩ := hasked htracks outcome after heffect
  cases hanswer : ownedAnswer python fixture.runId kind name outcome with
  | error error => exact hraised error
  | ok item => exact hreturned item hanswer

/-- The arguments of `docker run`. -/
def Fixture.runArguments (fixture : Fixture) (name : String)
    (arguments : List String) (image : String) : List String :=
  ["run", "--detach", "--name", name] ++ fixture.labels ++
    ["--network", fixture.network] ++ arguments ++ [image]

/-- The fixture once it tracks a container. -/
def Fixture.tracking (fixture : Fixture) (name : String) : Fixture :=
  { fixture with containers := fixture.containers ++ [name] }

theorem establishes_runContainer {role image : String}
    {arguments : List String} {environment : Variables}
    {post : Except Failure String → Fixture → Assertion Request Response W}
    (hrefused : ∀ error, post (.error error) fixture history world)
    (hrun : ∀ outcome after,
      effect ⟨.docker (fixture.runArguments (fixture.namePrefix ++ "-" ++ role)
        arguments image) environment 90, outcome⟩ world after →
      (owned python .container (fixture.namePrefix ++ "-" ++ role)).Establishes
        effect
        (Stateful.either
          (fun _ => post (.ok (fixture.namePrefix ++ "-" ++ role)))
          (fun error => post (.error error)))
        (fixture.tracking (fixture.namePrefix ++ "-" ++ role))
        (history ++ [⟨.docker (fixture.runArguments
          (fixture.namePrefix ++ "-" ++ role) arguments image) environment 90,
          outcome⟩]) after ∧
      ∀ error, post (.error error)
        (fixture.tracking (fixture.namePrefix ++ "-" ++ role))
        (history ++ [⟨.docker (fixture.runArguments
          (fixture.namePrefix ++ "-" ++ role) arguments image) environment 90,
          outcome⟩]) after) :
    (runContainer python role image arguments environment).Establishes effect
      post fixture history world := by
  unfold runContainer RecoveryDrill.fixture require
  rw [Stateful.establishes_current_bind, Stateful.establishes_check_bind]
  refine ⟨fun _ => ?_, fun _ => hrefused _⟩
  rw [Stateful.establishes_change_bind]
  apply establishes_docker_bind
  intro outcome after heffect
  obtain ⟨howned, hraised⟩ := hrun outcome after heffect
  refine ⟨hraised, fun stdout _ => ?_⟩
  rw [Stateful.establishes_bind]
  exact howned

theorem ownedAnswer_ok {kind : Kind} {runId name : String}
    {outcome : DockerOutcome} {found : JsonValue} :
    ownedAnswer python runId kind name outcome = .ok found ↔
      ∃ stdout stderr, outcome = .exited 0 stdout stderr ∧
        ownedItem python runId kind name stdout = .ok found := by
  unfold ownedAnswer
  rw [bind_ok]
  constructor
  · rintro ⟨stdout, hstdout, hitem⟩
    obtain ⟨stderr, rfl⟩ := checkedOutput_ok.mp hstdout
    exact ⟨stdout, stderr, rfl, hitem⟩
  · rintro ⟨stdout, stderr, rfl, hitem⟩
    exact ⟨stdout, checkedOutput_ok.mpr ⟨stderr, rfl⟩, hitem⟩

theorem ownedItem_ok {kind : Kind} {runId name : String}
    {stdout : List UInt8} {found : JsonValue} :
    ownedItem python runId kind name stdout = .ok found ↔
      ∃ inspected labels, python.loadsBytes stdout = .ok inspected ∧
        (item 0 inspected : Except Failure JsonValue) = .ok found ∧
        labelsOf kind found = .ok labels ∧
        labels.member ownerLabel = some (.string runId) ∧
        labels.member purposeLabel = some (.string purpose) := by
  unfold ownedItem
  simp only [bind_ok]
  constructor
  · rintro ⟨inspected, hinspected, other, hother, labels, hlabels, owner,
      howner, stated, hstated, hfound⟩
    split at hfound
    · rename_i hlabelled
      obtain ⟨rfl, rfl⟩ := hlabelled
      obtain rfl : other = found := pure_ok.mp hfound
      exact ⟨inspected, labels, hinspected, hother, hlabels,
        getOr_string.mp howner, getOr_string.mp hstated⟩
    · cases hfound
  · rintro ⟨inspected, labels, hinspected, hitem, hlabels, howner, hstated⟩
    refine ⟨inspected, hinspected, found, hitem, labels, hlabels, _,
      getOr_string.mpr howner, _, getOr_string.mpr hstated, ?_⟩
    rw [if_pos ⟨rfl, rfl⟩]
    rfl

/-! ### What is created -/

/-- The name and the environment of a container which an exchange runs. -/
def launch (exchange : Exchange Request Response) :
    Option (String × Variables) :=
  match exchange.query with
  | .docker ("run" :: "--detach" :: "--name" :: name :: _) environment _ =>
      some (name, environment)
  | _ => none

/-- The commands which make a container or a network. -/
def isCreation : Request → Bool
  | .docker ("run" :: _) _ _ => true
  | .docker ("network" :: "create" :: _) _ _ => true
  | _ => false

theorem launch_of_not_creation {exchange : Exchange Request Response}
    (hquiet : isCreation exchange.query = false) : launch exchange = none := by
  unfold launch
  split
  · rename_i hquery
    rw [hquery] at hquiet
    cases hquiet
  · rfl

/-- An assertion which exchanges that create nothing keep. -/
def Persists (assertion : Fixture → Trace → Prop) : Prop :=
  ∀ fixture history exchange, isCreation exchange.query = false →
    assertion fixture history → assertion fixture (history ++ [exchange])

/-! ### Commands which create nothing -/

/-- Every answer is possible. -/
def anything (_ : Exchange Request Response) (_ _ : Unit) : Prop :=
  True

theorem follows_anything (trace : Trace) : Follows anything () trace () :=
  follows_of_forall fun _ _ => trivial

/-- However the program ends, the assertion holds again. -/
def Keeps {α : Type} (assertion : Fixture → Trace → Prop) (program : Drill α)
    (fixture : Fixture) (history : Trace) : Prop :=
  program.Establishes anything
    (fun _ fixture history _ => assertion fixture history) fixture history ()

variable {assertion : Fixture → Trace → Prop}

theorem Keeps.bind {α β : Type} {program : Drill α} {next : α → Drill β}
    (hprogram : Keeps assertion program fixture history)
    (hnext : ∀ value fixture history, assertion fixture history →
      Keeps assertion (next value) fixture history) :
    Keeps assertion (program >>= next) fixture history := by
  apply Stateful.Establishes.bind hprogram
  · intro value fixture history _ hholds
    exact hnext value fixture history hholds
  · intro error fixture history _ hholds
    exact hholds

theorem keeps_step {α : Type} {outcome : Except Failure α}
    (hholds : assertion fixture history) :
    Keeps assertion (Stateful.step outcome) fixture history :=
  hholds

theorem keeps_ask {query : Request} (hpersists : Persists assertion)
    (hquiet : isCreation query = false)
    (hholds : assertion fixture history) :
    Keeps assertion (Stateful.ask query) fixture history := by
  intro answer _ _
  exact hpersists _ _ _ hquiet hholds

theorem keeps_docker {arguments : List String} {environment : Variables}
    {timeout : Nat} (hpersists : Persists assertion)
    (hquiet : isCreation (.docker arguments environment timeout) = false)
    (hholds : assertion fixture history) :
    Keeps assertion (docker arguments environment timeout) fixture
      history := by
  unfold Keeps
  rw [establishes_docker]
  intro outcome _ _
  exact hpersists _ _ _ hquiet hholds

theorem keeps_owned {kind : Kind} {name : String}
    (hpersists : Persists assertion) (hholds : assertion fixture history) :
    Keeps assertion (owned python kind name) fixture history := by
  apply establishes_owned
  · intro error
    exact hholds
  · intro _ outcome _ _
    apply hpersists _ _ _ _ hholds
    cases kind <;> rfl

/-- A container is run at most once, and inspected afterwards. -/
theorem runContainer_persists {role image : String} {arguments : List String}
    {environment : Variables} {running : Exchange Request Response →
      Fixture → Trace → Prop}
    (hpersists : ∀ exchange, Persists (running exchange))
    (hholds : assertion fixture history)
    (hrun : ∀ exchange, launch exchange =
      some (fixture.namePrefix ++ "-" ++ role, environment) →
        running exchange (fixture.tracking
          (fixture.namePrefix ++ "-" ++ role)) (history ++ [exchange])) :
    (runContainer python role image arguments environment).Establishes anything
      (Stateful.either
        (fun name final trace _ => name = fixture.namePrefix ++ "-" ++ role ∧
          ∃ exchange, running exchange final trace)
        (fun _ final trace _ => assertion final trace ∨
          ∃ exchange, running exchange final trace)) fixture history () := by
  apply establishes_runContainer
  · intro error
    exact Or.inl hholds
  · intro outcome _ _
    have hrunning := hrun _ (rfl : launch ⟨.docker (fixture.runArguments
      (fixture.namePrefix ++ "-" ++ role) arguments image) environment 90,
      outcome⟩ = _)
    constructor
    · apply (keeps_owned (hpersists _) hrunning).mono
      intro answer final trace _ hfinal
      cases answer with
      | ok item => exact ⟨rfl, _, hfinal⟩
      | error error => exact Or.inr ⟨_, hfinal⟩
    · intro error
      exact Or.inr ⟨_, hrunning⟩

theorem keeps_pollDatabase {name : String} (rounds : Nat)
    (hpersists : Persists assertion) (hholds : assertion fixture history) :
    Keeps assertion (pollDatabase name rounds) fixture history := by
  induction rounds generalizing fixture history with
  | zero => exact hholds
  | succ rounds ih =>
      unfold pollDatabase
      apply (keeps_ask hpersists rfl hholds).bind
      intro outcome fixture history hholds
      apply (keeps_step hholds).bind
      intro returncode fixture history hholds
      split
      · exact hholds
      · exact ih hholds

theorem keeps_waitDatabase {name : String} (hpersists : Persists assertion)
    (hholds : assertion fixture history) :
    Keeps assertion (waitDatabase python name) fixture history := by
  unfold waitDatabase
  apply (keeps_owned hpersists hholds).bind
  intro item fixture history hholds
  apply (keeps_ask hpersists rfl hholds).bind
  intro rounds fixture history hholds
  exact keeps_pollDatabase rounds hpersists hholds

theorem keeps_stopContainer {name : String} (hpersists : Persists assertion)
    (hholds : assertion fixture history) :
    Keeps assertion (stopContainer python name) fixture history := by
  unfold stopContainer
  apply (keeps_owned hpersists hholds).bind
  intro item fixture history hholds
  apply (keeps_docker hpersists rfl hholds).bind
  intro stdout fixture history hholds
  apply (keeps_owned hpersists hholds).bind
  intro item fixture history hholds
  apply (keeps_step hholds).bind
  intro state fixture history hholds
  apply (keeps_step hholds).bind
  intro status fixture history hholds
  exact hholds

/-- What `start_app` does once the runtime runs. -/
def openApi (python : Library RuntimeError) (passwords : Passwords)
    (name : String) : Drill (String × Api) := do
  let item ← owned python .container name
  let binding ← Stateful.step (apiBinding item)
  let hostIp ← Stateful.step (subscript "HostIp" binding)
  require (decide (hostIp = .string "127.0.0.1"))
    "Disposable API must bind only to loopback"
  let hostPort ← Stateful.step (subscript "HostPort" binding)
  let port ← Stateful.step (intOf hostPort)
  let healthy ← Stateful.ask (.waitHealth port)
  Stateful.step healthy
  pure (name, ⟨port, passwords⟩)

theorem keeps_openApi {passwords : Passwords} {name : String}
    (hpersists : Persists assertion) (hholds : assertion fixture history) :
    Keeps assertion (openApi python passwords name) fixture history := by
  unfold openApi
  apply (keeps_owned hpersists hholds).bind
  intro item fixture history hholds
  apply (keeps_step hholds).bind
  intro binding fixture history hholds
  apply (keeps_step hholds).bind
  intro hostIp fixture history hholds
  apply (keeps_step hholds).bind
  intro _ fixture history hholds
  apply (keeps_step hholds).bind
  intro hostPort fixture history hholds
  apply (keeps_step hholds).bind
  intro port fixture history hholds
  apply (keeps_ask hpersists rfl hholds).bind
  intro healthy fixture history hholds
  apply (keeps_step hholds).bind
  intro _ fixture history hholds
  exact hholds

end RecoveryDrill

end InventoryCloud

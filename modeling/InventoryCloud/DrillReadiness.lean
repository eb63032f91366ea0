import InventoryCloud.DrillCommands

/-!
# When the drill may start a runtime

A database counts as prepared only while its last migration is one that was
seen to have succeeded, whichever Docker commands failed before, between or
after, and the runtime password kept for it is the one that migration was
given.
-/

namespace InventoryCloud

namespace RecoveryDrill

open Interaction JsonValue Python

/-! ### Migrations in the history -/

/-- The exchange runs the application in a profile against a database. -/
structure Launches (profile database name : String) (environment : Variables)
    (exchange : Exchange Request Response) : Prop where
  launched : launch exchange = some (name, environment)
  profile : environment.lookup "SPRING_PROFILES_ACTIVE" = some profile
  url : environment.lookup "DB_URL" = some (databaseUrl database)

def Migrates (database : String) (exchange : Exchange Request Response) :
    Prop :=
  ∃ name environment, Launches "migrate" database name environment exchange

/-- `docker container wait` answered that the job exited with zero. -/
def WaitedZero (name : String) (exchange : Exchange Request Response) :
    Prop :=
  ∃ environment timeout stdout stderr,
    exchange = ⟨.docker ["container", "wait", name] environment timeout,
      .exited 0 stdout stderr⟩ ∧
    exitCode stdout = .ok 0

/-- `docker container inspect` showed the job exited with zero. -/
def InspectedZero (python : Library RuntimeError) (name : String)
    (exchange : Exchange Request Response) : Prop :=
  ∃ environment timeout stdout stderr inspected item state exited,
    exchange = ⟨.docker ["container", "inspect", name] environment timeout,
      .exited 0 stdout stderr⟩ ∧
    python.loadsBytes stdout = .ok inspected ∧
    (Python.item 0 inspected : Except Failure JsonValue) = .ok item ∧
    item.member "State" = some state ∧
    state.member "Status" = some (.string "exited") ∧
    state.member "ExitCode" = some exited ∧ isZero exited = true

/-- The last migration run for the database. -/
structure LastMigration (database password name : String)
    (before : Trace) (migration : Exchange Request Response)
    (after history : Trace) : Prop where
  split : history = before ++ migration :: after
  launched : ∃ environment,
    Launches "migrate" database name environment migration ∧
      environment.lookup "DB_APP_PASSWORD" = some password
  last : ∀ exchange ∈ after, ¬ Migrates database exchange

/-- The last migration of the database was given this password, and it was
seen to have succeeded both by waiting for it and by inspecting it. -/
def Confirmed (python : Library RuntimeError) (history : Trace)
    (database password : String) : Prop :=
  ∃ name before migration between wait inspection after,
    LastMigration database password name before migration
      (between ++ wait :: inspection :: after) history ∧
    WaitedZero name wait ∧ InspectedZero python name inspection

theorem LastMigration.snoc {database password name : String}
    {before after history : Trace} {migration exchange :
      Exchange Request Response}
    (hlast : LastMigration database password name before migration after
      history) (hother : ¬ Migrates database exchange) :
    LastMigration database password name before migration
      (after ++ [exchange]) (history ++ [exchange]) where
  split := by
    rw [hlast.split, List.append_assoc, List.cons_append]
  launched := hlast.launched
  last := by
    intro other hmem
    rcases List.mem_append.mp hmem with hmem | hmem
    · exact hlast.last other hmem
    · rw [List.mem_singleton.mp hmem]
      exact hother

theorem Confirmed.snoc {python : Library RuntimeError} {history : Trace}
    {database password : String} {exchange : Exchange Request Response}
    (hconfirmed : Confirmed python history database password)
    (hother : ¬ Migrates database exchange) :
    Confirmed python (history ++ [exchange]) database password := by
  obtain ⟨name, before, migration, between, wait, inspection, after, hlast,
    hwaited, hinspected⟩ := hconfirmed
  refine ⟨name, before, migration, between, wait, inspection,
    after ++ [exchange], ?_, hwaited, hinspected⟩
  have hnext := hlast.snoc hother
  rwa [List.append_assoc, List.cons_append, List.cons_append] at hnext

theorem databaseUrl_injective : Function.Injective databaseUrl := by
  intro first second hsame
  have htexts := congrArg String.toList hsame
  unfold databaseUrl at htexts
  simp only [String.toList_append, List.append_cancel_right_eq,
    List.append_cancel_left_eq] at htexts
  exact String.toList_inj.mp htexts

/-- A container run against one database is not run against another. -/
theorem Launches.database_eq {profile other database second name :
      String} {environment environment' : Variables} {name' : String}
    {exchange : Exchange Request Response}
    (hfirst : Launches profile database name environment exchange)
    (hsecond : Launches other second name' environment' exchange) :
    database = second ∧ profile = other := by
  have hsame := hfirst.launched.symm.trans hsecond.launched
  rw [Option.some.injEq, Prod.mk.injEq] at hsame
  obtain ⟨-, rfl⟩ := hsame
  have hurl := hfirst.url.symm.trans hsecond.url
  have hprofile := hfirst.profile.symm.trans hsecond.profile
  rw [Option.some.injEq] at hurl hprofile
  exact ⟨databaseUrl_injective hurl, hprofile⟩

/-! ### The invariant -/

/-- A runtime is started for a confirmed database, with its password. -/
def StartsConfirmed (python : Library RuntimeError) (before : Trace)
    (exchange : Exchange Request Response) : Prop :=
  ∀ database name environment,
    Launches "local" database name environment exchange →
      ∃ password, environment.lookup "DB_PASSWORD" = some password ∧
        Confirmed python before database password

structure Ready (python : Library RuntimeError) (fixture : Fixture)
    (history : Trace) : Prop where
  confirmed : ∀ database ∈ fixture.preparedDatabases, ∃ password,
    fixture.runtimePasswords database = some password ∧
      Confirmed python history database password
  lawful : Lawful (StartsConfirmed python) history

section

variable {python : Library RuntimeError} {fixture : Fixture} {history : Trace}
  {exchange : Exchange Request Response}

theorem Launches.ne_none {profile database name : String}
    {environment : Variables}
    (hlaunches : Launches profile database name environment exchange) :
    launch exchange ≠ none := by
  rw [hlaunches.launched]
  nofun

theorem Ready.snoc (hready : Ready python fixture history)
    (hother : ∀ database ∈ fixture.preparedDatabases,
      ¬ Migrates database exchange)
    (hstarts : StartsConfirmed python history exchange) :
    Ready python fixture (history ++ [exchange]) where
  confirmed := by
    intro database hprepared
    obtain ⟨password, hpassword, hconfirmed⟩ :=
      hready.confirmed database hprepared
    exact ⟨password, hpassword, hconfirmed.snoc (hother database hprepared)⟩
  lawful := lawful_snoc.mpr ⟨hready.lawful, hstarts⟩

/-- Only the prepared databases and their passwords matter. -/
theorem Ready.congr {other : Fixture} (hready : Ready python fixture history)
    (hprepared : other.preparedDatabases ⊆ fixture.preparedDatabases)
    (hpasswords : other.runtimePasswords = fixture.runtimePasswords) :
    Ready python other history where
  confirmed := by
    intro database hmem
    rw [hpasswords]
    exact hready.confirmed database (hprepared hmem)
  lawful := hready.lawful

/-- An exchange that runs no container. -/
theorem Ready.quiet (hready : Ready python fixture history)
    (hquiet : launch exchange = none) :
    Ready python fixture (history ++ [exchange]) := by
  apply hready.snoc
  · rintro database - ⟨name, environment, hlaunches⟩
    exact hlaunches.ne_none hquiet
  · intro database name environment hlaunches
    exact absurd hquiet hlaunches.ne_none

theorem ready_persists : Persists (Ready python) := by
  intro fixture history exchange hquiet hready
  exact hready.quiet (launch_of_not_creation hquiet)

/-- The database is withdrawn while it is migrated. -/
structure Withdrawn (python : Library RuntimeError) (database : String)
    (fixture : Fixture) (history : Trace) : Prop where
  ready : Ready python fixture history
  unprepared : database ∉ fixture.preparedDatabases

theorem withdrawn_persists {database : String} :
    Persists (Withdrawn python database) := by
  intro fixture history exchange hquiet hwithdrawn
  exact ⟨ready_persists _ _ _ hquiet hwithdrawn.ready, hwithdrawn.unprepared⟩

/-- The migration of the database has been run, with an outcome not known
yet. -/
structure Migrating (python : Library RuntimeError)
    (database password name : String) (before : Trace)
    (migration : Exchange Request Response) (fixture : Fixture)
    (history : Trace) : Prop extends
    Withdrawn python database fixture history where
  run : ∃ after,
    LastMigration database password name before migration after history

theorem migrating_persists {database password name : String} {before : Trace}
    {migration : Exchange Request Response} :
    Persists (Migrating python database password name before migration) := by
  intro fixture history exchange hquiet hmigrating
  refine ⟨withdrawn_persists _ _ _ hquiet hmigrating.toWithdrawn, ?_⟩
  obtain ⟨after, hlast⟩ := hmigrating.run
  refine ⟨after ++ [exchange], hlast.snoc ?_⟩
  rintro ⟨other, environment, hlaunches⟩
  exact hlaunches.ne_none (launch_of_not_creation hquiet)

/-- Running the migration of a withdrawn database. -/
theorem Withdrawn.migrating {database password name : String}
    {environment : Variables} {tracking : Fixture}
    (hwithdrawn : Withdrawn python database fixture history)
    (hlaunches : Launches "migrate" database name environment exchange)
    (hpassword : environment.lookup "DB_APP_PASSWORD" = some password)
    (hprepared : tracking.preparedDatabases = fixture.preparedDatabases)
    (hpasswords : tracking.runtimePasswords = fixture.runtimePasswords) :
    Migrating python database password name history exchange tracking
      (history ++ [exchange]) where
  ready := by
    have hready := hwithdrawn.ready.congr hprepared.subset hpasswords
    apply hready.snoc
    · rintro other hother ⟨_, _, hsame⟩
      obtain ⟨rfl, -⟩ := hlaunches.database_eq hsame
      rw [hprepared] at hother
      exact hwithdrawn.unprepared hother
    · intro other _ _ hsame
      obtain ⟨-, hprofile⟩ := hlaunches.database_eq hsame
      exact absurd hprofile (by decide)
  unprepared := by
    rw [hprepared]
    exact hwithdrawn.unprepared
  run := ⟨[], rfl, ⟨environment, hlaunches, hpassword⟩, by simp⟩

/-! ### Each operation -/

theorem ready_createNetwork (hready : Ready python fixture history) :
    Keeps (Ready python) createNetwork fixture history := by
  have hattempted : Ready python { fixture with networkCreated := true }
      history := hready.congr (Finset.Subset.refl _) rfl
  unfold Keeps createNetwork RecoveryDrill.fixture
  rw [Stateful.establishes_change_bind, Stateful.establishes_current_bind]
  apply establishes_docker_bind
  intro outcome _ _
  exact ⟨fun _ => hattempted.quiet rfl, fun _ _ => hattempted.quiet rfl⟩

theorem ready_runContainer {role image : String} {arguments : List String}
    {environment : Variables} (hready : Ready python fixture history)
    (hlaunched : ∀ exchange, launch exchange =
      some (fixture.namePrefix ++ "-" ++ role, environment) →
        Ready python fixture (history ++ [exchange])) :
    Keeps (Ready python) (runContainer python role image arguments environment)
      fixture history := by
  apply (runContainer_persists (fun _ => ready_persists) hready
    (fun exchange hlaunch => (hlaunched exchange hlaunch).congr
      (Finset.Subset.refl _) rfl)).mono
  intro outcome final trace _ hfinal
  cases outcome with
  | ok name => exact hfinal.2.choose_spec
  | error error =>
      rcases hfinal with hfinal | ⟨_, hfinal⟩
      · exact hfinal
      · exact hfinal

/-- A container run without a profile is neither a migration nor a
runtime. -/
theorem Ready.launched {name : String} {environment : Variables}
    (hready : Ready python fixture history)
    (hprofile : environment.lookup "SPRING_PROFILES_ACTIVE" = none)
    (hlaunch : launch exchange = some (name, environment)) :
    Ready python fixture (history ++ [exchange]) := by
  have hother : ∀ {profile database other found},
      ¬ Launches profile database other found exchange := by
    intro profile database other found hlaunches
    have hsame := hlaunch.symm.trans hlaunches.launched
    rw [Option.some.injEq, Prod.mk.injEq] at hsame
    have hfound := hlaunches.profile
    rw [← hsame.2, hprofile] at hfound
    cases hfound
  apply hready.snoc
  · rintro database - ⟨_, _, hlaunches⟩
    exact hother hlaunches
  · intro database _ _ hlaunches
    exact absurd hlaunches hother

theorem ready_startDatabase {role : String}
    (hready : Ready python fixture history) :
    Keeps (Ready python) (startDatabase python role) fixture history := by
  unfold Keeps startDatabase RecoveryDrill.fixture
  rw [Stateful.establishes_current_bind]
  apply (ready_runContainer hready fun _ => hready.launched rfl).bind
  intro name fixture history hready
  apply (keeps_waitDatabase ready_persists hready).bind
  intro _ fixture history hready
  exact hready

/-- The environment `start_app` gives to a runtime. -/
def runtimeEnvironment (fixture : Fixture) (database password : String) :
    Variables :=
  [("SPRING_PROFILES_ACTIVE", "local"), ("DB_URL", databaseUrl database),
    ("DB_USERNAME", "inventory_app"), ("DB_PASSWORD", password),
    ("APP_AUTH_ADMIN_PASSWORD", fixture.passwords.admin),
    ("APP_AUTH_CUSTOMER_PASSWORD", fixture.passwords.customer),
    ("SPRING_FLYWAY_ENABLED", "false")]

theorem launches_runtime {other : Fixture} {database password name : String}
    (hlaunch : launch exchange =
      some (name, runtimeEnvironment other database password)) :
    Launches "local" database name (runtimeEnvironment other database password)
      exchange :=
  ⟨hlaunch, rfl, rfl⟩

/-- Running the runtime of a confirmed database. -/
theorem Ready.started {other : Fixture} {database password name : String}
    (hready : Ready python fixture history)
    (hconfirmed : Confirmed python history database password)
    (hlaunch : launch exchange =
      some (name, runtimeEnvironment other database password)) :
    Ready python fixture (history ++ [exchange]) := by
  have hlaunches := launches_runtime hlaunch
  apply hready.snoc
  · rintro second - ⟨_, _, hsecond⟩
    obtain ⟨-, hprofile⟩ := hlaunches.database_eq hsecond
    exact absurd hprofile (by decide)
  · intro second _ environment hsecond
    obtain ⟨rfl, -⟩ := hlaunches.database_eq hsecond
    have hsame := hlaunch.symm.trans hsecond.launched
    rw [Option.some.injEq, Prod.mk.injEq] at hsame
    refine ⟨password, ?_, hconfirmed⟩
    rw [← hsame.2]
    rfl

/-- A runtime is run only for a prepared database, with its password. -/
theorem ready_startApp {role database : String}
    (hready : Ready python fixture history) :
    Keeps (Ready python) (startApp python role database) fixture history := by
  unfold startApp
  apply (keeps_owned ready_persists hready).bind
  intro item fixture history hready
  unfold Keeps RecoveryDrill.fixture require
  rw [Stateful.establishes_current_bind, Stateful.establishes_check_bind]
  refine ⟨fun hprepared => ?_, fun _ => hready⟩
  obtain ⟨password, hpassword, hconfirmed⟩ :=
    hready.confirmed database (of_decide_eq_true hprepared)
  rw [hpassword, Stateful.establishes_step_bind, Stateful.either_ok]
  have hrun := @ready_runContainer python fixture history role fixture.image
    (["--publish", "127.0.0.1::8080", "--read-only", "--tmpfs",
      "/tmp:rw,size=128m,mode=1777", "--cap-drop", "ALL", "--security-opt",
      "no-new-privileges:true", "--memory", "768m", "--cpus", "1"] ++
      envArguments (runtimeEnvironment fixture database password))
    (runtimeEnvironment fixture database password) hready
    fun _ => hready.started hconfirmed
  apply hrun.bind
  intro name fixture history hready
  exact keeps_openApi ready_persists hready

/-! ### Migrations -/

theorem migrationSucceeded_ok {code : Int} {state : JsonValue} :
    migrationSucceeded code state = .ok true ↔
      code = 0 ∧ state.member "Status" = some (.string "exited") ∧
        ∃ exited, state.member "ExitCode" = some exited ∧
          isZero exited = true := by
  unfold migrationSucceeded
  by_cases hcode : code = 0
  · rw [if_neg (not_not.mpr hcode), bind_ok]
    constructor
    · rintro ⟨status, hstatus, hexited⟩
      split at hexited
      · cases hexited
      · rename_i hvalue
        rw [not_not] at hvalue
        subst hvalue
        obtain ⟨exited, hexited, hzero⟩ := bind_ok.mp hexited
        refine ⟨hcode, getOr_string.mp hstatus, exited, ?_, pure_ok.mp hzero⟩
        cases state with
        | object members =>
            rw [getOr, Except.ok.injEq] at hexited
            rw [member_object]
            cases hfound : lookup "ExitCode" members with
            | none =>
                rw [hfound, Option.getD_none] at hexited
                rw [← hexited] at hzero
                cases hzero
            | some found =>
                rw [hfound, Option.getD_some] at hexited
                rw [hexited]
        | _ => cases hexited
    · rintro ⟨-, hstatus, exited, hexited, hzero⟩
      refine ⟨_, getOr_string.mpr hstatus, ?_⟩
      rw [if_neg (not_not.mpr rfl), bind_ok]
      refine ⟨exited, ?_, pure_ok.mpr hzero⟩
      cases state with
      | object members =>
          rw [member_object] at hexited
          rw [getOr, hexited]
          rfl
      | _ => cases hexited
  · rw [if_pos hcode]
    constructor
    · intro hfalse
      cases hfalse
    · rintro ⟨hzero, -⟩
      exact absurd hzero hcode

theorem InspectedZero.of_answer {runId name : String}
    {outcome : DockerOutcome} {item state : JsonValue}
    (hanswer : ownedAnswer python runId .container name outcome = .ok item)
    (hstate : (getOr "State" (.object []) item : Except Failure JsonValue) =
      .ok state)
    (hsucceeded : migrationSucceeded 0 state = .ok true) :
    InspectedZero python name
      ⟨.docker [Kind.container.word, "inspect", name] [] 90, outcome⟩ := by
  obtain ⟨stdout, stderr, rfl, hitem⟩ := ownedAnswer_ok.mp hanswer
  obtain ⟨inspected, -, hloads, hzeroth, -⟩ := ownedItem_ok.mp hitem
  obtain ⟨-, hstatus, exited, hexited, hzero⟩ :=
    migrationSucceeded_ok.mp hsucceeded
  exact ⟨[], 90, stdout, stderr, inspected, item, state, exited, rfl, hloads,
    hzeroth, getOr_object hstate hstatus, hstatus, hexited, hzero⟩

/-- The job was seen to have succeeded. -/
theorem Migrating.confirmed {database password name : String} {before : Trace}
    {migration wait inspection : Exchange Request Response}
    (hmigrating : Migrating python database password name before migration
      fixture history)
    (hwaited : WaitedZero name wait)
    (hinspected : InspectedZero python name inspection)
    (hwait : isCreation wait.query = false)
    (hinspection : isCreation inspection.query = false) :
    Ready python { fixture with
      runtimePasswords := Function.update fixture.runtimePasswords database
        (some password)
      preparedDatabases := insert database fixture.preparedDatabases }
      (history ++ [wait] ++ [inspection]) := by
  have hseen : Migrating python database password name before migration
      fixture (history ++ [wait] ++ [inspection]) :=
    migrating_persists _ _ _ hinspection
      (migrating_persists _ _ _ hwait hmigrating)
  constructor
  · intro other hother
    by_cases hsame : other = database
    · subst hsame
      refine ⟨password, Function.update_self .., ?_⟩
      obtain ⟨after, hlast⟩ := hmigrating.run
      have hquiet : ∀ {exchange : Exchange Request Response},
          isCreation exchange.query = false → ¬ Migrates other exchange := by
        rintro exchange hnone ⟨_, _, hlaunches⟩
        exact hlaunches.ne_none (launch_of_not_creation hnone)
      have hnext := (hlast.snoc (hquiet hwait)).snoc (hquiet hinspection)
      rw [List.append_assoc after] at hnext
      exact ⟨name, before, migration, after, wait, inspection, [], hnext,
        hwaited, hinspected⟩
    · obtain ⟨kept, hkept, hconfirmed⟩ := hseen.ready.confirmed other
        (Finset.mem_of_mem_insert_of_ne hother hsame)
      exact ⟨kept, (Function.update_of_ne hsame ..).trans hkept, hconfirmed⟩
  · exact hseen.ready.lawful

/-- What `migrate_database` does once the job runs. -/
def watchMigration (python : Library RuntimeError)
    (database password name : String) : Drill String := do
  let _ ← owned python .container name
  let stdout ← docker ["container", "wait", name] [] 90
  let code ← Stateful.step (exitCode stdout)
  let item ← owned python .container name
  let state ← Stateful.step (getOr "State" (.object []) item)
  let succeeded ← Stateful.step (migrationSucceeded code state)
  require succeeded ("Disposable migration task failed (exit code " ++
    toString code ++ "); runtime startup blocked")
  Stateful.change fun fixture => { fixture with
    runtimePasswords := Function.update fixture.runtimePasswords database
      (some password)
    preparedDatabases := insert database fixture.preparedDatabases }
  pure name

theorem ready_watchMigration {database password name : String}
    {before : Trace} {migration : Exchange Request Response}
    (hmigrating : Migrating python database password name before migration
      fixture history) :
    Keeps (Ready python) (watchMigration python database password name) fixture
      history := by
  unfold watchMigration require
  apply Stateful.Establishes.bind (keeps_owned migrating_persists hmigrating)
  · intro _ fixture history _ hmigrating
    apply establishes_docker_bind
    intro outcome _ _
    have hwait : Migrating python database password name before migration
        fixture (history ++ [⟨.docker ["container", "wait", name] [] 90,
          outcome⟩]) :=
      migrating_persists _ _ _ rfl hmigrating
    refine ⟨fun _ => hwait.ready, fun stdout hstdout => ?_⟩
    apply Stateful.Establishes.step_bind (fun _ => hwait.ready)
    intro code hcode
    apply establishes_owned_bind (fun _ => hwait.ready)
    intro _ answer _ _
    have hinspection := migrating_persists _ _
      ⟨.docker [Kind.container.word, "inspect", name] [] 90, answer⟩ rfl hwait
    refine ⟨fun _ => hinspection.ready, fun item hanswer => ?_⟩
    apply Stateful.Establishes.step_bind (fun _ => hinspection.ready)
    intro state hstate
    apply Stateful.Establishes.step_bind (fun _ => hinspection.ready)
    intro succeeded hsucceeded
    rw [Stateful.establishes_check_bind]
    refine ⟨?_, fun _ => hinspection.ready⟩
    rintro rfl
    rw [Stateful.establishes_change_bind]
    obtain ⟨stderr, rfl⟩ := checkedOutput_ok.mp hstdout
    obtain ⟨rfl, -⟩ := migrationSucceeded_ok.mp hsucceeded
    exact hmigrating.confirmed ⟨[], 90, stdout, stderr, rfl, hcode⟩
      (.of_answer hanswer hstate hsucceeded) rfl rfl
  · intro error fixture history _ hmigrating
    exact hmigrating.ready

theorem ready_migrateDatabase {role database : String}
    {runtimePassword : Option String}
    (hready : Ready python fixture history) :
    Keeps (Ready python) (migrateDatabase python role database runtimePassword)
      fixture history := by
  unfold migrateDatabase
  apply (keeps_owned ready_persists hready).bind
  intro item fixture history hready
  unfold Keeps RecoveryDrill.fixture
  rw [Stateful.establishes_change_bind, Stateful.establishes_current_bind]
  have hwithdrawn : Withdrawn python database { fixture with
      preparedDatabases := fixture.preparedDatabases.erase database }
      history :=
    ⟨hready.congr (Finset.erase_subset _ _) rfl, Finset.notMem_erase _ _⟩
  apply Stateful.Establishes.bind
    (runContainer_persists (fun _ => migrating_persists) hwithdrawn
      fun exchange hlaunch => hwithdrawn.migrating ⟨hlaunch, rfl, rfl⟩ rfl rfl
        rfl)
  · rintro _ fixture history _ ⟨rfl, exchange, hmigrating⟩
    exact ready_watchMigration hmigrating
  · rintro error fixture history _ (hwithdrawn | ⟨_, hmigrating⟩)
    · exact hwithdrawn.ready
    · exact hmigrating.ready

/-! ### Sequences of operations -/

/-- The operations of a drill, which run containers only through the ones
below. -/
def Operation.ofDrill : Operation → Prop
  | .runContainer .. => False
  | _ => True

theorem ready_operation {operation : Operation}
    (hallowed : operation.ofDrill) (hready : Ready python fixture history) :
    Keeps (Ready python) (operation.program python) fixture history := by
  cases operation with
  | createNetwork => exact ready_createNetwork hready
  | runContainer role image arguments environment => cases hallowed
  | startDatabase role =>
      apply (ready_startDatabase hready).bind
      intro name fixture history hready
      exact hready
  | migrateDatabase role database runtimePassword =>
      apply (ready_migrateDatabase hready).bind
      intro name fixture history hready
      exact hready
  | stopContainer name => exact keeps_stopContainer ready_persists hready
  | startApp role database =>
      apply (ready_startApp hready).bind
      intro started fixture history hready
      exact hready

theorem Reached.ready {start : Fixture}
    (hreached : Reached python Operation.ofDrill start fixture history)
    (hstart : start.preparedDatabases = ∅) :
    Ready python fixture history := by
  induction hreached with
  | start =>
      constructor
      · intro database hprepared
        rw [hstart] at hprepared
        cases hprepared
      · exact lawful_nil
  | @operation fixture next history trace operation outcome hreached hallowed
      hrun ih =>
      exact Stateful.establishes_iff.mp (ready_operation hallowed ih) trace
        outcome next () hrun (follows_anything trace)

/-- The exchange runs nothing but the runtime of a prepared database, with the
password kept for it. -/
def StartsPrepared (fixture : Fixture) (database : String)
    (exchange : Exchange Request Response) : Prop :=
  ∀ name environment, launch exchange = some (name, environment) →
    Launches "local" database name environment exchange ∧
    database ∈ fixture.preparedDatabases ∧
    ∃ password, fixture.runtimePasswords database = some password ∧
      environment.lookup "DB_PASSWORD" = some password

theorem startApp_launches {role database : String} :
    (startApp python role database).Establishes anything
      (fun _ _ trace _ => ∀ exchange ∈ trace,
        StartsPrepared fixture database exchange) fixture [] () := by
  have hsnoc : ∀ {trace : Trace} {exchange : Exchange Request Response},
      StartsPrepared fixture database exchange →
      (∀ exchange ∈ trace, StartsPrepared fixture database exchange) →
      ∀ other ∈ trace ++ [exchange],
        StartsPrepared fixture database other := by
    intro trace exchange hexchange htrace other hmem
    rcases List.mem_append.mp hmem with hmem | hmem
    · exact htrace other hmem
    · rw [List.mem_singleton.mp hmem]
      exact hexchange
  have hquiet : ∀ {exchange : Exchange Request Response},
      isCreation exchange.query = false →
        StartsPrepared fixture database exchange := by
    intro exchange hnone name environment hlaunch
    rw [launch_of_not_creation hnone] at hlaunch
    cases hlaunch
  have hpersists : Persists fun _ trace => ∀ exchange ∈ trace,
      StartsPrepared fixture database exchange :=
    fun _ _ _ hnone htrace => hsnoc (hquiet hnone) htrace
  have hunchanged : Persists fun final trace => fixture = final ∧
      ∀ exchange ∈ trace, StartsPrepared fixture database exchange :=
    fun _ _ _ hnone hboth => ⟨hboth.1, hsnoc (hquiet hnone) hboth.2⟩
  unfold startApp
  apply Stateful.Establishes.bind (keeps_owned hunchanged ⟨rfl, by simp⟩)
  · rintro item _ trace _ ⟨rfl, htrace⟩
    unfold RecoveryDrill.fixture require
    rw [Stateful.establishes_current_bind, Stateful.establishes_check_bind]
    refine ⟨fun hprepared => ?_, fun _ => htrace⟩
    apply Stateful.Establishes.step_bind (fun _ => htrace)
    intro password hpassword
    have hfound : fixture.runtimePasswords database = some password := by
      split at hpassword
      · rename_i found hfound
        cases hpassword
        exact hfound
      · cases hpassword
    apply Stateful.Establishes.bind
      (@runContainer_persists python fixture trace (fun _ trace =>
          ∀ exchange ∈ trace, StartsPrepared fixture database exchange)
        _ _ _ _ _ (fun _ => hpersists) htrace
        fun exchange hlaunch => hsnoc ?_ htrace)
    · rintro name final trace _ ⟨-, _, htrace⟩
      exact keeps_openApi hpersists htrace
    · rintro error final trace _ (htrace | ⟨_, htrace⟩)
      · exact htrace
      · exact htrace
    · intro name environment hsame
      have hlaunched := hlaunch.symm.trans hsame
      rw [Option.some.injEq, Prod.mk.injEq] at hlaunched
      obtain ⟨rfl, rfl⟩ := hlaunched
      exact ⟨launches_runtime hlaunch, of_decide_eq_true hprepared, password,
        hfound, rfl⟩
  · rintro error _ trace _ ⟨-, htrace⟩
    exact htrace

end

namespace Sample

def inspectedText : String :=
  "[\x7b\"Config\":\x7b\"Labels\":\x7b\"inventory.drill.run\":\"0123456789" ++
    "abcdef0123456789abcdef\",\"inventory.drill.purpose\":\"disposable-" ++
    "local-verification\"\x7d\x7d,\"State\":\x7b\"Status\":\"exited\",\"Exit" ++
    "Code\":0\x7d,\"NetworkSettings\":\x7b\"Ports\":\x7b\"8080/tcp\":[\x7b" ++
    "\"HostIp\":\"127.0.0.1\",\"HostPort\":\"49153\"\x7d]\x7d\x7d\x7d]"

def networkText : String :=
  "[\x7b\"Labels\":\x7b\"inventory.drill.run\":\"0123456789abcdef01234567" ++
    "89abcdef\",\"inventory.drill.purpose\":\"disposable-local-verificat" ++
    "ion\"\x7d\x7d]"

def bytes (text : String) : List UInt8 :=
  text.toList.map fun char => UInt8.ofNat char.toNat

def runId : String := "0123456789abcdef0123456789abcdef"

def labels : JsonValue :=
  .object [(ownerLabel, .string runId), (purposeLabel, .string purpose)]

def inspected : JsonValue :=
  .object [("Config", .object [("Labels", labels)]),
    ("State", .object [("Status", .string "exited"), ("ExitCode", .integer 0)]),
    ("NetworkSettings", .object [("Ports", .object [("8080/tcp", .array
      [.object [("HostIp", .string "127.0.0.1"),
        ("HostPort", .string "49153")]])])])]

/-- `str`, of which the drill needs texts only. -/
def printed : JsonValue → String
  | .string text => text
  | _ => "None"

def reads (raw : List UInt8) : Except Failure JsonValue :=
  if raw = bytes inspectedText then .ok (.array [inspected])
  else if raw = bytes networkText then
    .ok (.array [.object [("Labels", labels)]])
  else .error .valueError

/-- Python's library on the texts of this drill. -/
def python : Library RuntimeError where
  loads _ := .error .valueError
  loadsBytes := reads
  sha256 _ := ""
  str := printed
  str_string _ := rfl
  str_other value hvalue := by
    refine ⟨'N', ['o', 'n', 'e'], ?_, by decide⟩
    cases value with
    | string text => exact absurd rfl (hvalue text)
    | _ => exact (by decide : "None".toList = ['N', 'o', 'n', 'e'])

def start : Fixture :=
  Fixture.new runId ⟨"admin-secret", "customer-secret"⟩ "owner-secret"
    "initial-secret" "sha256:application" "sha256:postgres"

/-- What the commands of this drill print. -/
def output : List String → List UInt8
  | ["container", "wait", _] => bytes "0\n"
  | [_, "inspect", _] => bytes inspectedText
  | _ => []

def oracle : (request : Request) → Response request
  | .docker arguments _ _ => .exited 0 (output arguments) ""
  | .rounds _ => 1
  | .waitHealth _ => .ok ()

/-- One more operation of the drill, answered like this. -/
def perform (before : Fixture × Trace) (operation : Operation) :
    Fixture × Trace :=
  let program := (operation.program python).runFrom before.1
  ((program.eval oracle).2, before.2 ++ program.transcript oracle)

def database : String := start.namePrefix ++ "-source-db"

def operations : List Operation :=
  [.createNetwork, .startDatabase "source-db",
    .migrateDatabase "source-migrate" database none,
    .startApp "source-app" database]

def performed : Fixture × Trace :=
  operations.foldl perform (start, [])

theorem reached_perform {allowed : Operation → Prop}
    {operations : List Operation} {before : Fixture × Trace}
    (hbefore : Reached python allowed start before.1 before.2)
    (hallowed : ∀ operation ∈ operations, allowed operation) :
    Reached python allowed start (operations.foldl perform before).1
      (operations.foldl perform before).2 := by
  induction operations generalizing before with
  | nil => exact hbefore
  | cons operation rest ih =>
      obtain ⟨hoperation, hrest⟩ := List.forall_mem_cons.mp hallowed
      exact ih (.operation hbefore hoperation
        (Program.runs_transcript oracle _)) hrest

theorem reached_performed :
    Reached python Operation.ofDrill start performed.1 performed.2 := by
  apply reached_perform .start
  simp [operations, Operation.ofDrill]

theorem database_prepared :
    performed.1.preparedDatabases = {database} := by
  decide +kernel

end Sample

/-- After any operations with any answers and failures: the last migration of
a prepared database was seen to have succeeded and was given the runtime
password that is kept, a runtime is run for prepared databases only, with that
password, and so were all runtimes that have been run so far. -/
theorem runtimes_follow_migrations {python : Library RuntimeError}
    {runId dbPassword initialRuntimePassword image databaseImage : String}
    {passwords : Passwords} {fixture : Fixture} {history : Trace}
    (hreached : Reached python Operation.ofDrill
      (Fixture.new runId passwords dbPassword initialRuntimePassword image
        databaseImage) fixture history) :
    (∀ database ∈ fixture.preparedDatabases, ∃ password,
      fixture.runtimePasswords database = some password ∧
        Confirmed python history database password) ∧
    (∀ role database trace outcome next,
      ((startApp python role database).runFrom fixture).Runs trace
        (outcome, next) →
      ∀ exchange ∈ trace, StartsPrepared fixture database exchange) ∧
    Lawful (StartsConfirmed python) history := by
  have hready := hreached.ready rfl
  refine ⟨hready.confirmed, ?_, hready.lawful⟩
  intro role database trace outcome next hrun
  exact Stateful.establishes_iff.mp startApp_launches trace outcome next ()
    hrun (follows_anything trace)

theorem runtimes_follow_migrations_sample :
    Sample.performed.1.preparedDatabases = {Sample.database} ∧
    ((∀ database ∈ Sample.performed.1.preparedDatabases, ∃ password,
      Sample.performed.1.runtimePasswords database = some password ∧
        Confirmed Sample.python Sample.performed.2 database password) ∧
    (∀ role database trace outcome next,
      ((startApp Sample.python role database).runFrom
        Sample.performed.1).Runs trace (outcome, next) →
      ∀ exchange ∈ trace,
        StartsPrepared Sample.performed.1 database exchange) ∧
    Lawful (StartsConfirmed Sample.python) Sample.performed.2) :=
  ⟨Sample.database_prepared,
    @runtimes_follow_migrations Sample.python Sample.runId "owner-secret"
      "initial-secret" "sha256:application" "sha256:postgres"
      ⟨"admin-secret", "customer-secret"⟩ Sample.performed.1
      Sample.performed.2 Sample.reached_performed⟩

end RecoveryDrill

end InventoryCloud

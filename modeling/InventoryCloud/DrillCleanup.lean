import InventoryCloud.DockerEngine
import InventoryCloud.DrillReadiness

/-!
# The cleanup of the drill

`Fixture.cleanup` on a machine with resources of others, from every fixture
its operations lead to: what it removes, what it attempts and what it reports
when Docker fails.
-/

namespace InventoryCloud

namespace RecoveryDrill

open Interaction JsonValue Python Docker

/-! ### Docker commands -/

/-- The containers and the networks of the machine. -/
abbrev Machine := Kind → List Resource

inductive Command where
  | list (kind : Kind) (filter : String)
  | inspect (kind : Kind) (name : String)
  | remove (kind : Kind) (name : String)

def command : List String → Option Command
  | ["container", "ls", "--all", "--filter", filter, "--format",
      "\x7b\x7b.Names\x7d\x7d"] => some (.list .container filter)
  | ["network", "ls", "--filter", filter, "--format",
      "\x7b\x7b.Name\x7d\x7d"] => some (.list .network filter)
  | ["container", "inspect", name] => some (.inspect .container name)
  | ["network", "inspect", name] => some (.inspect .network name)
  | ["container", "rm", "--force", name] => some (.remove .container name)
  | ["network", "rm", name] => some (.remove .network name)
  | _ => none

/-- The filter which the exact name passes; Docker's names have none of the
special characters of a pattern but the dot. -/
def exactly : Kind → String → String
  | .container, name => "name=^/" ++ name ++ "$"
  | .network, name => "name=^" ++ name ++ "$"

def LabelsShown (kind : Kind) (resource : Resource) (answer : JsonValue) :
    Prop :=
  match kind with
  | .container => ContainerLabelsAgree resource.labels answer
  | .network => NetworkLabelsAgree resource.labels answer

def Succeeded (outcome : DockerOutcome) : Prop :=
  ∃ stdout stderr, outcome = .exited 0 stdout stderr

/-- A command on the resources of the machine.  A listing has at least the
resources of exactly that name. -/
def Command.Effect (python : Library RuntimeError) (command : Command)
    (outcome : DockerOutcome) (before after : Machine) : Prop :=
  match command with
  | .list kind filter => after = before ∧
      ∀ stdout stderr text name, outcome = .exited 0 stdout stderr →
        (decode stdout : Except Failure String) = .ok text →
        filter = exactly kind name →
          (∃ resource ∈ before kind, resource.name = name) →
            name ∈ splitlines text
  | .inspect kind name => after = before ∧
      ∀ stdout stderr, outcome = .exited 0 stdout stderr →
        ∃ resource ∈ before kind, resource.name = name ∧
          ∀ answer rest,
            python.loadsBytes stdout = .ok (.array (answer :: rest)) →
              LabelsShown kind resource answer
  | .remove kind name =>
      Removes (fun resource : Resource => resource.name = name)
        (Succeeded outcome) (before kind) (after kind) ∧
      ∀ other, other ≠ kind → after other = before other

def commandOf (exchange : Exchange Request Response) : Option Command :=
  match exchange.query with
  | .docker arguments _ _ => command arguments
  | _ => none

/-- Of other commands than those above nothing is known. -/
def machineEffect (python : Library RuntimeError) :
    Exchange Request Response → Machine → Machine → Prop
  | ⟨.docker arguments _ _, outcome⟩, before, after =>
      ∀ known, command arguments = some known →
        known.Effect python outcome before after
  | _, before, after => after = before

/-! ### What the cleanup keeps to -/

def labelsIn (kind : Kind) (item : JsonValue) : Option JsonValue :=
  match kind with
  | .container => item.member "Config" >>= member "Labels"
  | .network => item.member "Labels"

/-- The answer shows the run's id and purpose among the labels. -/
def ShowsLabels (python : Library RuntimeError) (runId : String)
    (kind : Kind) (stdout : List UInt8) : Prop :=
  ∃ item rest labels, python.loadsBytes stdout = .ok (.array (item :: rest)) ∧
    labelsIn kind item = some labels ∧
    labels.member ownerLabel = some (.string runId) ∧
    labels.member purposeLabel = some (.string purpose)

/-- A removal is one of a tracked resource, right after an inspection that
showed its labels. -/
def RemovesOwned (python : Library RuntimeError) (fixture : Fixture)
    (before : Trace) (exchange : Exchange Request Response) : Prop :=
  ∀ kind name, commandOf exchange = some (.remove kind name) →
    fixture.tracks kind name = true ∧
    ∃ earlier environment timeout stdout stderr,
      before = earlier ++ [⟨.docker [kind.word, "inspect", name] environment
        timeout, .exited 0 stdout stderr⟩] ∧
      ShowsLabels python fixture.runId kind stdout

/-- The resources which a trace lists, in order. -/
def attempts (trace : Trace) : List (Kind × String) :=
  trace.filterMap fun exchange =>
    match commandOf exchange with
    | some (.list kind filter) => some (kind, filter)
    | _ => none

/-- The resource of this kind and name is the fixture's own. -/
structure Own (fixture : Fixture) (kind : Kind) (resource : Resource) :
    Prop where
  tracked : fixture.tracks kind resource.name = true
  run : resource.labels ownerLabel = some fixture.runId
  purpose : resource.labels purposeLabel = some purpose

/-- Nothing is new on the machine, and only own resources are gone. -/
structure Cleaned (fixture : Fixture) (before after : Machine) : Prop where
  sublist : ∀ kind, (after kind).Sublist (before kind)
  gone : ∀ kind, ∀ resource ∈ before kind, resource ∉ after kind →
    Own fixture kind resource

section

variable {python : Library RuntimeError} {fixture : Fixture} {history : Trace}
  {kind : Kind} {name : String}

theorem Cleaned.refl (machine : Machine) :
    Cleaned fixture machine machine :=
  ⟨fun _ => List.Sublist.refl _, fun _ _ hmem hgone => absurd hmem hgone⟩

theorem Cleaned.trans {first second third : Machine}
    (hfirst : Cleaned fixture first second)
    (hsecond : Cleaned fixture second third) :
    Cleaned fixture first third where
  sublist kind := (hsecond.sublist kind).trans (hfirst.sublist kind)
  gone kind resource hmem hgone := by
    by_cases hkept : resource ∈ second kind
    · exact hsecond.gone kind resource hkept hgone
    · exact hfirst.gone kind resource hmem hkept

/-- A removal of the resource that was shown to be the fixture's own. -/
theorem Cleaned.of_removes {before after : Machine} {succeeded : Prop}
    (hremoves : Removes (fun resource : Resource => resource.name = name)
      succeeded (before kind) (after kind))
    (hothers : ∀ other, other ≠ kind → after other = before other)
    {shown : Resource} (hmem : shown ∈ before kind) (hname : shown.name = name)
    (howned : Own fixture kind shown) : Cleaned fixture before after where
  sublist other := by
    by_cases hsame : other = kind
    · subst hsame
      exact hremoves.sublist
    · rw [hothers other hsame]
  gone other resource hbefore hgone := by
    by_cases hsame : other = kind
    · subst hsame
      rw [hremoves.eq_of_gone hbefore hgone hmem hname]
      exact howned
    · rw [hothers other hsame] at hgone
      exact absurd hbefore hgone

theorem labelsIn_of_labelsOf {item labels result : JsonValue} {key : String}
    (hlabels : labelsOf kind item = .ok labels)
    (hkey : labels.member key = some result) :
    labelsIn kind item = some labels := by
  cases kind with
  | network => exact getOr_object hlabels hkey
  | container =>
      obtain ⟨config, hconfig, hfound⟩ := bind_ok.mp hlabels
      have hmember := getOr_object hfound hkey
      change item.member "Config" >>= member "Labels" = some labels
      rw [getOr_object hconfig hmember]
      exact hmember

/-- What `owned` accepts shows the labels of the run. -/
theorem showsLabels_of_answer {runId : String} {stdout : List UInt8}
    {found : JsonValue}
    (hitem : ownedItem python runId kind name stdout = .ok found) :
    ShowsLabels python runId kind stdout := by
  obtain ⟨inspected, labels, hloads, hzeroth, hlabels, howner, hpurpose⟩ :=
    ownedItem_ok.mp hitem
  have hin := labelsIn_of_labelsOf hlabels howner
  have hmember : ∃ key result, found.member key = some result := by
    cases kind with
    | network => exact ⟨"Labels", labels, hin⟩
    | container =>
        obtain ⟨config, hconfig, -⟩ := Option.bind_eq_some_iff.mp hin
        exact ⟨"Config", config, hconfig⟩
  obtain ⟨key, result, hresult⟩ := hmember
  obtain ⟨rest, rfl⟩ := item_zero_array hzeroth hresult
  exact ⟨found, rest, labels, hloads, hin, howner, hpurpose⟩

/-- The labels of the inspected resource are those that were shown. -/
theorem own_of_shown {stdout : List UInt8} {resource : Resource}
    (htracks : fixture.tracks kind resource.name = true)
    (hshows : ShowsLabels python fixture.runId kind stdout)
    (htrue : ∀ answer rest,
      python.loadsBytes stdout = .ok (.array (answer :: rest)) →
        LabelsShown kind resource answer) :
    Own fixture kind resource := by
  obtain ⟨item, rest, labels, hloads, hlabels, howner, hpurpose⟩ := hshows
  have hagree : LabelsAgree resource.labels labels := by
    have hshown := htrue item rest hloads
    cases kind with
    | network => exact hshown labels hlabels
    | container =>
        obtain ⟨config, hconfig, hfound⟩ := Option.bind_eq_some_iff.mp hlabels
        exact hshown config labels hconfig hfound
  exact ⟨htracks, hagree _ _ howner, hagree _ _ hpurpose⟩

/-! ### One resource -/

/-- After a part of the cleanup, with what it listed. -/
structure Swept (python : Library RuntimeError) (fixture : Fixture)
    (listed : List (Kind × String)) (history : Trace) (before : Machine)
    (final : Fixture) (trace : Trace) (after : Machine) : Prop where
  unchanged : fixture = final
  lawful : Lawful (RemovesOwned python fixture) trace
  attempted : attempts trace = attempts history ++ listed
  cleaned : Cleaned fixture before after

theorem attempts_snoc {exchange : Exchange Request Response} :
    attempts (history ++ [exchange]) =
      attempts history ++ attempts [exchange] := by
  unfold attempts
  rw [List.filterMap_append]

theorem command_listArguments :
    command (listArguments kind name) =
      some (.list kind (exactly kind name)) := by
  cases kind <;> rfl

theorem command_inspect :
    command [kind.word, "inspect", name] = some (.inspect kind name) := by
  cases kind <;> rfl

theorem command_removeArguments :
    command (removeArguments kind name) = some (.remove kind name) := by
  cases kind <;> rfl

/-- What one exchange adds to the attempts. -/
theorem attempts_singleton {arguments : List String} {known : Command}
    {environment : Variables} {timeout : Nat} {outcome : DockerOutcome}
    (hknown : command arguments = some known)
    (hother : ∀ kind filter, known ≠ .list kind filter) :
    attempts [⟨.docker arguments environment timeout, outcome⟩] = [] := by
  cases known with
  | list kind filter => exact absurd rfl (hother kind filter)
  | _ => simp [attempts, commandOf, hknown]

section

variable {listed : List (Kind × String)} {before between after : Machine}
  {final : Fixture} {trace : Trace}

theorem Swept.inspected {outcome : DockerOutcome}
    (hswept : Swept python fixture listed history before final trace after) :
    Swept python fixture listed history before final
      (trace ++ [⟨.docker [kind.word, "inspect", name] [] 90, outcome⟩])
      after where
  unchanged := hswept.unchanged
  lawful := by
    apply lawful_snoc.mpr ⟨hswept.lawful, ?_⟩
    intro other removed hremoval
    have hsame : command [kind.word, "inspect", name] =
        some (.remove other removed) := hremoval
    rw [command_inspect] at hsame
    cases hsame
  attempted := by
    rw [attempts_snoc, hswept.attempted,
      attempts_singleton command_inspect nofun, List.append_nil]
  cleaned := hswept.cleaned

/-- The removal right after the inspection that showed the labels. -/
theorem Swept.removed {stdout : List UInt8} (stderr : String)
    (outcome : DockerOutcome)
    (hswept : Swept python fixture listed history before final
      (trace ++ [⟨.docker [kind.word, "inspect", name] [] 90,
        .exited 0 stdout stderr⟩]) between)
    (htracks : fixture.tracks kind name = true)
    (hshows : ShowsLabels python fixture.runId kind stdout)
    (hcleaned : Cleaned fixture between after) :
    Swept python fixture listed history before final
      (trace ++ [⟨.docker [kind.word, "inspect", name] [] 90,
        .exited 0 stdout stderr⟩] ++
        [⟨.docker (removeArguments kind name) [] 90, outcome⟩]) after where
  unchanged := hswept.unchanged
  lawful := by
    apply lawful_snoc.mpr ⟨hswept.lawful, ?_⟩
    intro other removed hremoval
    have hsame : command (removeArguments kind name) =
        some (.remove other removed) := hremoval
    rw [command_removeArguments] at hsame
    cases hsame
    exact ⟨htracks, trace, [], 90, stdout, stderr, rfl, hshows⟩
  attempted := by
    rw [attempts_snoc, hswept.attempted,
      attempts_singleton command_removeArguments nofun, List.append_nil]
  cleaned := hswept.cleaned.trans hcleaned

end

theorem establishes_removeOwned {before : Machine}
    (hlawful : Lawful (RemovesOwned python fixture) history) :
    (removeOwned python kind name).Establishes (machineEffect python)
      (fun outcome final trace after =>
        Swept python fixture [(kind, exactly kind name)] history before final
          trace after ∧
        (outcome = .ok ⟨⟩ → ∀ resource ∈ after kind, resource.name ≠ name))
      fixture history before := by
  unfold removeOwned
  apply establishes_docker_bind
  intro listing after heffect
  obtain ⟨rfl, hlisted⟩ := heffect _ command_listArguments
  have hswept : Swept python fixture [(kind, exactly kind name)] history after
      fixture (history ++ [⟨.docker (listArguments kind name) [] 90, listing⟩])
      after := by
    refine ⟨rfl, lawful_snoc.mpr ⟨hlawful, ?_⟩, ?_, .refl after⟩
    · intro other removed hremoval
      have hsame : command (listArguments kind name) =
          some (.remove other removed) := hremoval
      rw [command_listArguments] at hsame
      cases hsame
    · rw [attempts_snoc]
      simp [attempts, commandOf, command_listArguments]
  refine ⟨fun _ => ⟨hswept, nofun⟩, fun stdout hstdout => ?_⟩
  obtain ⟨stderr, rfl⟩ := checkedOutput_ok.mp hstdout
  apply Stateful.Establishes.step_bind (fun _ => ⟨hswept, nofun⟩)
  intro text htext
  by_cases hnamed : name ∈ splitlines text
  · rw [if_neg (not_not.mpr hnamed)]
    apply establishes_owned_bind (fun _ => ⟨hswept, nofun⟩)
    intro htracks answer between hinspect
    obtain ⟨rfl, hshown⟩ := hinspect _ command_inspect
    refine ⟨fun _ => ⟨hswept.inspected, nofun⟩, fun item hanswer => ?_⟩
    obtain ⟨shown, errors, rfl, hitem⟩ := ownedAnswer_ok.mp hanswer
    have hshows := showsLabels_of_answer hitem
    obtain ⟨resource, hmem, hname, htrue⟩ := hshown shown errors rfl
    apply establishes_docker_bind
    intro removal after hremove
    obtain ⟨hremoves, hothers⟩ := hremove _ command_removeArguments
    have howned : Own fixture kind resource :=
      own_of_shown (hname ▸ htracks) hshows htrue
    have hremoved := hswept.inspected.removed errors removal htracks hshows
      (.of_removes hremoves hothers hmem hname howned)
    refine ⟨fun _ => ⟨hremoved, nofun⟩, fun stdout hstdout => ?_⟩
    obtain ⟨stderr, rfl⟩ := checkedOutput_ok.mp hstdout
    exact ⟨hremoved, fun _ => hremoves.none_named ⟨stdout, stderr, rfl⟩⟩
  · rw [if_pos hnamed]
    refine ⟨hswept, fun _ resource hmem hname => hnamed ?_⟩
    exact hlisted stdout stderr text name rfl htext rfl ⟨resource, hmem, hname⟩

/-! ### All resources -/

/-- A resource that is still there is reported. -/
def Reports (kind : Kind) (names : List String) (after : Machine)
    (errors : List (String × Failure)) : Prop :=
  ∀ name ∈ names, (∃ resource ∈ after kind, resource.name = name) →
    ∃ error, (name, error) ∈ errors

theorem establishes_attempted {before : Machine}
    (hlawful : Lawful (RemovesOwned python fixture) history) :
    (attempted name (removeOwned python kind name)).Establishes
      (machineEffect python)
      (fun outcome final trace after => ∃ errors, outcome = .ok errors ∧
        Swept python fixture [(kind, exactly kind name)] history before final
          trace after ∧
        Reports kind [name] after errors) fixture history before := by
  unfold attempted
  rw [Stateful.establishes_bind, Stateful.establishes_caught]
  apply (establishes_removeOwned hlawful).mono
  rintro outcome final trace after ⟨hswept, habsent⟩
  cases outcome with
  | ok _ =>
      refine ⟨[], rfl, hswept, ?_⟩
      intro other hother hthere
      obtain ⟨resource, hmem, hname⟩ := hthere
      rw [List.mem_singleton.mp hother] at hname
      exact absurd hname (habsent rfl resource hmem)
  | error error =>
      refine ⟨[(name, error)], rfl, hswept, ?_⟩
      intro other hother _
      rw [List.mem_singleton.mp hother]
      exact ⟨error, List.mem_singleton_self _⟩

theorem Swept.trans {first second : List (Kind × String)}
    {before between after : Machine} {middle final : Fixture}
    {earlier trace : Trace}
    (hfirst : Swept python fixture first history before middle earlier between)
    (hsecond : Swept python fixture second earlier between final trace
      after) :
    Swept python fixture (first ++ second) history before final trace
      after where
  unchanged := hsecond.unchanged
  lawful := hsecond.lawful
  attempted := by
    rw [hsecond.attempted, hfirst.attempted, List.append_assoc]
  cleaned := hfirst.cleaned.trans hsecond.cleaned

/-- What is still there later was there before. -/
theorem Reports.later {names : List String} {between after : Machine}
    {errors : List (String × Failure)}
    (hreports : Reports kind names between errors)
    (hcleaned : Cleaned fixture between after) :
    Reports kind names after errors := by
  rintro name hname ⟨resource, hmem, hsame⟩
  exact hreports name hname
    ⟨resource, (hcleaned.sublist kind).subset hmem, hsame⟩

theorem Reports.mono {names : List String} {after : Machine}
    {errors others : List (String × Failure)}
    (hreports : Reports kind names after errors) (hsub : errors ⊆ others) :
    Reports kind names after others := by
  intro name hname hthere
  obtain ⟨error, herror⟩ := hreports name hname hthere
  exact ⟨error, hsub herror⟩

theorem establishes_removeContainers {names : List String} {before : Machine}
    (hlawful : Lawful (RemovesOwned python fixture) history) :
    (removeContainers python names).Establishes (machineEffect python)
      (fun outcome final trace after => ∃ errors, outcome = .ok errors ∧
        Swept python fixture
          (names.map fun name => (.container, exactly .container name))
          history before final trace after ∧
        Reports .container names after errors) fixture history before := by
  induction names generalizing history before with
  | nil =>
      refine ⟨[], rfl, ⟨rfl, hlawful, ?_, .refl before⟩, ?_⟩
      · rw [List.map_nil, List.append_nil]
      · intro name hname
        cases hname
  | cons name rest ih =>
      unfold removeContainers
      apply Stateful.Establishes.bind (establishes_attempted hlawful)
      · rintro errors middle earlier between ⟨_, ⟨⟩, hfirst, hreported⟩
        obtain rfl := hfirst.unchanged
        apply Stateful.Establishes.bind (ih hfirst.lawful)
        · rintro others final trace after ⟨_, ⟨⟩, hrest, hothers⟩
          refine ⟨errors ++ others, rfl, hfirst.trans hrest, ?_⟩
          intro other hother
          rcases List.mem_cons.mp hother with rfl | hother
          · exact (hreported.later hrest.cleaned).mono
              (List.subset_append_left errors others) other
              (List.mem_singleton_self other)
          · exact hothers.mono (List.subset_append_right errors others) other
              hother
        · rintro error final trace after ⟨_, ⟨⟩, -⟩
      · rintro error final trace after ⟨_, ⟨⟩, -⟩

/-- What the cleanup lists, in its order. -/
def Fixture.listings (fixture : Fixture) : List (Kind × String) :=
  (fixture.containers.reverse.map fun name =>
    (.container, exactly .container name)) ++
  if fixture.networkCreated then
    [(.network, exactly .network fixture.network)]
  else []

theorem establishes_cleanup {before : Machine} :
    (cleanup python).Establishes (machineEffect python)
      (fun outcome final trace after => ∃ errors, outcome = .ok errors ∧
        Swept python fixture fixture.listings [] before final trace after ∧
        Reports .container fixture.containers after errors ∧
        (fixture.networkCreated = true →
          Reports .network [fixture.network] after errors))
      fixture [] before := by
  unfold cleanup RecoveryDrill.fixture
  rw [Stateful.establishes_current_bind]
  apply Stateful.Establishes.bind (establishes_removeContainers lawful_nil)
  · rintro errors middle earlier between ⟨_, ⟨⟩, hfirst, hreported⟩
    obtain rfl := hfirst.unchanged
    have hall : Reports .container fixture.containers between errors :=
      fun name hname => hreported name (List.mem_reverse.mpr hname)
    unfold Fixture.listings
    by_cases hcreated : fixture.networkCreated = true
    · rw [if_pos hcreated, if_pos hcreated]
      apply Stateful.Establishes.bind (establishes_attempted hfirst.lawful)
      · rintro others final trace after ⟨_, ⟨⟩, hlast, hnetwork⟩
        exact ⟨errors ++ others, rfl, hfirst.trans hlast,
          (hall.later hlast.cleaned).mono
            (List.subset_append_left errors others),
          fun _ => hnetwork.mono (List.subset_append_right errors others)⟩
      · rintro error final trace after ⟨_, ⟨⟩, -⟩
    · rw [if_neg hcreated, if_neg hcreated, List.append_nil]
      exact ⟨errors, rfl, hfirst, hall, fun htrue => absurd htrue hcreated⟩
  · rintro error final trace after ⟨_, ⟨⟩, -⟩

/-! ### What the fixture tracks -/

def CreatesNetwork (exchange : Exchange Request Response) : Prop :=
  ∃ arguments environment timeout, exchange.query =
    .docker ("network" :: "create" :: arguments) environment timeout

/-- Whatever Docker was asked to make is tracked. -/
structure Tracked (fixture : Fixture) (history : Trace) : Prop where
  containers : ∀ exchange ∈ history, ∀ name environment,
    launch exchange = some (name, environment) → name ∈ fixture.containers
  network : ∀ exchange ∈ history, CreatesNetwork exchange →
    fixture.networkCreated = true

theorem CreatesNetwork.launch_none {exchange : Exchange Request Response}
    (hcreates : CreatesNetwork exchange) : launch exchange = none := by
  obtain ⟨arguments, environment, timeout, hquery⟩ := hcreates
  unfold launch
  rw [hquery]
  rfl

theorem Tracked.congr {other : Fixture} (htracked : Tracked fixture history)
    (hcontainers : fixture.containers ⊆ other.containers)
    (hnetwork : fixture.networkCreated = true → other.networkCreated = true) :
    Tracked other history where
  containers exchange hmem name environment hlaunch :=
    hcontainers (htracked.containers exchange hmem name environment hlaunch)
  network exchange hmem hcreates :=
    hnetwork (htracked.network exchange hmem hcreates)

theorem Tracked.snoc {exchange : Exchange Request Response}
    (htracked : Tracked fixture history)
    (hlaunch : ∀ name environment, launch exchange = some (name, environment) →
      name ∈ fixture.containers)
    (hnetwork : CreatesNetwork exchange → fixture.networkCreated = true) :
    Tracked fixture (history ++ [exchange]) where
  containers := by
    intro other hmem
    rcases List.mem_append.mp hmem with hmem | hmem
    · exact htracked.containers other hmem
    · rw [List.mem_singleton.mp hmem]
      exact hlaunch
  network := by
    intro other hmem
    rcases List.mem_append.mp hmem with hmem | hmem
    · exact htracked.network other hmem
    · rw [List.mem_singleton.mp hmem]
      exact hnetwork

theorem tracked_persists : Persists Tracked := by
  intro fixture history exchange hquiet htracked
  apply htracked.snoc
  · intro name environment hlaunch
    rw [launch_of_not_creation hquiet] at hlaunch
    cases hlaunch
  · rintro ⟨arguments, environment, timeout, hquery⟩
    rw [hquery] at hquiet
    cases hquiet

theorem tracked_runContainer {role image : String} {arguments : List String}
    {environment : Variables} (htracked : Tracked fixture history) :
    Keeps Tracked (runContainer python role image arguments environment)
      fixture history := by
  have hrun : ∀ exchange, launch exchange =
      some (fixture.namePrefix ++ "-" ++ role, environment) →
        Tracked (fixture.tracking (fixture.namePrefix ++ "-" ++ role))
          (history ++ [exchange]) := by
    intro exchange hlaunch
    have htracking : Tracked
        (fixture.tracking (fixture.namePrefix ++ "-" ++ role)) history :=
      htracked.congr (List.subset_append_left _ _) id
    apply htracking.snoc
    · intro name other hsame
      rw [hlaunch, Option.some.injEq, Prod.mk.injEq] at hsame
      rw [← hsame.1]
      exact List.mem_append_right _ (List.mem_singleton_self _)
    · intro hcreates
      rw [hcreates.launch_none] at hlaunch
      cases hlaunch
  apply (runContainer_persists (fun _ => tracked_persists) htracked hrun).mono
  intro outcome final trace _ hfinal
  cases outcome with
  | ok name => exact hfinal.2.choose_spec
  | error error =>
      rcases hfinal with hfinal | ⟨_, hfinal⟩
      · exact hfinal
      · exact hfinal

theorem tracked_createNetwork (htracked : Tracked fixture history) :
    Keeps Tracked createNetwork fixture history := by
  have hattempted : ∀ exchange, launch exchange = none →
      Tracked { fixture with networkCreated := true }
        (history ++ [exchange]) := by
    intro exchange hquiet
    have hcreated : Tracked { fixture with networkCreated := true } history :=
      htracked.congr (List.Subset.refl _) fun _ => rfl
    apply hcreated.snoc
    · intro name environment hlaunch
      rw [hquiet] at hlaunch
      cases hlaunch
    · intro _
      rfl
  unfold Keeps createNetwork RecoveryDrill.fixture
  rw [Stateful.establishes_change_bind, Stateful.establishes_current_bind]
  apply establishes_docker_bind
  intro outcome _ _
  exact ⟨fun _ => hattempted _ rfl, fun _ _ => hattempted _ rfl⟩

theorem tracked_startDatabase {role : String}
    (htracked : Tracked fixture history) :
    Keeps Tracked (startDatabase python role) fixture history := by
  unfold Keeps startDatabase RecoveryDrill.fixture
  rw [Stateful.establishes_current_bind]
  apply (tracked_runContainer htracked).bind
  intro name fixture history htracked
  apply (keeps_waitDatabase tracked_persists htracked).bind
  intro _ fixture history htracked
  exact htracked

theorem tracked_watchMigration {database password name : String}
    (htracked : Tracked fixture history) :
    Keeps Tracked (watchMigration python database password name) fixture
      history := by
  unfold watchMigration
  apply (keeps_owned tracked_persists htracked).bind
  intro _ fixture history htracked
  apply (keeps_docker tracked_persists rfl htracked).bind
  intro stdout fixture history htracked
  apply (keeps_step htracked).bind
  intro code fixture history htracked
  apply (keeps_owned tracked_persists htracked).bind
  intro item fixture history htracked
  apply (keeps_step htracked).bind
  intro state fixture history htracked
  apply (keeps_step htracked).bind
  intro succeeded fixture history htracked
  apply (keeps_step htracked).bind
  intro _ fixture history htracked
  exact htracked.congr (List.Subset.refl _) id

theorem tracked_migrateDatabase {role database : String}
    {runtimePassword : Option String} (htracked : Tracked fixture history) :
    Keeps Tracked (migrateDatabase python role database runtimePassword)
      fixture history := by
  unfold migrateDatabase
  apply (keeps_owned tracked_persists htracked).bind
  intro _ fixture history htracked
  unfold Keeps RecoveryDrill.fixture
  rw [Stateful.establishes_change_bind, Stateful.establishes_current_bind]
  have hwithdrawn : Tracked { fixture with
      preparedDatabases := fixture.preparedDatabases.erase database }
      history :=
    htracked.congr (List.Subset.refl _) id
  apply (tracked_runContainer hwithdrawn).bind
  intro name fixture history htracked
  exact tracked_watchMigration htracked

theorem tracked_startApp {role database : String}
    (htracked : Tracked fixture history) :
    Keeps Tracked (startApp python role database) fixture history := by
  unfold startApp
  apply (keeps_owned tracked_persists htracked).bind
  intro _ fixture history htracked
  unfold Keeps RecoveryDrill.fixture
  rw [Stateful.establishes_current_bind]
  apply (keeps_step htracked).bind
  intro _ fixture history htracked
  apply (keeps_step htracked).bind
  intro password fixture history htracked
  apply (tracked_runContainer htracked).bind
  intro name fixture history htracked
  exact keeps_openApi tracked_persists htracked

theorem tracked_operation {operation : Operation}
    (htracked : Tracked fixture history) :
    Keeps Tracked (operation.program python) fixture history := by
  cases operation with
  | createNetwork => exact tracked_createNetwork htracked
  | runContainer role image arguments environment =>
      apply (tracked_runContainer htracked).bind
      intro name fixture history htracked
      exact htracked
  | startDatabase role =>
      apply (tracked_startDatabase htracked).bind
      intro name fixture history htracked
      exact htracked
  | migrateDatabase role database runtimePassword =>
      apply (tracked_migrateDatabase htracked).bind
      intro name fixture history htracked
      exact htracked
  | stopContainer name => exact keeps_stopContainer tracked_persists htracked
  | startApp role database =>
      apply (tracked_startApp htracked).bind
      intro started fixture history htracked
      exact htracked

theorem Reached.tracked {allowed : Operation → Prop} {start : Fixture}
    (hreached : Reached python allowed start fixture history) :
    Tracked fixture history := by
  induction hreached with
  | start => exact ⟨by simp, by simp⟩
  | @operation fixture next history trace operation outcome hreached hallowed
      hrun ih =>
      exact Stateful.establishes_iff.mp (tracked_operation ih) trace outcome
        next () hrun (follows_anything trace)

end

namespace Sample

/-- The fixture when the answers to both creations were lost. -/
def attempt : Fixture :=
  { start with containers := [database], networkCreated := true }

def lost : (request : Request) → Response request
  | .docker .. => .timedOut
  | .rounds _ => 0
  | .waitHealth _ => .ok ()

theorem reached_attempt :
    ∃ history, Reached python (fun _ => True) start attempt history := by
  have hnetwork : Reached python (fun _ => True) start
      { start with networkCreated := true } _ :=
    .operation .start trivial (Program.runs_transcript lost
      ((Operation.program python .createNetwork).runFrom start))
  have hcontainer : Reached python (fun _ => True) start attempt _ :=
    .operation hnetwork trivial (Program.runs_transcript lost
      ((Operation.program python (.startDatabase "source-db")).runFrom
        { start with networkCreated := true }))
  exact ⟨_, hcontainer⟩

def ownLabels (key : String) : Option String :=
  if key = ownerLabel then some runId
  else if key = purposeLabel then some purpose
  else none

def databaseContainer : Resource :=
  ⟨"4f5e6d7c8b9a", database, ownLabels⟩

def foreignContainer : Resource :=
  ⟨"0a1b2c3d4e5f", "inventory-postgres", fun _ => none⟩

def drillNetwork : Resource :=
  ⟨"9a8b7c6d5e4f", start.network, ownLabels⟩

def machine : Machine
  | .container => [databaseContainer, foreignContainer]
  | .network => [drillNetwork]

def withoutContainer : Machine
  | .container => [foreignContainer]
  | .network => [drillNetwork]

def cleaned : Machine
  | .container => [foreignContainer]
  | .network => []

def exited (arguments : List String) (stdout : String) :
    Exchange Request Response :=
  ⟨.docker arguments [] 90, .exited 0 (bytes stdout) ""⟩

def cleaning : Trace :=
  [exited (listArguments .container database) (database ++ "\n"),
    exited ["container", "inspect", database] inspectedText,
    exited (removeArguments .container database) "\n",
    exited (listArguments .network start.network) (start.network ++ "\n"),
    exited ["network", "inspect", start.network] networkText,
    exited (removeArguments .network start.network) "\n"]

/-- What the commands of this cleanup print. -/
def printedBy : List String → String
  | "container" :: "ls" :: _ => database ++ "\n"
  | ["container", "inspect", _] => inspectedText
  | "network" :: "ls" :: _ => start.network ++ "\n"
  | ["network", "inspect", _] => networkText
  | _ => "\n"

def cleanupOracle : (request : Request) → Response request
  | .docker arguments _ _ => .exited 0 (bytes (printedBy arguments)) ""
  | .rounds _ => 1
  | .waitHealth _ => .ok ()

theorem loads_inspectedText :
    python.loadsBytes (bytes inspectedText) = .ok (.array [inspected]) := by
  have hreads : python.loadsBytes = reads := rfl
  rw [hreads, reads, if_pos rfl]

theorem loads_networkText :
    python.loadsBytes (bytes networkText) =
      .ok (.array [.object [("Labels", labels)]]) := by
  have hother : bytes networkText ≠ bytes inspectedText := by decide +kernel
  have hreads : python.loadsBytes = reads := rfl
  rw [hreads, reads, if_neg hother, if_pos rfl]

/-- The name of the only resource of a kind in this drill, and what `inspect`
prints about it. -/
def nameOf : Kind → String
  | .container => database
  | .network => start.network

def textOf : Kind → String
  | .container => inspectedText
  | .network => networkText

theorem decode_line (kind : Kind) :
    (decode (bytes (nameOf kind ++ "\n")) : Except Failure String) =
      .ok (nameOf kind ++ "\n") ∧
    nameOf kind ∈ splitlines (nameOf kind ++ "\n") := by
  have hdecoded : String.fromUTF8? ⟨(bytes (nameOf kind ++ "\n")).toArray⟩ =
      some (nameOf kind ++ "\n") := by
    cases kind <;> decide +kernel
  have hlines : splitlines (nameOf kind ++ "\n") = [nameOf kind] := by
    cases kind <;> decide +kernel
  constructor
  · unfold decode
    rw [hdecoded]
  · rw [hlines]
    exact List.mem_singleton_self _

def itemOf : Kind → JsonValue
  | .container => inspected
  | .network => .object [("Labels", labels)]

theorem owned_item (kind : Kind) :
    ownedItem python attempt.runId kind (nameOf kind) (bytes (textOf kind)) =
      .ok (itemOf kind) := by
  rw [ownedItem_ok]
  refine ⟨.array [itemOf kind], labels, ?_, rfl, ?_, rfl, rfl⟩
  · cases kind with
    | container => exact loads_inspectedText
    | network => exact loads_networkText
  · cases kind <;> rfl

/-- The answers of this cleanup. -/
def answered (exchange : Exchange Request Response) (_ _ : Unit) : Prop :=
  exchange.answer = cleanupOracle exchange.query

theorem answered_docker (stdout : String) {α : Type} {arguments : List String}
    {next : List UInt8 → Drill α} {fixture : Fixture} {history : Trace}
    {post : Except Failure α → Fixture → Assertion Request Response Unit}
    (hprinted : printedBy arguments = stdout)
    (hnext : (next (bytes stdout)).Establishes answered post fixture
      (history ++ [exited arguments stdout]) ()) :
    (docker arguments [] 90 >>= next).Establishes answered post fixture history
      () := by
  rw [Stateful.establishes_bind, establishes_docker]
  intro outcome _ hanswer
  obtain rfl : outcome = .exited 0 (bytes (printedBy arguments)) "" := hanswer
  subst hprinted
  exact hnext

theorem answered_removeOwned (kind : Kind) (history : Trace) :
    (removeOwned python kind (nameOf kind)).Establishes answered
      (fun outcome final trace _ => outcome = .ok ⟨⟩ ∧ attempt = final ∧
        trace = history ++
          [exited (listArguments kind (nameOf kind)) (nameOf kind ++ "\n")] ++
          [exited [kind.word, "inspect", nameOf kind] (textOf kind)] ++
          [exited (removeArguments kind (nameOf kind)) "\n"])
      attempt history () := by
  obtain ⟨hdecoded, hlisted⟩ := decode_line kind
  have hprefix : (attempt.namePrefix ++ "-").toList <+:
      (nameOf kind).toList := by
    cases kind <;> decide +kernel
  have htracks : attempt.tracks kind (nameOf kind) = true := by
    cases kind <;> decide +kernel
  unfold removeOwned owned RecoveryDrill.fixture require
  apply answered_docker (nameOf kind ++ "\n") (by cases kind <;> rfl)
  rw [hdecoded, Stateful.establishes_step_bind, Stateful.either_ok,
    if_neg (not_not.mpr hlisted), Stateful.establishes_bind,
    Stateful.establishes_current_bind, Stateful.establishes_check_bind]
  refine ⟨fun _ => ?_, fun hother => ?_⟩
  · rw [Stateful.establishes_check_bind]
    refine ⟨fun _ => ?_, fun hother => ?_⟩
    · apply answered_docker (textOf kind) (by cases kind <;> rfl)
      rw [owned_item, Stateful.establishes_step, Stateful.either_ok]
      apply answered_docker "\n" (by cases kind <;> rfl)
      exact ⟨rfl, rfl, rfl⟩
    · rw [htracks] at hother
      cases hother
  · rw [decide_eq_true hprefix] at hother
    cases hother

theorem answered_attempted (kind : Kind) (history : Trace) :
    (attempted (nameOf kind) (removeOwned python kind (nameOf kind))).Establishes
      answered
      (fun outcome final trace _ => outcome = .ok [] ∧ attempt = final ∧
        trace = history ++
          [exited (listArguments kind (nameOf kind)) (nameOf kind ++ "\n")] ++
          [exited [kind.word, "inspect", nameOf kind] (textOf kind)] ++
          [exited (removeArguments kind (nameOf kind)) "\n"])
      attempt history () := by
  unfold attempted
  rw [Stateful.establishes_bind, Stateful.establishes_caught]
  apply (answered_removeOwned kind history).mono
  rintro outcome final trace _ ⟨rfl, rfl, rfl⟩
  exact ⟨rfl, rfl, rfl⟩

theorem runs_cleaning :
    ((cleanup python).runFrom attempt).Runs cleaning (.ok [], attempt) := by
  apply @Stateful.runs_of_oracle _ _ _ _ _ attempt (cleanup python)
    cleanupOracle (.ok []) attempt cleaning
  unfold cleanup RecoveryDrill.fixture
  rw [Stateful.establishes_current_bind]
  apply @Stateful.Establishes.bind _ _ _ _ _ _ _ _ _ _ _ _ _
    (fun outcome final trace _ => outcome = .ok [] ∧ attempt = final ∧
      trace = cleaning.take 3)
  · apply Stateful.Establishes.bind (answered_attempted .container [])
    · rintro errors final trace _ ⟨⟨⟩, rfl, rfl⟩
      exact ⟨rfl, rfl, rfl⟩
    · rintro error final trace _ ⟨⟨⟩, -⟩
  · rintro errors final trace _ ⟨⟨⟩, rfl, rfl⟩
    apply Stateful.Establishes.bind (answered_attempted .network _)
    · rintro errors final trace _ ⟨⟨⟩, rfl, rfl⟩
      exact ⟨rfl, rfl, rfl⟩
    · rintro error final trace _ ⟨⟨⟩, -⟩
  · rintro error final trace _ ⟨⟨⟩, -⟩

/-! The machine of this cleanup. -/

theorem exactly_injective (kind : Kind) {first second : String}
    (hsame : exactly kind first = exactly kind second) : first = second := by
  have htexts := congrArg String.toList hsame
  cases kind <;>
    simp only [exactly, String.toList_append, List.append_cancel_right_eq,
      List.append_cancel_left_eq] at htexts <;>
    exact String.toList_inj.mp htexts

theorem effect_of_command (known : Command) {arguments : List String}
    {stdout : String} {before after : Machine}
    (hknown : command arguments = some known)
    (heffect : known.Effect python (.exited 0 (bytes stdout) "") before
      after) :
    machineEffect python (exited arguments stdout) before after := by
  intro other hother
  rw [hknown, Option.some.injEq] at hother
  exact hother ▸ heffect

theorem effect_list (kind : Kind) (machine : Machine) :
    machineEffect python (exited (listArguments kind (nameOf kind))
      (nameOf kind ++ "\n")) machine machine := by
  apply effect_of_command _ command_listArguments
  refine ⟨rfl, ?_⟩
  rintro stdout stderr text name ⟨⟩ htext hfilter -
  obtain ⟨hdecoded, hlisted⟩ := decode_line kind
  rw [hdecoded, Except.ok.injEq] at htext
  rw [← htext, ← exactly_injective kind hfilter]
  exact hlisted

theorem labels_agree : LabelsAgree ownLabels labels := by
  intro key text hlabel
  unfold labels at hlabel
  rw [member_object, lookup_cons, lookup_cons, lookup_nil] at hlabel
  by_cases hpurpose : purposeLabel = key
  · subst hpurpose
    cases hlabel
    rfl
  · by_cases howner : ownerLabel = key
    · subst howner
      cases hlabel
      rfl
    · rw [if_neg hpurpose, if_neg howner] at hlabel
      cases hlabel

theorem effect_inspect (kind : Kind) {machine : Machine} {resource : Resource}
    (hmem : resource ∈ machine kind) (hname : resource.name = nameOf kind)
    (hlabels : resource.labels = ownLabels) :
    machineEffect python (exited [kind.word, "inspect", nameOf kind]
      (textOf kind)) machine machine := by
  apply effect_of_command _ command_inspect
  refine ⟨rfl, ?_⟩
  rintro stdout stderr ⟨⟩
  refine ⟨resource, hmem, hname, ?_⟩
  intro answer rest hloads
  cases kind with
  | container =>
      change python.loadsBytes (bytes inspectedText) = _ at hloads
      rw [loads_inspectedText] at hloads
      cases hloads
      rintro config found ⟨⟩ ⟨⟩
      rw [hlabels]
      exact labels_agree
  | network =>
      change python.loadsBytes (bytes networkText) = _ at hloads
      rw [loads_networkText] at hloads
      cases hloads
      rintro found ⟨⟩
      rw [hlabels]
      exact labels_agree

theorem follows_cleaning :
    Follows (machineEffect python) machine cleaning cleaned := by
  refine ⟨machine, effect_list .container machine, machine,
    effect_inspect .container List.mem_cons_self rfl rfl, withoutContainer, ?_,
    withoutContainer, effect_list .network withoutContainer,
    withoutContainer, effect_inspect .network List.mem_cons_self rfl rfl,
    cleaned, ?_, rfl⟩
  · apply effect_of_command (.remove .container database) rfl
    constructor
    · refine Or.inr ⟨[], databaseContainer, [foreignContainer], rfl, rfl, rfl,
        ?_⟩
      intro other hother
      rw [List.mem_singleton.mp hother]
      decide +kernel
    · intro other hother
      cases other with
      | container => exact absurd rfl hother
      | network => rfl
  · apply effect_of_command (.remove .network start.network) rfl
    constructor
    · exact Or.inr ⟨[], drillNetwork, [], rfl, rfl, rfl, nofun⟩
    · intro other hother
      cases other with
      | container => rfl
      | network => exact absurd rfl hother

end Sample

/-- From every fixture its operations lead to, on every machine, with any
failures: the cleanup returns, removes nothing but tracked resources which
were shown to carry the run's labels, attempts all of them, and reports every
tracked resource that is still there. -/
theorem cleanup_accounts_for_resources {python : Library RuntimeError}
    {runId dbPassword initialRuntimePassword image databaseImage : String}
    {passwords : Passwords} {fixture final : Fixture} {history trace : Trace}
    {outcome : Except Failure (List (String × Failure))}
    {before after : Machine}
    (hreached : Reached python (fun _ => True)
      (Fixture.new runId passwords dbPassword initialRuntimePassword image
        databaseImage) fixture history)
    (hrun : ((cleanup python).runFrom fixture).Runs trace (outcome, final))
    (hworld : Follows (machineEffect python) before trace after) :
    Tracked fixture history ∧
    Lawful (RemovesOwned python fixture) trace ∧
    Cleaned fixture before after ∧
    attempts trace = fixture.listings ∧
    ∃ errors, outcome = .ok errors ∧
      Reports .container fixture.containers after errors ∧
      (fixture.networkCreated = true →
        Reports .network [fixture.network] after errors) ∧
      (errors = [] →
        (∀ resource ∈ after .container,
          resource.name ∉ fixture.containers) ∧
        (fixture.networkCreated = true →
          ∀ resource ∈ after .network, resource.name ≠ fixture.network)) := by
  obtain ⟨errors, houtcome, hswept, hcontainers, hnetwork⟩ :=
    Stateful.establishes_iff.mp establishes_cleanup trace
      outcome final after hrun hworld
  refine ⟨hreached.tracked, hswept.lawful, hswept.cleaned, hswept.attempted,
    errors, houtcome, hcontainers, hnetwork, ?_⟩
  rintro rfl
  constructor
  · intro resource hmem htracked
    obtain ⟨error, herror⟩ := hcontainers _ htracked ⟨resource, hmem, rfl⟩
    cases herror
  · intro hcreated resource hmem hname
    obtain ⟨error, herror⟩ := hnetwork hcreated fixture.network
      (List.mem_singleton_self _) ⟨resource, hmem, hname⟩
    cases herror

theorem cleanup_accounts_for_resources_sample :
    ∃ history, Tracked Sample.attempt history ∧
      Lawful (RemovesOwned Sample.python Sample.attempt) Sample.cleaning ∧
      Cleaned Sample.attempt Sample.machine Sample.cleaned ∧
      attempts Sample.cleaning = Sample.attempt.listings := by
  obtain ⟨history, hreached⟩ := Sample.reached_attempt
  obtain ⟨htracked, hlawful, hcleaned, hattempts, -⟩ :=
    @cleanup_accounts_for_resources Sample.python Sample.runId "owner-secret"
      "initial-secret" "sha256:application" "sha256:postgres"
      ⟨"admin-secret", "customer-secret"⟩ Sample.attempt Sample.attempt history
      Sample.cleaning (.ok []) Sample.machine Sample.cleaned hreached
      Sample.runs_cleaning Sample.follows_cleaning
  exact ⟨history, htracked, hlawful, hcleaned, hattempts⟩

end RecoveryDrill

end InventoryCloud

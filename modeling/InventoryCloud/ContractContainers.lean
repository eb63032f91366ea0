import InventoryCloud.DockerEngine
import InventoryCloud.ImageInspection
import InventoryCloud.ProgramAssertions
import InventoryCloud.PythonTexts
import InventoryCloud.ReleaseGate

/-!
# The containers of a contract extraction

`_extract_contract` on a machine with containers of others: what its Docker
commands can do to them, and that every way through the extraction and its
cleanup leaves at most the container it created itself.
-/

namespace InventoryCloud

namespace ReleaseContract

open Interaction JsonValue Python Docker

/-! ### Docker commands -/

inductive Command where
  | create (name label image : String)
  | copy
  | list (filter : String)
  | inspect (name : String)
  | remove (name : String)

def command : List String → Option Command
  | ["docker", "create", "--name", name, "--network", _, "--label", label,
      "--platform", _, "--entrypoint", _, image] =>
      some (.create name label image)
  | ["docker", "cp", _, _] => some .copy
  | ["docker", "container", "ls", "--all", "--filter", filter, "--format",
      "\x7b\x7b.ID\x7d\x7d"] => some (.list filter)
  | ["docker", "container", "inspect", name] => some (.inspect name)
  | ["docker", "rm", name] => some (.remove name)
  | _ => none

/-- A container as `docker create` makes it: with the given label, besides
those of its image, and not started. -/
structure CreatedAs (name label image : String) (container : Container) :
    Prop where
  named : container.name = name
  labelled : ∀ key value, label = key ++ "=" ++ value → '=' ∉ key.toList →
    container.labels key = some value
  imaged : container.image = image
  stopped : container.isRunning = false

/-- A filter by name lists the containers which have it in their names. -/
def identifiers (name : String) (containers : List Container) : List String :=
  (containers.filter fun container =>
    decide (name.toList <:+: container.name.toList)).map fun container =>
      container.id

def Succeeded (outcome : ProcessOutcome) : Prop :=
  ∃ stdout, outcome = .completed 0 stdout

/-- A command on the containers of the machine. -/
def Command.Effect (python : Library ContractError) (command : Command)
    (outcome : ProcessOutcome) (before after : List Container) : Prop :=
  match command with
  | .create name label image =>
      Makes (fun container : Container => container.name)
        (CreatedAs name label image) (Succeeded outcome) before after
  | .copy => after = before
  | .list filter => after = before ∧
      ∀ stdout name, outcome = .completed 0 stdout → filter = "name=" ++ name →
        (split stdout).Perm (identifiers name before)
  | .inspect name => after = before ∧
      ∀ stdout, outcome = .completed 0 stdout →
        ∃ container ∈ before, container.name = name ∧
          ∀ answer rest, python.loads stdout = .ok (.array (answer :: rest)) →
            container.DescribedBy answer
  | .remove name => Removes (fun container : Container =>
      container.name = name) (Succeeded outcome) before after

def commandOf (exchange : Exchange Request Response) : Option Command :=
  match exchange.query with
  | .process arguments _ _ _ => command arguments
  | _ => none

/-- Only Docker commands concern containers; of other processes than those
above nothing is known. -/
def containerEffect (python : Library ContractError) :
    Exchange Request Response → List Container → List Container → Prop
  | ⟨.process arguments _ _ _, outcome⟩, before, after =>
      ∀ known, command arguments = some known →
        known.Effect python outcome before after
  | _, before, after => after = before

/-! ### What the cleanup has to prove -/

/-- The answer shows one container, with this name, label and image. -/
def Identifies (name ownership imageId : String) (containers : JsonValue) :
    Prop :=
  ∃ found config labels, containers = .array [found] ∧
    found.member "Name" = some (.string ("/" ++ name)) ∧
    found.member "Config" = some config ∧
    config.member "Labels" = some labels ∧
    labels.member ownershipLabel = some (.string ownership) ∧
    found.member "Image" = some (.string imageId)

theorem ownedContainer_ok {name ownership imageId : String}
    {containers : JsonValue} :
    ownedContainer name ownership imageId containers = .ok ⟨⟩ ↔
      Identifies name ownership imageId containers := by
  unfold ownedContainer
  simp only [bind_ok, throw_bind, guard_ok, not_not, subscript_ok]
  constructor
  · rintro ⟨found, hfound, count, hcount, rfl, _, hname, rfl, config, hconfig,
      labels, hlabels, label, hlabel, rfl, image, himage, rfl, -⟩
    have harray : containers = .array [found] := by
      rcases item_of_len_one hcount hfound with harray | ⟨text, rfl⟩
      · exact harray
      · cases hname
    exact ⟨found, config, labels, harray, hname, hconfig, hlabels,
      getOr_string.mp hlabel, getOr_string.mp himage⟩
  · rintro ⟨found, config, labels, rfl, hname, hconfig, hlabels, hlabel,
      himage⟩
    exact ⟨found, rfl, 1, rfl, rfl, _, hname, rfl, config, hconfig, labels,
      hlabels, _, getOr_string.mpr hlabel, rfl, _, getOr_string.mpr himage,
      rfl, rfl⟩

/-- The container this operation creates. -/
abbrev Created (ownership imageId : String) : Container → Prop :=
  CreatedAs ("inventory-contract-" ++ ownership)
    (ownershipLabel ++ "=" ++ ownership) imageId

/-- A container which an inspection cannot tell from the one this operation
creates: it has the generated name, and the label and the image besides. -/
structure Container.IsTwin (ownership imageId : String)
    (container : Container) : Prop where
  named : container.name = "inventory-contract-" ++ ownership
  labelled : container.labels ownershipLabel = some ownership
  imaged : container.image = imageId

/-- A container that is described by an answer which identifies it. -/
theorem isTwin_of_described {ownership imageId : String}
    {container : Container} {found : JsonValue}
    (hdescribed : container.DescribedBy found)
    (hname : container.name = "inventory-contract-" ++ ownership)
    (hidentifies : Identifies ("inventory-contract-" ++ ownership) ownership
      imageId (.array [found])) : Container.IsTwin ownership imageId container := by
  obtain ⟨answer, config, labels, ⟨⟩, -, hconfig, hlabels, hlabel, himage⟩ :=
    hidentifies
  constructor
  · exact hname
  · exact hdescribed.labels config labels hconfig hlabels ownershipLabel
      ownership hlabel
  · exact (hdescribed.image imageId himage).symm

/-- Only known commands, and a removal of nothing but the container that was
inspected right before it and proved to be this operation's. -/
structure Careful (python : Library ContractError)
    (ownership imageId : String) (before : Trace)
    (exchange : Exchange Request Response) : Prop where
  known : ∀ arguments environment inputText timeout, exchange.query =
    .process arguments environment inputText timeout →
      command arguments ≠ none
  removal : ∀ name, commandOf exchange = some (.remove name) →
    name = "inventory-contract-" ++ ownership ∧
    ∃ earlier environment inputText timeout stdout containers,
      before = earlier ++ [ran ["docker", "container", "inspect", name]
        environment inputText timeout stdout] ∧
      python.loads stdout = .ok containers ∧
      Identifies name ownership imageId containers

/-- A Docker command failed, or its answer does not prove the ownership. -/
inductive Inconclusive (python : Library ContractError)
    (ownership imageId : String) : Exchange Request Response → Prop
  | failed {arguments : List String} {environment : Option Environment}
      {inputText : Option String} {timeout : Nat} {outcome : ProcessOutcome} :
      ¬ Succeeded outcome → Inconclusive python ownership imageId
        ⟨.process arguments environment inputText timeout, outcome⟩
  | ambiguous {filter stdout : String} {environment : Option Environment}
      {inputText : Option String} {timeout : Nat} :
      (split stdout).length ≠ 1 → Inconclusive python ownership imageId
        (ran ["docker", "container", "ls", "--all", "--filter", filter,
          "--format", "{{.ID}}"] environment inputText timeout
          stdout)
  | unproven {name stdout : String} {environment : Option Environment}
      {inputText : Option String} {timeout : Nat} :
      (∀ containers, python.loads stdout = .ok containers →
        ¬ Identifies name ownership imageId containers) →
      Inconclusive python ownership imageId
        (ran ["docker", "container", "inspect", name] environment inputText
          timeout stdout)

section

variable (python : Library ContractError) (ownership imageId : String)
  (initial : List Container)

/-- The initial containers, and perhaps the one this operation created. -/
def Present (world : List Container) : Prop :=
  world = initial ∨ ∃ created, Created ownership imageId created ∧
    (∀ other ∈ initial, other.name ≠ created.name) ∧ world = created :: initial

structure Kept (history : Trace) (world : List Container) : Prop where
  careful : Lawful (Careful python ownership imageId) history
  present : Present ownership imageId initial world

/-- The container is left only with an error, for which there is a reason. -/
structure Settled {α : Type} (outcome : Except Failure α) (history : Trace)
    (world : List Container) : Prop extends
    Kept python ownership imageId initial history world where
  excused : world = initial ∨ (∃ error, outcome = .error error) ∧
    ∃ exchange ∈ history, Inconclusive python ownership imageId exchange

end

section

variable {python : Library ContractError} {dockerEnv : Environment}
  {ownership imageId : String} {initial world : List Container}
  {history : Trace}

theorem establishes_docker {arguments : List String} {known : Command}
    {post : Except Failure String → Assertion Request Response
      (List Container)}
    (hknown : command ("docker" :: arguments) = some known) :
    (docker dockerEnv arguments).Establishes (containerEffect python) post
        history world ↔
      ∀ outcome after, known.Effect python outcome world after →
        post (checkedOutput outcome) (history ++ [⟨.process
          ("docker" :: arguments) (some dockerEnv) none 120, outcome⟩])
          after := by
  unfold docker runChecked
  rw [Fallible.establishes_bind, Fallible.establishes_ask]
  constructor
  · intro hpost outcome after heffect
    apply hpost outcome after
    intro other hother
    rw [hknown, Option.some.injEq] at hother
    exact hother ▸ heffect
  · intro hpost outcome after heffect
    exact hpost outcome after (heffect known hknown)

/-- An exchange which leaves the containers alone. -/
theorem Kept.snoc (hkept : Kept python ownership imageId initial history world)
    {exchange : Exchange Request Response}
    (hcareful : Careful python ownership imageId history exchange) :
    Kept python ownership imageId initial (history ++ [exchange]) world :=
  ⟨lawful_snoc.mpr ⟨hkept.careful, hcareful⟩, hkept.present⟩

/-- A known command which leaves the containers alone. -/
theorem Kept.command {arguments : List String}
    {environment : Option Environment} {inputText : Option String}
    {timeout : Nat} (known : Command)
    (hkept : Kept python ownership imageId initial history world)
    (hknown : ReleaseContract.command arguments = some known)
    (hkeeps : ∀ name, known ≠ .remove name) (outcome : ProcessOutcome) :
    Kept python ownership imageId initial (history ++
      [⟨.process arguments environment inputText timeout, outcome⟩])
      world := by
  apply hkept.snoc
  constructor
  · rintro _ _ _ _ ⟨⟩
    rw [hknown]
    nofun
  · intro name hremoval
    have hsame : ReleaseContract.command arguments = some (.remove name) :=
      hremoval
    rw [hknown, Option.some.injEq] at hsame
    exact absurd hsame (hkeeps name)

/-- Queries about files, and copying out of a container. -/
def Quiet : Request → Prop
  | .process arguments _ _ _ => command arguments = some .copy
  | _ => True

/-- Other queries than processes leave the containers alone. -/
theorem Kept.query {exchange : Exchange Request Response}
    (hkept : Kept python ownership imageId initial history world)
    (hother : ∀ arguments environment inputText timeout, exchange.query ≠
      .process arguments environment inputText timeout) :
    Kept python ownership imageId initial (history ++ [exchange]) world := by
  apply hkept.snoc
  constructor
  · intro arguments environment inputText timeout hquery
    exact absurd hquery (hother arguments environment inputText timeout)
  · intro name hremoval
    unfold commandOf at hremoval
    split at hremoval
    · rename_i hquery
      exact absurd hquery (hother _ _ _ _)
    · cases hremoval

theorem quiet_keeps (exchange : Exchange Request Response) (history : Trace)
    (before after : List Container) (hquiet : Quiet exchange.query)
    (heffect : containerEffect python exchange before after)
    (hkept : Kept python ownership imageId initial history before) :
    Kept python ownership imageId initial (history ++ [exchange]) after := by
  obtain ⟨query, answer⟩ := exchange
  cases query with
  | process arguments environment inputText timeout =>
      obtain rfl : after = before := heffect .copy hquiet
      exact hkept.command .copy hquiet nofun answer
  | _ =>
      obtain rfl : after = before := heffect
      exact hkept.query nofun

/-- The ownership could not be decided, so nothing was removed. -/
def Excused (python : Library ContractError) (ownership imageId : String)
    (initial : List Container) (history : Trace) (world : List Container) :
    Prop :=
  Kept python ownership imageId initial history world ∧
    ∃ exchange ∈ history, Inconclusive python ownership imageId exchange

theorem Excused.settled {α : Type} {error : Failure}
    (hexcused : Excused python ownership imageId initial history world) :
    Settled python ownership imageId initial (.error error : Except Failure α)
      history world :=
  ⟨hexcused.1, Or.inr ⟨⟨error, rfl⟩, hexcused.2⟩⟩

/-- The last exchange showed the container, so it is there. -/
structure Proven (python : Library ContractError)
    (ownership imageId : String) (initial : List Container)
    (history : Trace) (world : List Container) : Prop where
  kept : Kept python ownership imageId initial history world
  there : ∃ container ∈ world, Container.IsTwin ownership imageId container
  shown : ∃ earlier environment inputText timeout stdout containers,
    history = earlier ++ [ran ["docker", "container", "inspect",
      "inventory-contract-" ++ ownership] environment inputText timeout
      stdout] ∧
    python.loads stdout = .ok containers ∧
    Identifies ("inventory-contract-" ++ ownership) ownership imageId
      containers

theorem Inconclusive.excuses {exchange : Exchange Request Response}
    (hinconclusive : Inconclusive python ownership imageId exchange)
    (hkept : Kept python ownership imageId initial (history ++ [exchange])
      world) :
    Excused python ownership imageId initial (history ++ [exchange]) world :=
  ⟨hkept, exchange, by simp, hinconclusive⟩

theorem establishes_inspection
    (hkept : Kept python ownership imageId initial history world) :
    (do
      let stdout ← docker dockerEnv
        ["container", "inspect", "inventory-contract-" ++ ownership]
      let containers ← Fallible.step (python.loads stdout)
      Fallible.step (ownedContainer ("inventory-contract-" ++ ownership)
        ownership imageId containers) : Script PUnit).Establishes
      (containerEffect python)
      (Fallible.either
        (fun _ => Proven python ownership imageId initial)
        (fun _ => Excused python ownership imageId initial))
      history world := by
  rw [Fallible.establishes_bind, establishes_docker rfl]
  rintro outcome after ⟨rfl, hdescribed⟩
  have hnext : Kept python ownership imageId initial (history ++ [⟨.process
      ["docker", "container", "inspect", "inventory-contract-" ++ ownership]
      (some dockerEnv) none 120, outcome⟩]) after :=
    hkept.command (.inspect _) rfl nofun outcome
  cases houtcome : checkedOutput outcome with
  | error error =>
      apply Inconclusive.excuses (.failed _) hnext
      rintro ⟨stdout, rfl⟩
      cases houtcome
  | ok stdout =>
      obtain rfl := checkedOutput_ok.mp houtcome
      change (Fallible.step (python.loads stdout) >>= _).Establishes _ _ _ _
      rw [Fallible.establishes_bind, Fallible.establishes_step]
      cases hloads : python.loads stdout with
      | error error =>
          apply Inconclusive.excuses (.unproven _) hnext
          intro containers hcontainers
          rw [hloads] at hcontainers
          cases hcontainers
      | ok containers =>
          change (Fallible.step (ownedContainer _ _ _ containers) :
            Script PUnit).Establishes _ _ _ _
          rw [Fallible.establishes_step]
          cases howned : ownedContainer ("inventory-contract-" ++ ownership)
              ownership imageId containers with
          | error error =>
              apply Inconclusive.excuses (.unproven _) hnext
              intro other hother hidentifies
              rw [hloads, Except.ok.injEq] at hother
              rw [← hother, ← ownedContainer_ok, howned] at hidentifies
              cases hidentifies
          | ok _ =>
              have hidentifies := ownedContainer_ok.mp howned
              obtain ⟨container, hmem, hname, htrue⟩ := hdescribed stdout rfl
              refine ⟨hnext, ⟨container, hmem, ?_⟩, history, _, _, _, stdout,
                containers, rfl, hloads, hidentifies⟩
              have hanswer := hidentifies
              obtain ⟨found, -, -, rfl, -⟩ := hanswer
              exact isTwin_of_described (htrue found [] hloads) hname
                hidentifies

theorem mem_identifiers {name : String} {container : Container}
    (hmem : container ∈ world) (hname : container.name = name) :
    container.id ∈ identifiers name world := by
  apply List.mem_map_of_mem
  rw [List.mem_filter, hname]
  exact ⟨hmem, decide_eq_true List.infix_rfl⟩

/-- The removal after the proof. -/
theorem establishes_removal
    (hfresh : ∀ container ∈ initial,
      ¬ Container.IsTwin ownership imageId container)
    (hproven : Proven python ownership imageId initial history world) :
    (do
      let _ ← docker dockerEnv ["rm", "inventory-contract-" ++ ownership]
      pure ⟨⟩ : Script PUnit).Establishes (containerEffect python)
      (fun cleaned => Settled python ownership imageId initial cleaned)
      history world := by
  have hcreated : ∃ created, Created ownership imageId created ∧
      world = created :: initial := by
    rcases hproven.kept.present with rfl | ⟨created, hcreated, -, hworld⟩
    · obtain ⟨container, hmem, htwin⟩ := hproven.there
      exact absurd htwin (hfresh container hmem)
    · exact ⟨created, hcreated, hworld⟩
  obtain ⟨created, hcreated, rfl⟩ := hcreated
  rw [Fallible.establishes_bind, establishes_docker rfl]
  intro outcome after hremoves
  have hlawful : Lawful (Careful python ownership imageId) (history ++
      [⟨.process ["docker", "rm", "inventory-contract-" ++ ownership]
        (some dockerEnv) none 120, outcome⟩]) := by
    apply lawful_snoc.mpr ⟨hproven.kept.careful, ?_⟩
    constructor
    · rintro _ _ _ _ ⟨⟩
      nofun
    · intro name hremoval
      cases hremoval
      exact ⟨rfl, hproven.shown⟩
  rcases hremoves.of_cons hcreated.named with ⟨rfl, hfailed⟩ | rfl
  · cases houtcome : checkedOutput outcome with
    | error error =>
        exact ((Inconclusive.failed hfailed).excuses
          ⟨hlawful, hproven.kept.present⟩).settled
    | ok stdout => exact absurd ⟨stdout, checkedOutput_ok.mp houtcome⟩ hfailed
  · cases checkedOutput outcome with
    | error error => exact ⟨⟨hlawful, Or.inl rfl⟩, Or.inl rfl⟩
    | ok stdout => exact ⟨⟨hlawful, Or.inl rfl⟩, Or.inl rfl⟩

/-- The cleanup, from wherever the extraction stopped. -/
theorem establishes_removeOwnedContainer
    (hfresh : ∀ container ∈ initial,
      ¬ Container.IsTwin ownership imageId container)
    (hkept : Kept python ownership imageId initial history world) :
    (removeOwnedContainer python ("inventory-contract-" ++ ownership) ownership
      imageId dockerEnv).Establishes (containerEffect python)
      (fun cleaned => Settled python ownership imageId initial cleaned)
      history world := by
  unfold removeOwnedContainer
  rw [Fallible.establishes_bind, establishes_docker rfl]
  rintro outcome after ⟨rfl, hlisted⟩
  have hnext : Kept python ownership imageId initial (history ++ [⟨.process
      ["docker", "container", "ls", "--all", "--filter",
        "name=" ++ ("inventory-contract-" ++ ownership), "--format",
        "\x7b\x7b.ID\x7d\x7d"] (some dockerEnv) none 120, outcome⟩]) after :=
    hkept.command (.list _) rfl nofun outcome
  cases houtcome : checkedOutput outcome with
  | error error =>
      refine ((Inconclusive.failed ?_).excuses hnext).settled
      rintro ⟨stdout, rfl⟩
      cases houtcome
  | ok stdout =>
      obtain rfl := checkedOutput_ok.mp houtcome
      have hperm := hlisted stdout _ rfl rfl
      change (if split stdout = [] then pure ⟨⟩ else _ :
        Script PUnit).Establishes _ _ _ _
      by_cases hempty : split stdout = []
      · rw [if_pos hempty]
        refine ⟨hnext, Or.inl ?_⟩
        rcases hkept.present with rfl | ⟨created, hcreated, -, rfl⟩
        · rfl
        · rw [hempty] at hperm
          have hmem : created.id ∈ identifiers ("inventory-contract-" ++ ownership)
              (created :: initial) :=
            mem_identifiers List.mem_cons_self hcreated.named
          rw [hperm.symm.eq_nil] at hmem
          cases hmem
      · rw [if_neg hempty, Fallible.establishes_bind,
          Fallible.establishes_check]
        by_cases hone : (split stdout).length = 1
        · rw [if_pos (by simpa using hone)]
          change (Fallible.translating _ _ >>= _ : Script PUnit).Establishes
            _ _ _ _
          rw [Fallible.establishes_bind, Fallible.establishes_translating]
          apply (establishes_inspection hnext).mono
          intro proof history world hproof
          cases proof with
          | error error => exact hproof.settled
          | ok _ => exact establishes_removal hfresh hproof
        · rw [if_neg (by simpa using hone)]
          exact ((Inconclusive.ambiguous hone).excuses hnext).settled

/-- The extraction itself: files and `docker cp` leave the containers
alone. -/
theorem establishes_copiedContract {platform output : String}
    (hlawful : Lawful (Careful python ownership imageId) history) :
    (copiedContract python ("inventory-contract-" ++ ownership) ownership
      imageId platform output dockerEnv).Establishes (containerEffect python)
      (fun _ => Kept python ownership imageId initial) history initial := by
  rw [copiedContract_eq, Fallible.establishes_bind, establishes_docker rfl]
  intro outcome after hmakes
  have hpresent : Present ownership imageId initial after := by
    rcases hmakes with ⟨rfl, -⟩ | ⟨created, hcreated, hunnamed, rfl⟩
    · exact Or.inl rfl
    · exact Or.inr ⟨created, hcreated, hunnamed, rfl⟩
  have hkept : Kept python ownership imageId initial history after :=
    ⟨hlawful, hpresent⟩
  have hnext : Kept python ownership imageId initial (history ++ [⟨.process
      ["docker", "create", "--name", "inventory-contract-" ++ ownership,
        "--network", "none", "--label", ownershipLabel ++ "=" ++ ownership,
        "--platform", platform, "--entrypoint", "/bin/true", imageId]
      (some dockerEnv) none 120, outcome⟩]) after :=
    hkept.command (.create _ _ _) rfl nofun outcome
  cases checkedOutput outcome with
  | error error => exact hnext
  | ok stdout =>
      exact (asksOnly_contractCopy rfl trivial trivial trivial trivial :
        (contractCopy python ("inventory-contract-" ++ ownership) output
          dockerEnv).AsksOnly Quiet).establishes quiet_keeps hnext

theorem Settled.query {α : Type} {outcome : Except Failure α}
    {exchange : Exchange Request Response}
    (hsettled : Settled python ownership imageId initial outcome history world)
    (hother : ∀ arguments environment inputText timeout, exchange.query ≠
      .process arguments environment inputText timeout) :
    Settled python ownership imageId initial outcome (history ++ [exchange])
      world := by
  refine ⟨hsettled.toKept.query hother, ?_⟩
  rcases hsettled.excused with hinitial | ⟨herror, reason, hmem, hreason⟩
  · exact Or.inl hinitial
  · exact Or.inr ⟨herror, reason, List.mem_append_left _ hmem, hreason⟩

/-- An error of the first part is one of the whole. -/
theorem Settled.bind {α β : Type} {first : Except Failure α}
    {next : α → Except Failure β}
    (hsettled : Settled python ownership imageId initial first history
      world) :
    Settled python ownership imageId initial (first.bind next) history
      world := by
  refine ⟨hsettled.toKept, ?_⟩
  rcases hsettled.excused with hinitial | ⟨⟨error, rfl⟩, hreason⟩
  · exact Or.inl hinitial
  · exact Or.inr ⟨⟨error, rfl⟩, hreason⟩

/-- Whatever follows an error or a return, a reason to raise is kept. -/
theorem Settled.before {α β : Type} {outcome : Except Failure α}
    {cleaned : Except Failure β}
    (hsettled : Settled python ownership imageId initial outcome history
      world) :
    Settled python ownership imageId initial (cleaned.bind fun _ => outcome)
      history world := by
  refine ⟨hsettled.toKept, ?_⟩
  rcases hsettled.excused with hinitial | ⟨⟨error, rfl⟩, hreason⟩
  · exact Or.inl hinitial
  · right
    cases cleaned with
    | error other => exact ⟨⟨other, rfl⟩, hreason⟩
    | ok value => exact ⟨⟨error, rfl⟩, hreason⟩

theorem establishes_withTemporaryDirectory {stem : String}
    {body : String → Script Members}
    (hkept : Kept python ownership imageId initial history initial)
    (hbody : ∀ temporary history,
      Kept python ownership imageId initial history initial →
      (body temporary).Establishes (containerEffect python)
        (fun outcome => Settled python ownership imageId initial outcome)
        history initial) :
    (withTemporaryDirectory stem body).Establishes (containerEffect python)
      (fun outcome => Settled python ownership imageId initial outcome)
      history initial := by
  unfold withTemporaryDirectory
  rw [Fallible.establishes_bind, Fallible.establishes_ask]
  rintro made after (rfl : after = initial)
  have hmade : Kept python ownership imageId after
      (history ++ [⟨.temporaryDirectory stem, made⟩]) after :=
    hkept.query nofun
  cases made with
  | none => exact ⟨hmade, Or.inl rfl⟩
  | some temporary =>
      change (Fallible.ensuring _ _).Establishes _ _ _ _
      rw [Fallible.establishes_ensuring]
      apply (hbody temporary _ hmade).mono
      intro outcome history world hsettled
      unfold removeDirectory
      rw [Fallible.establishes_bind, Fallible.establishes_ask]
      rintro removed after (rfl : after = world)
      change (Fallible.step (orOSError removed) : Script PUnit).Establishes
        _ _ _ _
      rw [Fallible.establishes_step]
      apply Settled.before
      exact hsettled.query nofun

/-- Provided no container of others has the generated name and the label and
the image of this operation besides: nothing is removed but the container that was just proven to be the one
created here, nothing is started, and the containers are the initial ones,
with at most that container besides, which is left only with an error, after
a failed command or an answer that does not prove the ownership. -/
theorem extraction_leaves_containers {platform : String}
    {final : List Container} {trace : Trace}
    {outcome : Except Failure Members}
    (hrun : (extractContract python imageId platform dockerEnv).run.Runs trace
      outcome)
    (hworld : Follows (containerEffect python) initial trace final)
    (hforeign : ∀ ownership rest, trace = ⟨.uuid4, ownership⟩ :: rest →
      ∀ container ∈ initial,
        ¬ Container.IsTwin ownership imageId container) :
    ∃ ownership rest, trace = ⟨.uuid4, ownership⟩ :: rest ∧
      Lawful (Careful python ownership imageId) trace ∧
      (final = initial ∨
        (∃ created, Created ownership imageId created ∧
          final = created :: initial) ∧
        (∃ error, outcome = .error error) ∧
        ∃ exchange ∈ trace, Inconclusive python ownership imageId
          exchange) := by
  obtain ⟨ownership, rest, rfl, hrest⟩ := hrun
  obtain ⟨between, hbetween, hfollows⟩ := hworld
  obtain rfl : between = initial := hbetween
  have hfresh := hforeign ownership rest rfl
  have hstart : Kept python ownership imageId between
      ([] ++ [⟨.uuid4, ownership⟩]) between :=
    Kept.query ⟨lawful_nil, Or.inl rfl⟩ nofun
  have hestablishes := @establishes_withTemporaryDirectory python ownership
    imageId between _ "inventory-contract-" (fun temporary =>
      Fallible.ensuring
        (copiedContract python ("inventory-contract-" ++ ownership) ownership
          imageId platform (temporary ++ "/release-contract.json") dockerEnv)
        (removeOwnedContainer python ("inventory-contract-" ++ ownership)
          ownership imageId dockerEnv)) hstart
  have hsettled := Fallible.establishes_iff.mp (hestablishes ?_) rest outcome
    final hrest hfollows
  · refine ⟨ownership, rest, rfl, hsettled.careful, ?_⟩
    rcases hsettled.present with hinitial | ⟨created, hcreated, -, hfinal⟩
    · exact Or.inl hinitial
    · exact hsettled.excused.imp_right fun hexcused =>
        ⟨⟨created, hcreated, hfinal⟩, hexcused⟩
  · intro temporary history hkept
    rw [Fallible.establishes_ensuring]
    apply (establishes_copiedContract hkept.careful).mono
    intro outcome history world hkept
    apply (establishes_removeOwnedContainer hfresh hkept).mono
    intro cleaned history world hsettled
    exact hsettled.bind

end

namespace Sample

open ImageVerification.Sample (ownership digest settings containerText listed
  listedText)

def python : Library ContractError :=
  ImageVerification.Sample.library listed listedText

def name : String :=
  "inventory-contract-" ++ ownership

/-- A container as this operation creates it. -/
def container : Container where
  id := "4f5e6d7c8b9a"
  name := name
  labels key := if key = ownershipLabel then some ownership else none
  image := digest 'c'
  isRunning := false

/-- A container of others, with the label and the image of this operation
but another name. -/
def sibling : Container where
  id := "0a1b2c3d4e5f"
  name := "inventory-postgres"
  labels key := if key = ownershipLabel then some ownership else none
  image := digest 'c'
  isRunning := true

def exited (returncode : Int) (arguments : List String) (stdout : String) :
    Exchange Request Response :=
  ⟨.process ("docker" :: arguments) (some settings) none 120,
    .completed returncode stdout⟩

/-- Docker answers as in a release, but may refuse to create. -/
def oracle (returncode : Int) : (request : Request) → Response request
  | .process ("docker" :: "create" :: _) _ _ _ => .completed returncode "\n"
  | request => ImageVerification.Sample.oracle listedText request

def create (returncode : Int) : Exchange Request Response :=
  exited returncode ["create", "--name", name, "--network", "none", "--label",
    ownershipLabel ++ "=" ++ ownership, "--platform", "linux/amd64",
    "--entrypoint", "/bin/true", digest 'c'] "\n"

def path : String :=
  "/tmp/inventory-contract-/release-contract.json"

def copying : Trace :=
  [exited 0 ["cp", name ++ ":/app/release-contract.json", path] "\n",
    ⟨.isSymlink path, some false⟩, ⟨.isFile path, some true⟩,
    ⟨.fileSize path, some 182⟩,
    ⟨.readBytes path, some ImageVerification.Sample.contractBytes⟩]

def cleaning : Trace :=
  [exited 0 ["container", "ls", "--all", "--filter", "name=" ++ name,
      "--format", "\x7b\x7b.ID\x7d\x7d"] "4f5e6d7c8b9a\n",
    exited 0 ["container", "inspect", name] containerText,
    exited 0 ["rm", name] "\n",
    ⟨.removeDirectory "/tmp/inventory-contract-", some ⟨⟩⟩]

/-- The run in which Docker creates the container. -/
def release : Trace :=
  ⟨.uuid4, ownership⟩ ::
    ⟨.temporaryDirectory "inventory-contract-",
      some "/tmp/inventory-contract-"⟩ ::
    create 0 :: (copying ++ cleaning)

/-- The run in which the name is taken. -/
def collision : Trace :=
  ⟨.uuid4, ownership⟩ ::
    ⟨.temporaryDirectory "inventory-contract-",
      some "/tmp/inventory-contract-"⟩ ::
    create 125 :: cleaning

def extraction : Script Members :=
  extractContract python (digest 'c') "linux/amd64" settings

set_option maxRecDepth 10000 in
theorem runs_release :
    extraction.run.Runs release (extraction.run.eval (oracle 0)) :=
  Program.runs_transcript (oracle 0) extraction.run

set_option maxRecDepth 10000 in
theorem runs_collision :
    extraction.run.Runs collision (extraction.run.eval (oracle 125)) :=
  Program.runs_transcript (oracle 125) extraction.run

theorem effect_of_command (known : Command) {arguments : List String}
    {outcome : ProcessOutcome} {before after : List Container}
    {environment : Option Environment} {inputText : Option String}
    {timeout : Nat} (hknown : command arguments = some known)
    (heffect : known.Effect python outcome before after) :
    containerEffect python
      ⟨.process arguments environment inputText timeout, outcome⟩ before
      after := by
  intro other hother
  rw [hknown, Option.some.injEq] at hother
  exact hother ▸ heffect

theorem container_created :
    Created ownership (digest 'c') container where
  named := rfl
  labelled := by
    intro key value hlabel _
    have hvalue : '=' ∉ ownership.toList := by decide
    have hlabelled : '=' ∉ ownershipLabel.toList := by decide
    have hparts : ownershipLabel.toList ++ '=' :: ownership.toList =
        key.toList ++ '=' :: value.toList := by
      have htext := congrArg String.toList hlabel
      simpa [String.toList_append] using htext
    obtain ⟨hkey, -, hvalue⟩ :=
      (List.append_cons_inj_of_notMem hlabelled hvalue).mp hparts
    rw [← String.toList_inj.mp hkey, ← String.toList_inj.mp hvalue]
    rfl
  imaged := rfl
  stopped := rfl

set_option maxRecDepth 10000 in
theorem loads_containerText : python.loads containerText =
    .ok (.array [ImageVerification.Sample.container]) :=
  rfl

theorem container_described {answer : JsonValue} {rest : List JsonValue}
    (hloads : python.loads containerText = .ok (.array (answer :: rest))) :
    container.DescribedBy answer := by
  rw [loads_containerText, Except.ok.injEq, array.injEq, List.cons.injEq]
    at hloads
  obtain ⟨rfl, -⟩ := hloads
  constructor
  · rintro text ⟨⟩
    rfl
  · rintro text ⟨⟩
    rfl
  · rintro config labels ⟨⟩ ⟨⟩ key text hlabel
    by_cases hkey : key = ownershipLabel
    · subst hkey
      cases hlabel
      rfl
    · simp [lookup_cons, Ne.symm hkey] at hlabel

theorem prefix_inj {first second : String}
    (hsame : "name=" ++ first = "name=" ++ second) : first = second := by
  have htext := congrArg String.toList hsame
  simp only [String.toList_append, List.append_cancel_left_eq] at htext
  exact String.toList_inj.mp htext

/-- The cleanup takes the container away and leaves the others. -/
theorem follows_cleaning {others : List Container}
    (hothers : ∀ other ∈ others, ¬ name.toList <:+: other.name.toList) :
    Follows (containerEffect python) (container :: others) cleaning
      others := by
  refine ⟨container :: others, ?_, container :: others, ?_, others, ?_,
    others, rfl, rfl⟩
  · apply effect_of_command (.list ("name=" ++ name)) rfl
    refine ⟨rfl, ?_⟩
    rintro stdout filter ⟨⟩ hfilter
    rw [← prefix_inj hfilter]
    have hsplit : split "4f5e6d7c8b9a\n" = ["4f5e6d7c8b9a"] := by
      decide +kernel
    have hlisted : identifiers name (container :: others) =
        ["4f5e6d7c8b9a"] := by
      have hself : decide (name.toList <:+: container.name.toList) = true :=
        decide_eq_true List.infix_rfl
      unfold identifiers
      rw [List.filter_cons, if_pos hself, List.filter_eq_nil_iff.mpr]
      · rfl
      · intro other hother
        simpa using hothers other hother
    rw [hsplit, hlisted]
  · apply effect_of_command (.inspect name) rfl
    refine ⟨rfl, ?_⟩
    rintro stdout ⟨⟩
    exact ⟨container, List.mem_cons_self, rfl,
      fun answer rest hloads => container_described hloads⟩
  · apply effect_of_command (.remove name) rfl
    refine Or.inr ⟨[], container, others, rfl, rfl, rfl, ?_⟩
    intro other hother hsame
    apply hothers other hother
    rw [hsame]

end Sample

/-- A foreign container with the generated name, and with the label and the
image of this operation as well, is removed although this operation created
none. -/
theorem foreign_twin_is_removed :
    ∃ outcome, Sample.extraction.run.Runs Sample.collision outcome ∧
      Follows (containerEffect Sample.python) [Sample.container]
        Sample.collision [] := by
  refine ⟨_, Sample.runs_collision, [Sample.container], rfl,
    [Sample.container], rfl, [Sample.container], ?_,
    Sample.follows_cleaning nofun⟩
  apply Sample.effect_of_command (.create _ _ _) rfl
  refine Or.inl ⟨rfl, ?_⟩
  rintro ⟨stdout, ⟨⟩⟩

theorem extraction_leaves_containers_sample :
    ∃ ownership rest, Sample.release = ⟨.uuid4, ownership⟩ :: rest ∧
      Lawful (Careful Sample.python ownership
        (ImageVerification.Sample.digest 'c')) Sample.release ∧
      ([Sample.sibling] = [Sample.sibling] ∨
        (∃ created, Created ownership (ImageVerification.Sample.digest 'c')
          created ∧ [Sample.sibling] = [created, Sample.sibling]) ∧
        (∃ error, Sample.extraction.run.eval (Sample.oracle 0) =
          .error error) ∧
        ∃ exchange ∈ Sample.release, Inconclusive Sample.python ownership
          (ImageVerification.Sample.digest 'c') exchange) := by
  apply extraction_leaves_containers Sample.runs_release
  · have hcreated : Makes (fun container : Container => container.name)
        (CreatedAs Sample.name (ownershipLabel ++ "=" ++
          ImageVerification.Sample.ownership)
          (ImageVerification.Sample.digest 'c'))
        (Succeeded (.completed 0 "\n")) [Sample.sibling]
        [Sample.container, Sample.sibling] := by
      refine Or.inr ⟨Sample.container, Sample.container_created, ?_, rfl⟩
      decide +kernel
    refine ⟨_, rfl, _, rfl, _,
      Sample.effect_of_command (.create _ _ _) rfl hcreated, _,
      Sample.effect_of_command .copy rfl rfl, _, rfl, _, rfl, _, rfl, _, rfl,
      Sample.follows_cleaning ?_⟩
    decide +kernel
  · intro ownership rest hrelease container hmem htwin
    obtain ⟨rfl, -⟩ : ImageVerification.Sample.ownership = ownership ∧ _ := by
      simpa [Sample.release] using hrelease
    have hname := htwin.named
    rw [List.mem_singleton.mp hmem] at hname
    revert hname
    decide +kernel

end ReleaseContract

end InventoryCloud

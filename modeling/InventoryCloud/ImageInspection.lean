import InventoryCloud.ReleaseContract

/-!
# What a successful inspection has established

The runs of `inspect_registry_contract` that return: the image was pulled,
Docker answered one image with its identity and platform, and the contract
was read from a container created from that identity.
-/

namespace InventoryCloud

namespace ReleaseContract

open Interaction JsonValue Python

variable {python : Library ContractError} {dockerEnv : Environment}
  {trace : Trace}

/-- A Docker command that succeeded. -/
def dockerRan (dockerEnv : Environment) (arguments : List String)
    (stdout : String) : Exchange Request Response :=
  ran ("docker" :: arguments) (some dockerEnv) none 120 stdout

theorem succeeds_docker {arguments : List String} {stdout : String} :
    (docker dockerEnv arguments).Succeeds trace stdout ↔
      trace = [dockerRan dockerEnv arguments stdout] :=
  succeeds_runChecked

def pullCommand (reference : String) : List String :=
  ["pull", "--platform", "linux/amd64", reference]

def inspectCommand (reference : String) : List String :=
  ["image", "inspect", reference]

/-- The image a `docker image inspect` asks about. -/
def inspectedReference : Request → Option String
  | .process ["docker", "image", "inspect", reference] _ _ _ => some reference
  | _ => none

/-! ### The answer of `docker image inspect` -/

/-- One image with a full identity, for Linux on amd64. -/
structure ValidImage (image : JsonValue) (id : String) : Prop where
  identity : image.member "Id" = some (.string id)
  full : id.toList ∈ imageId.language
  os : image.member "Os" = some (.string "linux")
  architecture : image.member "Architecture" = some (.string "amd64")

theorem str_eq_of_head {value : JsonValue} {first : Char} {rest : List Char}
    (htext : (python.str value).toList = first :: rest)
    (hfirst : first ∉ otherFirstChars) :
    value = .string (String.ofList (first :: rest)) := by
  by_cases hstring : ∃ text, value = .string text
  · obtain ⟨text, rfl⟩ := hstring
    rw [python.str_string] at htext
    rw [← htext, String.ofList_toList]
  · have hother : ∀ text, value ≠ .string text :=
      fun text hvalue => hstring ⟨text, hvalue⟩
    obtain ⟨head, tail, hchars, hhead⟩ := python.str_other value hother
    rw [htext] at hchars
    have hsame : first = head := (List.cons.inj hchars).1
    exact absurd (hsame ▸ hhead) hfirst

theorem platform_ok {os architecture : JsonValue}
    (hplatform : python.str os ++ "/" ++ python.str architecture =
      "linux/amd64") :
    os = .string "linux" ∧ architecture = .string "amd64" := by
  have hchars : (python.str os).toList ++ '/' ::
      (python.str architecture).toList =
        ['l', 'i', 'n', 'u', 'x'] ++ '/' :: ['a', 'm', 'd', '6', '4'] := by
    have htexts := congrArg String.toList hplatform
    simpa [String.toList_append] using htexts
  obtain ⟨hos, -, harchitecture⟩ :=
    (List.append_cons_inj_of_notMem (by decide) (by decide)).mp hchars.symm
  constructor
  · exact str_eq_of_head hos.symm (by decide)
  · exact str_eq_of_head harchitecture.symm (by decide)

theorem inspectedImage_ok {inspected image : JsonValue}
    (hinspected : inspectedImage python "linux/amd64" inspected =
      .ok image) :
    inspected = .array [image] ∧ ∃ id, ValidImage image id := by
  unfold inspectedImage at hinspected
  split at hinspected
  · simp only [bind_ok, subscript_ok, throw_bind, guard_ok, pure_ok]
      at hinspected
    obtain ⟨id, hid, valid, hvalid, hfull, os, hos, architecture,
      harchitecture, hplatform, rfl⟩ := hinspected
    have htrue : valid = true := by simpa using hfull
    rw [htrue] at hvalid
    obtain ⟨text, rfl, htext⟩ := fullmatch_ok.mp hvalid
    obtain ⟨rfl, rfl⟩ := platform_ok (not_not.mp hplatform)
    exact ⟨rfl, text, hid, htext, hos, harchitecture⟩
  · cases hinspected

theorem reportsDigest_ok {reference : String} {image : JsonValue}
    (hreports : reportsDigest reference image = .ok ⟨⟩)
    {digests : List JsonValue}
    (hdigests : image.member "RepoDigests" = some (.array digests)) :
    .string reference ∈ digests := by
  unfold reportsDigest at hreports
  simp only [bind_ok] at hreports
  obtain ⟨listed, hlisted, found, hfound, hguard⟩ := hreports
  cases image with
  | object members =>
      rw [member_object] at hdigests
      have hsame : JsonValue.array digests = listed := by
        simpa [getOr, hdigests] using hlisted
      rw [← hsame] at hfound
      cases found with
      | false => simp [throw_ne_ok] at hguard
      | true => exact isIn_array.mp hfound
  | _ => simp [getOr] at hlisted

theorem inspectedId_ok {image : JsonValue} {id other : String}
    (hvalid : ValidImage image id) (hother : inspectedId image = .ok other) :
    other = id := by
  unfold inspectedId at hother
  rw [bind_ok] at hother
  obtain ⟨value, hvalue, hother⟩ := hother
  rw [subscript_ok, hvalid.identity, Option.some_inj] at hvalue
  rw [← hvalue] at hother
  exact (pure_ok.mp hother).symm

theorem succeeds_inspection {reference : String} {image : JsonValue}
    (hrun : (inspection python reference "linux/amd64" dockerEnv).Succeeds
      trace image) :
    ∃ stdout id,
      trace = [dockerRan dockerEnv (inspectCommand reference) stdout] ∧
        python.loads stdout = .ok (.array [image]) ∧ ValidImage image id := by
  unfold inspection at hrun
  simp only [Fallible.succeeds_translating, Fallible.succeeds_bind,
    Fallible.succeeds_step, succeeds_docker] at hrun
  obtain ⟨stdout, _, _, rfl, rfl, inspected, _, _, rfl, ⟨rfl, hloads⟩, rfl,
    hinspected⟩ := hrun
  obtain ⟨rfl, id, hvalid⟩ := inspectedImage_ok hinspected
  exact ⟨stdout, id, rfl, hloads, hvalid⟩

/-! ### The contract of the container -/

def containerName (ownership : String) : String :=
  "inventory-contract-" ++ ownership

def contractPath (temporary : String) : String :=
  temporary ++ "/release-contract.json"

def createCommand (ownership id : String) : List String :=
  ["create", "--name", containerName ownership, "--network", "none",
    "--label", ownershipLabel ++ "=" ++ ownership, "--platform",
    "linux/amd64", "--entrypoint", "/bin/true", id]

def copyCommand (ownership temporary : String) : List String :=
  ["cp", containerName ownership ++ ":/app/release-contract.json",
    contractPath temporary]

/-- The bytes hold a document which `validate_contract` accepted. -/
def AcceptedBytes (python : Library ContractError) (raw : List UInt8)
    (result : Members) : Prop :=
  ∃ document contract validated,
    python.loadsBytes raw = .ok document ∧
      withHook strictObject document = .ok contract ∧
      validateContract contract = .ok validated ∧
      result = validated ++ [("contract_sha256", .string (python.sha256 raw))]

/-- A container was created from the image `id`, the contract file was copied
out of it, and the bytes read back hold an accepted contract. -/
def ContractRead (python : Library ContractError) (dockerEnv : Environment)
    (id : String) (trace : Trace) (result : Members) : Prop :=
  ∃ ownership temporary createText copyText raw,
    [dockerRan dockerEnv (createCommand ownership id) createText,
      dockerRan dockerEnv (copyCommand ownership temporary) copyText,
      (⟨.readBytes (contractPath temporary), some raw⟩ :
        Exchange Request Response)].Sublist trace ∧
      AcceptedBytes python raw result

theorem acceptedContract_ok {document : JsonValue} {validated : Members}
    (haccepted : acceptedContract document = .ok validated) :
    ∃ contract, withHook strictObject document = .ok contract ∧
      validateContract contract = .ok validated := by
  unfold acceptedContract at haccepted
  exact bind_ok.mp haccepted

theorem succeeds_copiedContract {ownership id temporary : String}
    {result : Members}
    (hrun : (copiedContract python (containerName ownership) ownership id
      "linux/amd64" (contractPath temporary) dockerEnv).Succeeds trace
        result) :
    ∃ createText copyText raw,
      [dockerRan dockerEnv (createCommand ownership id) createText,
        dockerRan dockerEnv (copyCommand ownership temporary) copyText,
        (⟨.readBytes (contractPath temporary), some raw⟩ :
          Exchange Request Response)].Sublist trace ∧
        AcceptedBytes python raw result := by
  unfold copiedContract at hrun
  simp only [Fallible.succeeds_bind, Fallible.succeeds_step,
    Fallible.succeeds_check, Fallible.succeeds_translating,
    Fallible.succeeds_pure, succeeds_docker, succeeds_readBytes, bind_ok,
    existsAndEq, List.nil_append, List.cons_append, true_and] at hrun
  obtain ⟨createText, copyText, symlink, linked, _, found, _, size, measured,
    _, raw, validated, rfl, -, -, -, -, -,
    ⟨document, hdocument, haccepted⟩, rfl⟩ := hrun
  obtain ⟨contract, hcontract, hvalidated⟩ := acceptedContract_ok haccepted
  refine ⟨createText, copyText, raw, ?_, document, contract, validated,
    hdocument, hcontract, hvalidated, rfl⟩
  apply List.Sublist.cons_cons
  apply List.Sublist.cons_cons
  apply List.singleton_sublist.mpr
  simp

theorem succeeds_extractContract {id : String} {result : Members}
    (hrun : (extractContract python id "linux/amd64" dockerEnv).Succeeds trace
      result) :
    ContractRead python dockerEnv id trace result := by
  unfold extractContract at hrun
  rw [Fallible.succeeds_bind] at hrun
  obtain ⟨ownership, first, rest, rfl, -, hrest⟩ := hrun
  obtain ⟨temporary, inner, hinner, rfl⟩ :=
    succeeds_withTemporaryDirectory hrest
  rw [Fallible.succeeds_ensuring] at hinner
  obtain ⟨copied, removed, rfl, hcopied, -⟩ := hinner
  obtain ⟨createText, copyText, raw, hchain, haccepted⟩ :=
    succeeds_copiedContract hcopied
  refine ⟨ownership, temporary, createText, copyText, raw, ?_, haccepted⟩
  have hinner : copied.Sublist (copied ++ removed) :=
    List.sublist_append_left copied removed
  apply (hchain.trans hinner).trans
  apply List.Sublist.trans (List.sublist_append_left _ _)
  apply List.Sublist.trans (List.sublist_cons_self _ _)
  exact List.sublist_append_right first _

/-! ### Where images are inspected

Only `_inspection` asks Docker about an image, so the exchanges about images
are the ones its checks have passed. -/

def NoInspection (query : Request) : Prop :=
  inspectedReference query = none

theorem asksOnly_runChecked {allowed : Request → Prop}
    {arguments : List String} {environment : Option Environment}
    {inputText : Option String} {timeout : Nat}
    (hallowed : allowed (.process arguments environment inputText timeout)) :
    (runChecked arguments environment inputText timeout).AsksOnly allowed :=
  Fallible.AsksOnly.bind (Fallible.AsksOnly.ask hallowed)
    fun _ => Fallible.AsksOnly.step _

theorem asksOnly_withTemporaryDirectory {α : Type}
    {allowed : Request → Prop} {stem : String} {body : String → Script α}
    (hmade : allowed (.temporaryDirectory stem))
    (hremoved : ∀ path, allowed (.removeDirectory path))
    (hbody : ∀ temporary, (body temporary).AsksOnly allowed) :
    (withTemporaryDirectory stem body).AsksOnly allowed := by
  unfold withTemporaryDirectory
  apply Fallible.AsksOnly.bind (Fallible.AsksOnly.ask hmade)
  intro made
  apply Fallible.AsksOnly.bind (Fallible.AsksOnly.step _)
  intro temporary
  apply Fallible.AsksOnly.ensuring (hbody temporary)
  exact Fallible.AsksOnly.bind (Fallible.AsksOnly.ask (hremoved temporary))
    fun _ => Fallible.AsksOnly.step _

theorem noInspection_docker {subcommand : String} {arguments : List String}
    (hsubcommand : subcommand ≠ "image") :
    (docker dockerEnv (subcommand :: arguments)).AsksOnly NoInspection := by
  apply asksOnly_runChecked
  unfold NoInspection inspectedReference
  split
  · rename_i hcommand
    rw [Request.process.injEq, List.cons.injEq, List.cons.injEq] at hcommand
    exact absurd hcommand.1.2.1 hsubcommand
  · rfl

/-- A query about files and the reading of its answer. -/
theorem asksOnly_answered {α : Type} {allowed : Request → Prop}
    {query : Request} {read : Response query → Except Failure α}
    (hquery : allowed query) :
    (Fallible.ask query >>= fun answer => Fallible.step (read answer) :
      Script α).AsksOnly allowed :=
  Fallible.AsksOnly.bind (Fallible.AsksOnly.ask hquery)
    fun _ => Fallible.AsksOnly.step _

/-- What `copiedContract` does once the container is created. -/
def contractCopy (python : Library ContractError)
    (containerName output : String) (dockerEnv : Environment) :
    Script Members := do
  let _ ← docker dockerEnv
    ["cp", containerName ++ ":/app/release-contract.json", output]
  let symlink ← isSymlink output
  Fallible.check (!symlink) notSmallFile
  let file ← isFile output
  Fallible.check file notSmallFile
  let size ← fileSize output
  Fallible.check (decide (size ≤ 16384)) notSmallFile
  let raw ← readBytes output
  let validated ← Fallible.translating (rethrown isValueError
    "The embedded release contract is not valid JSON.")
      (Fallible.step (python.loadsBytes raw >>= acceptedContract))
  pure (validated ++ [("contract_sha256", .string (python.sha256 raw))])

theorem copiedContract_eq
    {containerName ownership imageId platform output : String} :
    copiedContract python containerName ownership imageId platform output
        dockerEnv =
      docker dockerEnv ["create", "--name", containerName, "--network",
        "none", "--label", ownershipLabel ++ "=" ++ ownership, "--platform",
        platform, "--entrypoint", "/bin/true", imageId] >>=
      fun _ => contractCopy python containerName output dockerEnv :=
  rfl

theorem asksOnly_contractCopy {allowed : Request → Prop}
    {containerName output : String}
    (hcopied : allowed (.process
      ["docker", "cp", containerName ++ ":/app/release-contract.json", output]
      (some dockerEnv) none 120))
    (hlinked : allowed (.isSymlink output))
    (hfound : allowed (.isFile output))
    (hmeasured : allowed (.fileSize output))
    (hread : allowed (.readBytes output)) :
    (contractCopy python containerName output dockerEnv).AsksOnly
      allowed := by
  unfold contractCopy
  apply Fallible.AsksOnly.bind (asksOnly_runChecked hcopied)
  intro _
  apply Fallible.AsksOnly.bind (asksOnly_answered hlinked)
  intro symlink
  apply Fallible.AsksOnly.bind (Fallible.AsksOnly.step _)
  intro _
  apply Fallible.AsksOnly.bind (asksOnly_answered hfound)
  intro file
  apply Fallible.AsksOnly.bind (Fallible.AsksOnly.step _)
  intro _
  apply Fallible.AsksOnly.bind (asksOnly_answered hmeasured)
  intro size
  apply Fallible.AsksOnly.bind (Fallible.AsksOnly.step _)
  intro _
  apply Fallible.AsksOnly.bind (asksOnly_answered hread)
  intro raw
  apply Fallible.AsksOnly.bind
    (Fallible.AsksOnly.translating (Fallible.AsksOnly.step _))
  intro validated
  trivial

theorem noInspection_copiedContract
    {name ownership id platform output : String} :
    (copiedContract python name ownership id platform output
      dockerEnv).AsksOnly NoInspection := by
  rw [copiedContract_eq]
  apply Fallible.AsksOnly.bind (noInspection_docker (by decide))
  intro _
  exact asksOnly_contractCopy rfl rfl rfl rfl rfl

theorem noInspection_removeOwnedContainer {name ownership id : String} :
    (removeOwnedContainer python name ownership id dockerEnv).AsksOnly
      NoInspection := by
  unfold removeOwnedContainer
  apply Fallible.AsksOnly.bind (noInspection_docker (by decide))
  intro listed
  split
  · trivial
  · apply Fallible.AsksOnly.bind (Fallible.AsksOnly.step _)
    intro _
    apply Fallible.AsksOnly.bind
    · apply Fallible.AsksOnly.translating
      apply Fallible.AsksOnly.bind (noInspection_docker (by decide))
      intro stdout
      exact Fallible.AsksOnly.bind (Fallible.AsksOnly.step _)
        fun _ => Fallible.AsksOnly.step _
    · intro _
      exact Fallible.AsksOnly.bind (noInspection_docker (by decide))
        fun _ => trivial

theorem noInspection_extractContract {id platform : String} :
    (extractContract python id platform dockerEnv).AsksOnly NoInspection := by
  have huuid : NoInspection .uuid4 := rfl
  have hmade : NoInspection (.temporaryDirectory "inventory-contract-") := rfl
  unfold extractContract
  apply Fallible.AsksOnly.bind (Fallible.AsksOnly.ask huuid)
  intro ownership
  apply asksOnly_withTemporaryDirectory hmade (fun _ => rfl)
  intro temporary
  exact Fallible.AsksOnly.ensuring noInspection_copiedContract
    noInspection_removeOwnedContainer

/-! ### The whole inspection -/

/-- The run of a successful inspection: the pull, the answer about the image,
and then nothing more about images until the contract has been read. -/
theorem succeeds_inspectRegistryContract {reference : String}
    {result : Members}
    (hrun : (inspectRegistryContract python reference dockerEnv).Succeeds
      trace result) :
    ∃ pullText stdout image id rest contract,
      trace = dockerRan dockerEnv (pullCommand reference) pullText ::
        dockerRan dockerEnv (inspectCommand reference) stdout :: rest ∧
      python.loads stdout = .ok (.array [image]) ∧ ValidImage image id ∧
      reportsDigest reference image = .ok ⟨⟩ ∧
      ContractRead python dockerEnv id rest contract ∧
      (∀ exchange ∈ rest, NoInspection exchange.query) ∧
      result = [("image", .string reference), ("image_id", .string id),
        ("platform", .string "linux/amd64")] ++ contract := by
  unfold inspectRegistryContract at hrun
  simp only [Fallible.succeeds_bind, Fallible.succeeds_step,
    Fallible.succeeds_check, Fallible.succeeds_pure, succeeds_docker,
    existsAndEq, List.nil_append, List.cons_append, true_and,
    List.append_nil] at hrun
  obtain ⟨_, pullText, image, inspected, rest, rfl, -, hinspection, _,
    hreports, other, hother, contract, hcontract, rfl⟩ := hrun
  obtain ⟨stdout, id, rfl, hloads, hvalid⟩ := succeeds_inspection hinspection
  have hsame : other = id := inspectedId_ok hvalid hother
  rw [hsame] at hcontract ⊢
  exact ⟨pullText, stdout, image, id, rest, contract, rfl, hloads, hvalid,
    hreports, succeeds_extractContract hcontract,
    noInspection_extractContract.of_succeeds hcontract, rfl⟩

/-- Docker answered with one valid image that passed the test on its
repository digests. -/
def Checked (python : Library ContractError) (reference stdout : String) :
    Prop :=
  ∃ image id, python.loads stdout = .ok (.array [image]) ∧
    ValidImage image id ∧ reportsDigest reference image = .ok ⟨⟩

/-- The answers about images within one inspection are about its reference,
and they are checked. -/
theorem checked_of_mem {reference other stdout : String} {result : Members}
    {anyEnv : Environment}
    (hrun : (inspectRegistryContract python reference dockerEnv).Succeeds
      trace result)
    (hmem : dockerRan anyEnv (inspectCommand other) stdout ∈ trace) :
    other = reference ∧ Checked python reference stdout := by
  obtain ⟨pullText, answered, image, id, rest, contract, rfl, hloads, hvalid,
    hreports, -, hrest, -⟩ := succeeds_inspectRegistryContract hrun
  rcases List.mem_cons.mp hmem with hpull | hmem
  · simp [dockerRan, ran, inspectCommand, pullCommand] at hpull
  · rcases List.mem_cons.mp hmem with hinspect | hmem
    · simp only [dockerRan, ran, inspectCommand, Exchange.mk.injEq,
        Request.process.injEq, List.cons.injEq, true_and, and_true] at hinspect
      obtain ⟨⟨rfl, -⟩, hanswer⟩ := hinspect
      have hsame : stdout = answered := by simpa using hanswer
      subst hsame
      exact ⟨rfl, image, id, hloads, hvalid, hreports⟩
    · have hnone := hrest _ hmem
      simp [NoInspection, dockerRan, ran, inspectCommand,
        inspectedReference] at hnone

/-- Docker answered with one valid image and lists the reference among its
repository digests. -/
def Reported (python : Library ContractError) (reference stdout id : String) :
    Prop :=
  ∃ image digests, python.loads stdout = .ok (.array [image]) ∧
    ValidImage image id ∧
    image.member "RepoDigests" = some (.array digests) ∧
    .string reference ∈ digests

/-- The image was pulled, Docker reported it whenever it was asked about it,
and a contract was read from a container created from the reported identity.
-/
structure Inspected (python : Library ContractError) (trace : Trace)
    (reference : String) (result : Members) : Prop where
  passed : ∃ dockerEnv before pullText stdout id rest contract,
    trace = before ++ dockerRan dockerEnv (pullCommand reference) pullText ::
      dockerRan dockerEnv (inspectCommand reference) stdout :: rest ∧
    Reported python reference stdout id ∧
    ContractRead python dockerEnv id rest contract ∧
    result = [("image", .string reference), ("image_id", .string id),
      ("platform", .string "linux/amd64")] ++ contract
  reported : ∀ dockerEnv stdout,
    dockerRan dockerEnv (inspectCommand reference) stdout ∈ trace →
      ∃ id, Reported python reference stdout id

/-- Wherever Docker answered with an image, its `RepoDigests` is a list. -/
def DigestsListed (python : Library ContractError) (trace : Trace) : Prop :=
  ∀ dockerEnv reference stdout image,
    dockerRan dockerEnv (inspectCommand reference) stdout ∈ trace →
    python.loads stdout = .ok (.array [image]) →
    ∃ digests, image.member "RepoDigests" = some (.array digests)

theorem Checked.reported {reference stdout : String} {anyEnv : Environment}
    (hchecked : Checked python reference stdout)
    (hlisted : DigestsListed python trace)
    (hmem : dockerRan anyEnv (inspectCommand reference) stdout ∈ trace) :
    ∃ id, Reported python reference stdout id := by
  obtain ⟨image, id, hloads, hvalid, hreports⟩ := hchecked
  obtain ⟨digests, hdigests⟩ :=
    hlisted anyEnv reference stdout image hmem hloads
  exact ⟨id, image, digests, hloads, hvalid, hdigests,
    reportsDigest_ok hreports hdigests⟩

theorem ContractRead.append {id : String} {result : Members}
    (hread : ContractRead python dockerEnv id trace result) (after : Trace) :
    ContractRead python dockerEnv id (trace ++ after) result := by
  obtain ⟨ownership, temporary, createText, copyText, raw, hchain, hbytes⟩ :=
    hread
  exact ⟨ownership, temporary, createText, copyText, raw,
    hchain.trans (List.sublist_append_left trace after), hbytes⟩

/-- A part of a run which inspects an image, within a run whose answers about
that image are all checked. -/
theorem Inspected.of_succeeds {reference : String} {result : Members}
    {before part after : Trace}
    (hrun : (inspectRegistryContract python reference dockerEnv).Succeeds part
      result)
    (hlisted : DigestsListed python (before ++ (part ++ after)))
    (hchecked : ∀ anyEnv stdout,
      dockerRan anyEnv (inspectCommand reference) stdout ∈
        before ++ (part ++ after) → Checked python reference stdout) :
    Inspected python (before ++ (part ++ after)) reference result := by
  have hreported : ∀ anyEnv stdout,
      dockerRan anyEnv (inspectCommand reference) stdout ∈
        before ++ (part ++ after) → ∃ id, Reported python reference stdout id :=
    fun anyEnv stdout hmem =>
      (hchecked anyEnv stdout hmem).reported hlisted hmem
  refine ⟨?_, hreported⟩
  obtain ⟨pullText, stdout, image, id, rest, contract, rfl, hloads, hvalid,
    hreports, hread, -, hresult⟩ := succeeds_inspectRegistryContract hrun
  have hmem : dockerRan dockerEnv (inspectCommand reference) stdout ∈
      before ++ (dockerRan dockerEnv (pullCommand reference) pullText ::
        dockerRan dockerEnv (inspectCommand reference) stdout :: rest ++
          after) := by simp
  obtain ⟨digests, hdigests⟩ := hlisted _ reference stdout image hmem hloads
  exact ⟨dockerEnv, before, pullText, stdout, id, rest ++ after, contract,
    rfl, ⟨image, digests, hloads, hvalid, hdigests,
      reportsDigest_ok hreports hdigests⟩, hread.append after, hresult⟩

/-- The result of an inspection names its reference. -/
theorem Inspected.reference_eq {reference other id : String}
    {result contract : Members}
    (hinspected : Inspected python trace reference result)
    (hresult : result = [("image", .string other), ("image_id", .string id),
      ("platform", .string "linux/amd64")] ++ contract) :
    other = reference := by
  obtain ⟨_, _, _, _, _, _, _, -, -, -, hown⟩ := hinspected.passed
  rw [hown] at hresult
  have hhead := (List.cons.inj hresult).1
  simpa using hhead.symm

end ReleaseContract

end InventoryCloud

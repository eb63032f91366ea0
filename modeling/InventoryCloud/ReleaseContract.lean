import InventoryCloud.ProgramTraces
import InventoryCloud.PythonValues

/-!
# Inspecting an embedded release contract

`release_contract.py`: an image is pulled, Docker is asked for its identity,
and the contract file is copied out of a container created from that identity
and validated.  Processes, files and random names are queries, so that every
output and every failure of them is some answer.
-/

namespace InventoryCloud

namespace ReleaseContract

open Interaction JsonValue Python

/-- Compatibility could not be proven. -/
structure ContractError where
  message : String

abbrev Failure := PythonError ContractError

def contractError (message : String) : Failure :=
  .own ⟨message⟩

abbrev Environment := String → Option String

/-- How `subprocess.run` ends: with an `OSError` or a timeout, with output
that is no text, or with the process having exited. -/
inductive ProcessOutcome where
  | couldNotComplete
  | undecodable
  | completed (returncode : Int) (stdout : String)

inductive Request where
  | process (arguments : List String) (environment : Option Environment)
      (inputText : Option String) (timeout : Nat)
  | uuid4
  | temporaryDirectory (stem : String)
  | chmod (path : String) (mode : Nat)
  | isSymlink (path : String)
  | isFile (path : String)
  | fileSize (path : String)
  | readBytes (path : String)
  | removeDirectory (path : String)

/-- An operation on files answers `none` where it raises an `OSError`. -/
abbrev Response : Request → Type
  | .process .. => ProcessOutcome
  | .uuid4 => String
  | .temporaryDirectory _ => Option String
  | .chmod .. => Option PUnit
  | .isSymlink _ => Option Bool
  | .isFile _ => Option Bool
  | .fileSize _ => Option Nat
  | .readBytes _ => Option (List UInt8)
  | .removeDirectory _ => Option PUnit

abbrev Script := Fallible Failure Request Response

abbrev Trace := List (Exchange Request Response)

def orOSError {α : Type} : Option α → Except Failure α
  | some value => .ok value
  | none => .error .osError

def checkedOutput : ProcessOutcome → Except Failure String
  | .couldNotComplete => .error
      (contractError "A required image inspection command could not complete.")
  | .undecodable => .error .valueError
  | .completed returncode stdout =>
      if returncode ≠ 0 then
        .error (contractError
          "A required image inspection command failed; compatibility was not verified.")
      else .ok stdout

def runChecked (arguments : List String) (environment : Option Environment)
    (inputText : Option String) (timeout : Nat) : Script String := do
  let outcome ← Fallible.ask
    (.process arguments environment inputText timeout)
  Fallible.step (checkedOutput outcome)

/-- The process ran and exited with status zero. -/
def ran (arguments : List String) (environment : Option Environment)
    (inputText : Option String) (timeout : Nat) (stdout : String) :
    Exchange Request Response :=
  ⟨.process arguments environment inputText timeout, .completed 0 stdout⟩

theorem checkedOutput_ok {outcome : ProcessOutcome} {stdout : String} :
    checkedOutput outcome = .ok stdout ↔ outcome = .completed 0 stdout := by
  cases outcome with
  | completed returncode text =>
      unfold checkedOutput
      by_cases hzero : returncode = 0 <;> simp [hzero]
  | _ => simp [checkedOutput]

theorem succeeds_runChecked {arguments : List String}
    {environment : Option Environment} {inputText : Option String}
    {timeout : Nat} {trace : Trace} {stdout : String} :
    (runChecked arguments environment inputText timeout).Succeeds trace
        stdout ↔
      trace = [ran arguments environment inputText timeout stdout] := by
  unfold runChecked
  rw [Fallible.succeeds_bind]
  constructor
  · rintro ⟨outcome, first, rest, rfl, hasked, hstep⟩
    rw [Fallible.succeeds_ask] at hasked
    rw [Fallible.succeeds_step, checkedOutput_ok] at hstep
    obtain ⟨rfl, rfl⟩ := hstep
    rw [hasked, List.append_nil]
    rfl
  · rintro rfl
    refine ⟨.completed 0 stdout, [_], [], rfl,
      (Fallible.succeeds_ask _ _ _).mpr rfl, ?_⟩
    exact (Fallible.succeeds_step _ _ _).mpr ⟨rfl, checkedOutput_ok.mpr rfl⟩

def isSymlink (path : String) : Script Bool := do
  let answer ← Fallible.ask (.isSymlink path)
  Fallible.step (orOSError answer)

def isFile (path : String) : Script Bool := do
  let answer ← Fallible.ask (.isFile path)
  Fallible.step (orOSError answer)

def fileSize (path : String) : Script Nat := do
  let answer ← Fallible.ask (.fileSize path)
  Fallible.step (orOSError answer)

def readBytes (path : String) : Script (List UInt8) := do
  let answer ← Fallible.ask (.readBytes path)
  Fallible.step (orOSError answer)

def removeDirectory (path : String) : Script PUnit := do
  let answer ← Fallible.ask (.removeDirectory path)
  Fallible.step (orOSError answer)

/-- `run_checked` of a Docker command with the time limit it has unless told
otherwise. -/
def docker (dockerEnv : Environment) (arguments : List String) :
    Script String :=
  runChecked ("docker" :: arguments) (some dockerEnv) none 120

def withTemporaryDirectory {α : Type} (stem : String)
    (body : String → Script α) : Script α := do
  let made ← Fallible.ask (.temporaryDirectory stem)
  let temporary ← Fallible.step (orOSError made)
  Fallible.ensuring (body temporary) (removeDirectory temporary)

theorem orOSError_ok {α : Type} {answer : Option α} {value : α} :
    orOSError answer = .ok value ↔ answer = some value := by
  cases answer <;> simp [orOSError]

theorem succeeds_readBytes {path : String} {trace : Trace}
    {raw : List UInt8} :
    (readBytes path).Succeeds trace raw ↔
      trace = [⟨.readBytes path, some raw⟩] := by
  simp only [readBytes, Fallible.succeeds_bind, Fallible.succeeds_ask,
    Fallible.succeeds_step, orOSError_ok, existsAndEq, List.append_nil,
    true_and, and_true]

theorem succeeds_removeDirectory {path : String} {trace : Trace}
    {result : PUnit} :
    (removeDirectory path).Succeeds trace result ↔
      trace = [⟨.removeDirectory path, some ⟨⟩⟩] := by
  simp only [removeDirectory, Fallible.succeeds_bind, Fallible.succeeds_ask,
    Fallible.succeeds_step, orOSError_ok, existsAndEq, List.append_nil,
    true_and, and_true]

theorem succeeds_withTemporaryDirectory {α : Type} {stem : String}
    {body : String → Script α} {trace : Trace} {result : α}
    (hrun : (withTemporaryDirectory stem body).Succeeds trace result) :
    ∃ temporary inner, (body temporary).Succeeds inner result ∧
      trace = ⟨.temporaryDirectory stem, some temporary⟩ ::
        (inner ++ [⟨.removeDirectory temporary, some ⟨⟩⟩]) := by
  unfold withTemporaryDirectory at hrun
  simp only [Fallible.succeeds_bind, Fallible.succeeds_ask,
    Fallible.succeeds_step, Fallible.succeeds_ensuring, orOSError_ok,
    succeeds_removeDirectory, existsAndEq, List.nil_append,
    List.cons_append, true_and, and_true] at hrun
  obtain ⟨temporary, inner, rfl, hinner⟩ := hrun
  exact ⟨temporary, inner, hinner, rfl⟩

/-- `except` with a new `ContractError`: the caught exceptions are replaced,
the others pass. -/
def rethrown (caught : Failure → Bool) (message : String) :
    Failure → Failure := fun error =>
  if caught error then contractError message else error

/-- `except (KeyError, TypeError, ValueError)` -/
def isShapeError : Failure → Bool
  | .keyError => true
  | .typeError => true
  | .valueError => true
  | _ => false

/-- `except (KeyError, TypeError, ValueError, IndexError, AttributeError)` -/
def isAnyShapeError : Failure → Bool
  | .indexError => true
  | .attributeError => true
  | error => isShapeError error

/-- `except (ValueError, UnicodeError)` -/
def isValueError : Failure → Bool
  | .valueError => true
  | _ => false

/-! ### The contract document -/

def requiredCapabilities : List String :=
  ["separate-migrations/v1", "restricted-runtime/v1",
    "reservation-idempotency/v1"]

/-- `sorted(REQUIRED_CAPABILITIES)` -/
def sortedCapabilities : List String :=
  ["reservation-idempotency/v1", "restricted-runtime/v1",
    "separate-migrations/v1"]

def sameSet (first second : List String) : Bool :=
  first.all (· ∈ second) && second.all (· ∈ first)

/-- The items of a list of texts. -/
def texts : List JsonValue → Option (List String)
  | [] => some []
  | .string text :: rest => (texts rest).map (text :: ·)
  | _ :: _ => none

def validCapabilities : JsonValue → Bool
  | .array items =>
      match texts items with
      | some capabilities =>
          decide capabilities.Nodup && sameSet capabilities requiredCapabilities
      | none => false
  | _ => false

def validateContract : JsonValue → Except Failure Members
  | .object members =>
      if ¬ sameSet (members.map Prod.fst)
          ["schemaVersion", "service", "capabilities"] then
        .error (contractError
          "The embedded release contract has an unsupported structure.")
      else do
        let contract := JsonValue.object members
        let version ← subscript "schemaVersion" contract
        if version ≠ .integer 1 then
          throw (contractError
            "The embedded release contract schema is unsupported.")
        let service ← subscript "service" contract
        if service ≠ .string "inventory-cloud-service" then
          throw (contractError
            "The embedded contract identifies a different service.")
        let capabilities ← subscript "capabilities" contract
        if ¬ validCapabilities capabilities then
          throw (contractError
            "The image does not declare the exact required migration, runtime, and idempotency capabilities.")
        pure [("schemaVersion", .integer 1),
          ("service", .string "inventory-cloud-service"),
          ("capabilities", .array (sortedCapabilities.map .string))]
  | _ => .error (contractError
      "The embedded release contract has an unsupported structure.")

def strictObject (pairs : Members) : Except Failure JsonValue :=
  if (pairs.map Prod.fst).Nodup then .ok (.object pairs)
  else .error
    (contractError "The embedded contract contains duplicate JSON object keys.")

/-- `json.loads(raw, object_pairs_hook=strict_object)` of a document that
reads as `document`, and the validation of the result.  A document nested
deeper than the interpreter can read does not read as anything: it is one of
the errors of `loads`. -/
def acceptedContract (document : JsonValue) : Except Failure Members := do
  let contract ← withHook strictObject document
  validateContract contract

/-! ### Names of images -/

def isLowerHex (char : Char) : Bool :=
  ('a' ≤ char && char ≤ 'f') || ('0' ≤ char && char ≤ '9')

def isLowerAlnum (char : Char) : Bool :=
  ('a' ≤ char && char ≤ 'z') || ('0' ≤ char && char ≤ '9')

def isRegionChar (char : Char) : Bool :=
  isLowerAlnum char || char == '-'

def isPathSeparator (char : Char) : Bool :=
  char == '.' || char == '_' || char == '/' || char == '-'

open TextPattern in
def imageId : TextPattern :=
  chain [literal "sha256:", times 64 (.one isLowerHex)]

open TextPattern in
/-- The first group of `REGISTRY_IMAGE`. -/
def registryRepository : TextPattern :=
  chain [times 12 (.one isDecimalDigit), literal ".dkr.ecr.",
    several (.one isRegionChar), literal ".amazonaws.com/",
    several (.one isLowerAlnum),
    .many (chain [.one isPathSeparator, several (.one isLowerAlnum)])]

open TextPattern in
def registryImage : TextPattern :=
  chain [registryRepository, literal "@", imageId]

def ownershipLabel : String := "com.inventory.release-contract.operation"

/-! ### Docker -/

def removeError : Failure :=
  contractError
    "Extraction container ownership did not match; no container was removed."

/-- The container that `docker container inspect` answered is the one this
operation created. -/
def ownedContainer (name ownership imageId : String)
    (containers : JsonValue) : Except Failure PUnit := do
  let container ← item 0 containers
  let count ← len containers
  if count ≠ 1 then throw removeError
  let found ← subscript "Name" container
  if found ≠ .string ("/" ++ name) then throw removeError
  let config ← subscript "Config" container
  let labels ← subscript "Labels" config
  let label ← getOr ownershipLabel .null labels
  if label ≠ .string ownership then throw removeError
  let image ← getOr "Image" .null container
  if image ≠ .string imageId then throw removeError

def removeOwnedContainer (python : Library ContractError)
    (name ownership imageId : String) (dockerEnv : Environment) :
    Script PUnit := do
  let listed ← docker dockerEnv ["container", "ls", "--all", "--filter",
    "name=" ++ name, "--format", "\x7b\x7b.ID\x7d\x7d"]
  if split listed = [] then pure ⟨⟩
  else do
    Fallible.check ((split listed).length == 1) (contractError
      "Extraction container ownership is ambiguous; no container was removed.")
    Fallible.translating (rethrown isAnyShapeError
      "Extraction container ownership could not be proven; no container was removed.") do
        let stdout ← docker dockerEnv ["container", "inspect", name]
        let containers ← Fallible.step (python.loads stdout)
        Fallible.step (ownedContainer name ownership imageId containers)
    let _ ← docker dockerEnv ["rm", name]
    pure ⟨⟩

/-- The only image of an answer of `docker image inspect`, if its identity
and platform are what they must be. -/
def inspectedImage (python : Library ContractError)
    (expectedPlatform : String) : JsonValue → Except Failure JsonValue
  | .array [image] => do
      let id ← subscript "Id" image
      let valid ← fullmatch imageId id
      if !valid then throw .valueError
      let os ← subscript "Os" image
      let architecture ← subscript "Architecture" image
      if python.str os ++ "/" ++ python.str architecture ≠ expectedPlatform then
        throw (contractError
          "Image platform does not match the required deployment platform.")
      pure image
  | _ => .error .valueError

def inspection (python : Library ContractError)
    (imageReference expectedPlatform : String) (dockerEnv : Environment) :
    Script JsonValue :=
  Fallible.translating (rethrown isShapeError
    "Docker did not return a valid image identity and platform.") do
      let stdout ← docker dockerEnv ["image", "inspect", imageReference]
      let inspected ← Fallible.step (python.loads stdout)
      Fallible.step (inspectedImage python expectedPlatform inspected)

def notSmallFile : Failure :=
  contractError "The embedded contract must be a small regular JSON file."

/-- The body of the `try` in `_extract_contract`. -/
def copiedContract (python : Library ContractError)
    (containerName ownership imageId expectedPlatform output : String)
    (dockerEnv : Environment) : Script Members := do
  let _ ← docker dockerEnv ["create", "--name", containerName,
    "--network", "none", "--label", ownershipLabel ++ "=" ++ ownership,
    "--platform", expectedPlatform, "--entrypoint", "/bin/true", imageId]
  let _ ← docker dockerEnv
    ["cp", containerName ++ ":/app/release-contract.json", output]
  let symlink ← isSymlink output
  Fallible.check (!symlink) notSmallFile
  let file ← isFile output
  Fallible.check file notSmallFile
  let size ← fileSize output
  Fallible.check (decide (size ≤ 16384)) notSmallFile
  let raw ← readBytes output
  let validated ← Fallible.translating (rethrown isValueError
    "The embedded release contract is not valid JSON.")
      (Fallible.step (python.loadsBytes raw >>= acceptedContract))
  pure (validated ++ [("contract_sha256", .string (python.sha256 raw))])

def extractContract (python : Library ContractError)
    (imageId expectedPlatform : String) (dockerEnv : Environment) :
    Script Members := do
  let ownership ← Fallible.ask .uuid4
  let containerName := "inventory-contract-" ++ ownership
  withTemporaryDirectory "inventory-contract-" fun temporary =>
    Fallible.ensuring
      (copiedContract python containerName ownership imageId expectedPlatform
        (temporary ++ "/release-contract.json") dockerEnv)
      (removeOwnedContainer python containerName ownership imageId dockerEnv)

/-- `image_reference in image.get('RepoDigests', [])`, whatever the type of
that member. -/
def reportsDigest (imageReference : String) (image : JsonValue) :
    Except Failure PUnit := do
  let digests ← getOr "RepoDigests" (.array []) image
  let found ← isIn imageReference digests
  if !found then
    throw (contractError
      "The pulled image does not match the requested repository digest.")

/-- `image['Id']` of an inspected image, which is a text. -/
def inspectedId (image : JsonValue) : Except Failure String := do
  match ← subscript "Id" image with
  | .string id => pure id
  | _ => throw .typeError

def inspectRegistryContract (python : Library ContractError)
    (imageReference : String) (dockerEnv : Environment) :
    Script Members := do
  Fallible.check (registryImage.fullmatch imageReference.toList)
    (contractError "A digest-pinned private ECR image is required.")
  let _ ← docker dockerEnv
    ["pull", "--platform", "linux/amd64", imageReference]
  let image ← inspection python imageReference "linux/amd64" dockerEnv
  Fallible.step (reportsDigest imageReference image)
  let id ← Fallible.step (inspectedId image)
  let contract ← extractContract python id "linux/amd64" dockerEnv
  pure ([("image", .string imageReference), ("image_id", .string id),
    ("platform", .string "linux/amd64")] ++ contract)

end ReleaseContract

end InventoryCloud

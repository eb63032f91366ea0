import InventoryCloud.ReleaseCommands
import InventoryCloud.SecurityGate

/-!
# The scan of a release

`verify-release.sh`, statement by statement: the scanner is fetched and checked
against its published checksum, the packaged application and the image are
scanned, and `check_security_reports.py` decides on the two reports.  A report
file holds what the scan of this run has left in it, since the files are
removed first.
-/

namespace InventoryCloud

namespace ScanScript

open Interaction Shell SecurityReports

/-- `$0`, the arguments and the environment. -/
structure Invocation where
  script : String
  arguments : List String
  environment : String → Option String

def orDefault (missing : String) : Option String → String
  | some text => if text = "" then missing else text
  | none => missing

/-! ### What the script asks -/

inductive Request where
  | echo (text : String)
  | run (arguments : List String) (stdin : String)
  | isFile (path : String)
  /-- `printf … > path` -/
  | write (path text : String)
  /-- A run of the scanner; `path` is its `--output`, or where it prints. -/
  | scan (arguments : List String) (path : String)
  /-- `check_security_reports.py`, on the image id and the report files. -/
  | check (arguments : List String) (imageId : String)
      (dependencies image : Option String)

structure Ended where
  status : Nat
  stdout : String

structure Scanned where
  status : Nat
  /-- What the command left in its file, if there is one. -/
  report : Option String

/-- The Python script broke down outside its checks, or came to their end. -/
inductive Checked where
  | broken (status : Nat) (fails : status ≠ 0)
  | decided (scannedAt jarSha256 : String)

abbrev Answer : Request → Type
  | .echo _ => PUnit
  | .run _ _ => Ended
  | .isFile _ => Bool
  | .write _ _ => Nat
  | .scan _ _ => Scanned
  | .check _ _ _ _ => Checked

abbrev Trace := List (Exchange Request Answer)

/-- How Python reads a report file and prints a JSON value. -/
structure ReportLibrary where
  str : JsonValue → String
  decode : String → Contents
  missing : String

def ReportLibrary.contents (library : ReportLibrary) :
    Option String → Contents
  | some text => library.decode text
  | none => .unreadable library.missing

/-! ### Variables -/

structure State where
  system : String
  machine : String
  hasSha256sum : Bool
  trapped : Bool
  scanTmp : String
  imageId : String
  scanFailed : String
  dependencies : Option String
  image : Option String

def State.initial : State :=
  ⟨"", "", false, false, "", "", "0", none, none⟩

/-- A release asset of the scanner with its SHA256 value. -/
structure Asset where
  name : String
  checksum : String
  deriving DecidableEq, Repr

/-- `case "$(uname -s)-$(uname -m)" in` -/
def assetOf (host : String) : Option Asset :=
  if host = "Linux-x86_64" then
    some ⟨"Linux-64bit",
      "2ae6fe3ee734b7fdf11335663e18c75ea12dccc76062f09f164a3b0f8be4371a"⟩
  else if host = "Darwin-arm64" then
    some ⟨"macOS-ARM64",
      "1caada5e0e2091909357c7525d3aa76f4b660b13821bc143b190c7483e31cc11"⟩
  else none

def State.host (state : State) : String :=
  state.system ++ "-" ++ state.machine

def State.asset (state : State) : Asset :=
  (assetOf state.host).getD ⟨"", ""⟩

section Script

variable (invocation : Invocation)

def imageRef : String :=
  orDefault "inventory-cloud-service-app:latest" invocation.arguments[0]?

def jarFile : String :=
  orDefault "target/inventory-cloud-service-0.0.1-SNAPSHOT.jar"
    invocation.arguments[1]?

def reportDir : String :=
  orDefault "reports/security/latest"
    (invocation.environment "SECURITY_REPORT_DIR")

def trivyVersion : String := "0.74.0"

def tmpDir : String :=
  orDefault "/tmp" (invocation.environment "TMPDIR")

def trivyDir : String :=
  orDefault (tmpDir invocation ++ "/inventory-trivy-" ++ trivyVersion)
    (invocation.environment "TRIVY_INSTALL_DIR")

def trivyCache : String :=
  orDefault (tmpDir invocation ++ "/inventory-trivy-cache")
    (invocation.environment "TRIVY_CACHE_DIR")

def archive : String := trivyDir invocation ++ "/trivy.tar.gz"

def trivy : String := trivyDir invocation ++ "/trivy"

def reportFile (name : String) : String := reportDir invocation ++ "/" ++ name

/-! ### Commands -/

/-- A command whose answer gives its status and what it changes. -/
def asking {S : Type} (query : S → Request)
    (outcome : (state : S) → Answer (query state) → Nat × S) :
    Statement Request Answer S :=
  .command fun state =>
    .ask (query state) fun answer => .pure (outcome state answer)

def run (arguments : State → List String) (stdin : State → String)
    (store : Ended → State → State) : Statement Request Answer State :=
  asking (fun state => .run (arguments state) (stdin state))
    fun state ended => (ended.status, store ended state)

def simply (arguments : State → List String) :
    Statement Request Answer State :=
  run arguments (fun _ => "") fun _ state => state

/-- A command whose status is looked at by the script itself. -/
def probe (arguments : State → List String)
    (store : Ended → State → State) : Statement Request Answer State :=
  asking (fun state => .run (arguments state) "")
    fun state ended => (0, store ended state)

def isFile (path : String) : Statement Request Answer State :=
  asking (fun _ => .isFile path) fun state found =>
    (if found then 0 else 1, state)

def write (path text : State → String) : Statement Request Answer State :=
  asking (fun state => .write (path state) (text state))
    fun state status => (status, state)

def scan (arguments : State → List String) (path : String)
    (store : Option String → State → State) :
    Statement Request Answer State :=
  asking (fun state => .scan (arguments state) path)
    fun state scanned => (scanned.status, store scanned.report state)

/-- `echo … >&2; exit 1` -/
def refuse (message : String) : Statement Request Answer State :=
  .sequence (asking (fun _ => .echo message) fun state _ => (0, state))
    (.exit 1)

/-- `|| scan_failed=1` -/
def orFailed (command : Statement Request Answer State) :
    Statement Request Answer State :=
  .orElse command (note fun state => { state with scanFailed := "1" })

/-! ### The arguments -/

def scanArgs (state : State) : List String :=
  ["--cache-dir", trivyCache invocation, "--config",
    state.scanTmp ++ "/config.yaml", "--ignorefile",
    state.scanTmp ++ "/ignore", "--timeout", "15m", "--disable-telemetry",
    "--skip-version-check", "--no-progress", "--ignore-unfixed=false",
    "--severity", "UNKNOWN,LOW,MEDIUM,HIGH,CRITICAL",
    "--skip-db-update=false", "--skip-java-db-update=false"]

def rootfsArguments (state : State) : List String :=
  [trivy invocation, "rootfs"] ++ scanArgs invocation state ++
    ["--scanners", "vuln", "--pkg-types", "library", "--list-all-pkgs",
      "--format", "json", "--output", reportFile invocation "dependencies.json",
      state.scanTmp]

def imageArguments (state : State) : List String :=
  [trivy invocation, "image"] ++ scanArgs invocation state ++
    ["--image-src", "docker", "--scanners", "vuln", "--list-all-pkgs",
      "--format", "json", "--output", reportFile invocation "image.json",
      state.imageId]

def convertArguments : List String :=
  [trivy invocation, "convert", "--format", "cyclonedx", "--output",
    reportFile invocation "sbom.cdx.json", reportFile invocation "image.json"]

def versionArguments : List String :=
  [trivy invocation, "--cache-dir", trivyCache invocation, "version",
    "--format", "json"]

def curlArguments (state : State) : List String :=
  ["curl", "--fail", "--silent", "--show-error", "--location", "--retry", "3",
    "https://github.com/aquasecurity/trivy/releases/download/v" ++
      trivyVersion ++ "/trivy_" ++ trivyVersion ++ "_" ++ state.asset.name ++
        ".tar.gz",
    "--output", archive invocation ++ ".partial"]

def checksumArguments (state : State) : List String :=
  if state.hasSha256sum then ["sha256sum", "-c", "-"]
  else ["shasum", "-a", "256", "-c", "-"]

/-- `printf '%s  %s\n' "$checksum" "$archive"` -/
def checksumLine (state : State) : String :=
  state.asset.checksum ++ "  " ++ archive invocation ++ "\n"

def tarArguments : List String :=
  ["tar", "-xzf", archive invocation, "-C", trivyDir invocation, "trivy"]

def inspectArguments : List String :=
  ["docker", "image", "inspect", imageRef invocation, "--format",
    "\x7b\x7b.Id\x7d\x7d"]

def applicationJar (state : State) : String :=
  state.scanTmp ++ "/application.jar"

def checkArguments (state : State) : List String :=
  ["python3", "scripts/check_security_reports.py", reportDir invocation,
    applicationJar state, imageRef invocation, state.scanFailed]

/-! ### Lines 4 to 36 -/

/-- `cd "$(dirname "$0")/.."` -/
def enterRoot : Statement Request Answer State :=
  .command fun state =>
    .ask (.run ["dirname", invocation.script] "") fun directory =>
      .ask (.run ["cd", substituted directory.stdout ++ "/.."] "") fun ended =>
        .pure (ended.status, state)

def preparePhase : List (Statement Request Answer State) :=
  [enterRoot invocation,
    simply fun _ => ["mkdir", "-p", reportDir invocation, trivyDir invocation,
      trivyCache invocation],
    simply fun _ => ["rm", "-f", reportFile invocation "dependencies.json",
      reportFile invocation "image.json",
      reportFile invocation "sbom.cdx.json",
      reportFile invocation "summary.json"],
    .orElse (isFile (jarFile invocation))
      (refuse ("Build the application JAR before scanning: " ++
        jarFile invocation)),
    probe (fun _ => ["uname", "-s"]) fun ended state =>
      { state with system := substituted ended.stdout },
    probe (fun _ => ["uname", "-m"]) fun ended state =>
      { state with machine := substituted ended.stdout },
    .orElse (test fun state => (assetOf state.host).isSome)
      (refuse "Supported scanner hosts: Linux x86_64 and macOS ARM64."),
    .whenTrue (.negate (isFile (archive invocation)))
      (.sequence (simply (curlArguments invocation))
        (simply fun _ => ["mv", archive invocation ++ ".partial",
          archive invocation])),
    probe (fun _ => ["command", "-v", "sha256sum"]) fun ended state =>
      { state with hasSha256sum := ended.status == 0 },
    run checksumArguments (checksumLine invocation) fun _ state => state,
    simply fun _ => tarArguments invocation]

/-! ### Lines 38 to 66 -/

def scanPhase : List (Statement Request Answer State) :=
  [run (fun _ => ["mktemp", "-d"]) (fun _ => "") fun ended state =>
      { state with scanTmp := substituted ended.stdout },
    note fun state => { state with trapped := true },
    write (fun state => state.scanTmp ++ "/config.yaml")
      fun _ => "\x7b\x7d\n",
    write (fun state => state.scanTmp ++ "/ignore") fun _ => "",
    simply fun state => ["cp", jarFile invocation, applicationJar state],
    run (fun _ => inspectArguments invocation) (fun _ => "")
      fun ended state => { state with imageId := substituted ended.stdout },
    .orElse (test fun state =>
        ReleaseCommands.imageDigest.fullmatch state.imageId.toList)
      (refuse "Docker did not return a valid image ID."),
    write (fun _ => reportFile invocation "image-id.json")
      fun state => "\"" ++ state.imageId ++ "\"\n",
    orFailed (scan (rootfsArguments invocation)
      (reportFile invocation "dependencies.json")
      fun report state => { state with dependencies := report }),
    orFailed (scan (imageArguments invocation)
      (reportFile invocation "image.json")
      fun report state => { state with image := report })]

/-- `[[ -s "$report_dir/image.json" ]]` -/
def State.hasImageReport (state : State) : Bool :=
  state.image.any fun text => text ≠ ""

/-- What the Python script is given. -/
def checkInputs (library : ReportLibrary) (state : State)
    (scannedAt jarSha256 : String) : Inputs where
  scannedAt := scannedAt
  image := imageRef invocation
  imageId := .string state.imageId
  jarSha256 := jarSha256
  scanFailed := state.scanFailed
  contents
    | .dependencies => library.contents state.dependencies
    | .image => library.contents state.image

def checkOutcome (library : ReportLibrary) (state : State) : Checked → Nat
  | .broken status _ => status
  | .decided scannedAt jarSha256 =>
      exitStatus (checkSecurityReports library.str
        (checkInputs invocation library state scannedAt jarSha256))

def checkReports (library : ReportLibrary) :
    Statement Request Answer State :=
  asking (fun state => .check (checkArguments invocation state) state.imageId
      state.dependencies state.image)
    fun state checked => (checkOutcome invocation library state checked, state)

def decidePhase (library : ReportLibrary) :
    List (Statement Request Answer State) :=
  [.whenTrue (test State.hasImageReport)
      (orFailed (scan (fun _ => convertArguments invocation)
        (reportFile invocation "sbom.cdx.json") fun _ state => state)),
    -- The other branch of the same condition: the conversion does not write
    -- the report of the image.
    .whenTrue (.negate (test State.hasImageReport))
      (note fun state => { state with scanFailed := "1" }),
    scan (fun _ => versionArguments invocation)
      (reportFile invocation "scanner.json") fun _ state => state,
    checkReports invocation library]

def body (library : ReportLibrary) : Statement Request Answer State :=
  .sequence (Statement.block (preparePhase invocation))
    (.sequence (Statement.block (scanPhase invocation))
      (Statement.block (decidePhase invocation library)))

/-- The `EXIT` trap, set once there is a directory to remove. -/
def cleanup (state : State) (status : Nat) : Program Request Answer Nat :=
  if state.trapped then
    .ask (.run ["rm", "-rf", state.scanTmp] "") fun removed =>
      .pure (if removed.status = 0 then status else removed.status)
  else .pure status

/-- The script, with its exit status. -/
def verifyRelease (library : ReportLibrary) : Program Request Answer Nat :=
  (body invocation library).exec false State.initial >>= fun outcome =>
    cleanup outcome.2 outcome.1.status

end Script

end ScanScript

end InventoryCloud

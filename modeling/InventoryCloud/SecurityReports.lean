import InventoryCloud.Counters
import InventoryCloud.PythonValues

/-!
# The security reports of a release

`check_security_reports.py`: the packages and the severities of two scanner
reports are counted into a summary, and the summary decides whether the release
may go on.  An exception which the script does not catch ends it before the
summary is written.
-/

namespace InventoryCloud

namespace SecurityReports

open JsonValue Python

/-- The text of an `OSError` or a `ValueError` of reading a report. -/
structure LoadFault where
  message : String

abbrev Raised := PythonError LoadFault

/-- What a report file holds. -/
inductive Contents where
  | unreadable (message : String)
  | notJson (message : String)
  /-- JSON on which the reader raises a `RecursionError`. -/
  | nestedTooDeeply
  | json (value : JsonValue)

def load : Contents → Except Raised JsonValue
  | .unreadable message => .error (.own ⟨message⟩)
  | .notJson message => .error (.own ⟨message⟩)
  | .nestedTooDeeply => .error .otherError
  | .json value => .ok value

/-! ### Counting -/

/-- A key of a dictionary: equal numbers are one key, and `True` is the number
1. -/
inductive DictKey where
  | none
  | number (value : Rat)
  | nonFinite (name : NonFinite)
  | text (text : String)
  deriving DecidableEq

def dictKey : JsonValue → Except Raised DictKey
  | .null => .ok .none
  | .bool value => .ok (.number (if value then 1 else 0))
  | .integer value => .ok (.number value)
  | .decimal value => .ok (.number value)
  | .nonFinite name => .ok (.nonFinite name)
  | .string text => .ok (.text text)
  | .array _ => .error .typeError
  | .object _ => .error .typeError

abbrev Counts := List (DictKey × Nat)

/-- `len(r.get("Packages", []))` -/
def packageCount (found : JsonValue) : Except Raised Nat := do
  let packages ← getOr "Packages" (.array []) found
  len packages

/-- `r.get("Vulnerabilities", [])`, as it is gone through. -/
def vulnerabilities (found : JsonValue) : Except Raised (List JsonValue) := do
  let listed ← getOr "Vulnerabilities" (.array []) found
  iterate listed

/-- `v.get("Severity", "UNKNOWN")` as a key of the counter. -/
def severityKey (vulnerability : JsonValue) : Except Raised DictKey := do
  let severity ← getOr "Severity" (.string "UNKNOWN") vulnerability
  dictKey severity

/-- `str` is Python's function of that name. -/
def imagePlatform (str : JsonValue → String) (data : JsonValue) :
    Except Raised String := do
  let metadata ← getOr "Metadata" (.object []) data
  let config ← getOr "ImageConfig" (.object []) metadata
  let os ← getOr "os" (.string "unknown") config
  let architecture ← getOr "architecture" (.string "unknown") config
  pure (str os ++ "/" ++ str architecture)

inductive ReportName where
  | dependencies
  | image
  deriving DecidableEq

structure Reading where
  packages : Nat
  bySeverity : Counts
  platform : Option String

def platformOf (str : JsonValue → String) (data : JsonValue) :
    ReportName → Except Raised (Option String)
  | .dependencies => .ok none
  | .image => do
      let platform ← imagePlatform str data
      pure (some platform)

def readReport (str : JsonValue → String) (name : ReportName)
    (contents : Contents) : Except Raised Reading := do
  let data ← load contents
  let results ← getOr "Results" (.array []) data
  let found ← iterate results
  let packages ← found.mapM packageCount
  let findings ← found.mapM vulnerabilities
  let platform ← platformOf str data name
  let keys ← findings.flatten.mapM severityKey
  pure ⟨packages.sum, Counter.ofList keys, platform⟩

/-! ### The summary -/

inductive ReportEntry where
  | counted (packages : Nat) (bySeverity : Counts)
  | error (message : String)

def ReportEntry.bySeverity : ReportEntry → Counts
  | .counted _ bySeverity => bySeverity
  | .error _ => []

/-- `summary`; `passed` is set at the end. -/
structure Summary where
  scannedAt : String
  image : String
  imageId : JsonValue
  jarSha256 : String
  blockingSeverities : List String
  ignoreUnfixed : Bool
  scanErrors : Bool
  reports : List (ReportName × ReportEntry)
  platform : Option String
  passed : Bool

/-- What the script is given and reads before the reports. -/
structure Inputs where
  scannedAt : String
  image : String
  imageId : JsonValue
  jarSha256 : String
  scanFailed : String
  contents : ReportName → Contents

def initialSummary (inputs : Inputs) : Summary where
  scannedAt := inputs.scannedAt
  image := inputs.image
  imageId := inputs.imageId
  jarSha256 := inputs.jarSha256
  blockingSeverities := ["HIGH", "CRITICAL"]
  ignoreUnfixed := false
  scanErrors := inputs.scanFailed != "0"
  reports := []
  platform := none
  passed := false

/-- `except (OSError, ValueError) as exc`, with `str(exc)`. -/
def caughtMessage : Raised → Option String
  | .own fault => some fault.message
  | .osError => some ""
  | .valueError => some ""
  | _ => none

def Summary.addReading (summary : Summary) (name : ReportName)
    (reading : Reading) : Summary :=
  { summary with
    scanErrors := summary.scanErrors || reading.packages == 0
    reports :=
      summary.reports ++ [(name, .counted reading.packages reading.bySeverity)]
    platform := reading.platform.or summary.platform }

def Summary.addError (summary : Summary) (name : ReportName)
    (message : String) : Summary :=
  { summary with
    scanErrors := true
    reports := summary.reports ++ [(name, .error message)] }

/-- The loop body for one report. -/
def addReport (str : JsonValue → String) (inputs : Inputs)
    (name : ReportName) (summary : Summary) : Except Raised Summary :=
  match readReport str name (inputs.contents name) with
  | .ok reading => .ok (summary.addReading name reading)
  | .error error =>
      match caughtMessage error with
      | some message => .ok (summary.addError name message)
      | none => .error error

/-- Some report counts a blocking severity. -/
def Summary.blocked (summary : Summary) : Bool :=
  summary.reports.any fun report =>
    summary.blockingSeverities.any fun severity =>
      Counter.get (.text severity) report.2.bySeverity != 0

def Summary.decided (summary : Summary) : Summary :=
  { summary with passed := !summary.scanErrors && !summary.blocked }

/-- The summary which is written, or the exception that ends the script. -/
def checkSecurityReports (str : JsonValue → String) (inputs : Inputs) :
    Except Raised Summary := do
  let first ← addReport str inputs .dependencies (initialSummary inputs)
  let second ← addReport str inputs .image first
  pure second.decided

def exitStatus : Except Raised Summary → Nat
  | .ok summary => if summary.passed then 0 else 1
  | .error _ => 1

end SecurityReports

end InventoryCloud

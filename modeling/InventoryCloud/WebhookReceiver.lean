import InventoryCloud.PythonTexts
import InventoryCloud.ThreadAssertions

/-!
# The webhook receiver

The requests to the private Alertmanager receiver, each in a thread of its
own: what `sanitize_notification` keeps of a payload, and the handlers around
the list of events and its lock.  Reading the body, the clock, the lock, the
list and the answer are exchanges with the server.
-/

namespace InventoryCloud

namespace WebhookReceiver

open Interaction JsonValue Python

def maxBodyBytes : ℕ := 65536

def maxEvents : ℕ := 64

/-- A `ValueError` of `sanitize_notification` itself. -/
structure Rejection where
  message : String

abbrev Raised := PythonError Rejection

structure Interpreter where
  /-- `json.loads` of bytes -/
  loads : List UInt8 → Except Raised JsonValue
  /-- `datetime.fromisoformat`, whose result is not used. -/
  fromisoformat : String → Except Raised Unit

/-! ### What is kept of a notification -/

section Sanitize

variable (interpreter : Interpreter) (runId : String)

def reject {α : Type} (message : String) : Except Raised α :=
  throw (.own ⟨message⟩)

/-- `value in ("firing", "resolved")` -/
def isStatus (value : JsonValue) : Bool :=
  decide (value = .string "firing") || decide (value = .string "resolved")

def isHexDigit (char : Char) : Bool :=
  char ∈ "0123456789abcdef".toList

def isFingerprint : JsonValue → Bool
  | .string text => text.toList.length == 16 && text.toList.all isHexDigit
  | _ => false

def checkTimestamp (alert : JsonValue) (field : String) :
    Except Raised Unit := do
  let timestamp ← getOr field .null alert
  match timestamp with
  | .string text =>
      if 40 < text.toList.length then reject "Invalid alert timestamp"
      else interpreter.fromisoformat (replaceChar 'Z' "+00:00" text)
  | _ => reject "Invalid alert timestamp"

/-- One round of the loop over the alerts. -/
def sanitizeAlert (alert : JsonValue) : Except Raised JsonValue := do
  let labels ← getOr "labels" (.object []) alert
  let alertname ← getOr "alertname" .null labels
  let drillRun ← getOr "drill_run" .null labels
  if ¬ (alertname = .string "InventoryReadinessFailed" ∧
      drillRun = .string runId) then
    reject "Alert does not belong to this drill"
  else do
    let status ← getOr "status" .null alert
    if ¬ isStatus status then reject "Unexpected alert status"
    else do
      let fingerprint ← getOr "fingerprint" (.string "") alert
      if ¬ isFingerprint fingerprint then
        reject "Invalid alert fingerprint"
      else do
        checkTimestamp interpreter alert "startsAt"
        checkTimestamp interpreter alert "endsAt"
        let status ← subscript "status" alert
        let startsAt ← getOr "startsAt" .null alert
        let endsAt ← getOr "endsAt" .null alert
        let alertname ← subscript "alertname" labels
        pure (.object [("status", status), ("fingerprint", fingerprint),
          ("starts_at", startsAt), ("ends_at", endsAt),
          ("alertname", alertname), ("drill_run", .string runId)])

/-- The moment is that of `datetime.now`, which the handler hands over. -/
def sanitizeNotification (receivedAt : String) (payload : JsonValue) :
    Except Raised JsonValue :=
  match payload with
  | .object members =>
      if (lookup "receiver" members).getD .null ≠ .string "drill-webhook" then
        reject "Unexpected notification receiver"
      else if ¬ isStatus ((lookup "status" members).getD .null) then
        reject "Unexpected notification status"
      else
        match (lookup "alerts" members).getD .null with
        | .array alerts =>
            if ¬ (1 ≤ alerts.length ∧ alerts.length ≤ 10) then
              reject "Unexpected alert count"
            else do
              let clean ← alerts.mapM (sanitizeAlert interpreter runId)
              let status ← subscript "status" payload
              pure (.object [("received_at", .string receivedAt),
                ("status", status), ("alerts", .array clean)])
        | _ => reject "Unexpected alert count"
  | _ => reject "Unexpected notification receiver"

end Sanitize

/-! ### The handlers -/

inductive Query where
  /-- `self.rfile.read(length)` -/
  | read (length : ℕ)
  | now
  | acquire
  | release
  | events
  | append (event : JsonValue)
  | respond (code : ℕ) (payload : JsonValue)

def Answer : Query → Type
  | .read _ => List UInt8
  | .now => String
  | .events => List JsonValue
  | _ => Unit

abbrev Handler := Fallible Raised Query Answer

def perform (query : Query) : Handler (Answer query) :=
  Fallible.ask query

def acquire : Handler Unit :=
  perform .acquire

def release : Handler Unit :=
  perform .release

def append (event : JsonValue) : Handler Unit :=
  perform (.append event)

def respond (code : ℕ) (payload : JsonValue) : Handler Unit :=
  perform (.respond code payload)

def errorPayload (message : String) : JsonValue :=
  .object [("error", .string message)]

/-- `with self.server.event_lock:` -/
def withLock {α : Type} (body : Handler α) : Handler α := do
  acquire
  Fallible.ensuring body release

def doGet (path : String) : Handler Unit :=
  if path = "/health" then
    respond 200 (.object [("status", .string "UP")])
  else if path = "/events" then
    withLock do
      let events ← perform .events
      respond 200 (.object [("events", .array events)])
  else respond 404 (errorPayload "Not found")

/-- The exceptions which `do_POST` answers with 400. -/
def isCaught : Raised → Bool
  | .valueError => true
  | .typeError => true
  | .attributeError => true
  | .own _ => true
  | _ => false

/-- Whether the notification was appended to the events. -/
def retain (notification : JsonValue) : Handler Bool :=
  withLock do
    let events ← perform .events
    if maxEvents ≤ events.length then do
      respond 429 (errorPayload "Notification limit reached")
      pure false
    else do
      append notification
      pure true

section Post

variable (interpreter : Interpreter) (runId : String)

/-- The body of the `try` statement. -/
def receive (contentLength : Option String) : Handler Unit := do
  let length ← Fallible.step (intOfText (contentLength.getD "0"))
  if ¬ (0 < length ∧ length ≤ maxBodyBytes) then
    respond 413 (errorPayload "Invalid request size")
  else do
    let data ← perform (.read length.toNat)
    let payload ← Fallible.step (interpreter.loads data)
    let receivedAt ← perform .now
    let notification ← Fallible.step
      (sanitizeNotification interpreter runId receivedAt payload)
    let retained ← retain notification
    if retained then respond 200 (.object [("accepted", .bool true)])
    else pure ()

def doPost (path : String) (contentLength : Option String) : Handler Unit :=
  if path ≠ "/webhook" then respond 404 (errorPayload "Not found")
  else
    Fallible.catching (receive interpreter runId contentLength) fun error =>
      if isCaught error then
        respond 400 (errorPayload "Invalid notification")
      else throw error

/-- A request line, with the `Content-Length` header of a POST. -/
inductive Request where
  | get (path : String)
  | post (path : String) (contentLength : Option String)

def handle : Request → Program Query Answer (Except Raised Unit)
  | .get path => (doGet path).run
  | .post path contentLength =>
      (doPost interpreter runId path contentLength).run

end Post

/-! ### The server -/

structure Server where
  events : List JsonValue
  /-- The thread which holds `event_lock`. -/
  holder : Option ℕ

/-- What an exchange of a thread does; the bytes of a body and the clock come
from outside. -/
def effect (thread : ℕ) :
    Exchange Query Answer → Server → Server → Prop
  | ⟨.acquire, _⟩, before, after =>
      before.holder = none ∧ after = { before with holder := some thread }
  | ⟨.release, _⟩, before, after => after = { before with holder := none }
  | ⟨.events, answer⟩, before, after =>
      answer = before.events ∧ after = before
  | ⟨.append event, _⟩, before, after =>
      after = { before with events := before.events ++ [event] }
  | ⟨.read length, data⟩, before, after =>
      List.length data ≤ length ∧ after = before
  | ⟨.now, _⟩, before, after => after = before
  | ⟨.respond _ _, _⟩, before, after => after = before

end WebhookReceiver

end InventoryCloud

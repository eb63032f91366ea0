import InventoryCloud.WebhookReceiver

/-!
# The fields of a retained notification

What `sanitize_notification` returns has the fields that the drill needs and
no others, and each of them has one of few forms.
-/

namespace InventoryCloud

namespace WebhookReceiver

open JsonValue Python

section

variable (interpreter : Interpreter) (runId : String)

def statuses : List String :=
  ["firing", "resolved"]

/-- A text that `fromisoformat` reads once a `Z` is written as an offset. -/
def IsTimestamp (text : String) : Prop :=
  text.toList.length ≤ 40 ∧
    interpreter.fromisoformat (replaceChar 'Z' "+00:00" text) = .ok ()

def IsAlert (value : JsonValue) : Prop :=
  ∃ status fingerprint startsAt endsAt,
    value = .object [("status", .string status),
      ("fingerprint", .string fingerprint), ("starts_at", .string startsAt),
      ("ends_at", .string endsAt),
      ("alertname", .string "InventoryReadinessFailed"),
      ("drill_run", .string runId)] ∧
    status ∈ statuses ∧ fingerprint.toList.length = 16 ∧
    (∀ char ∈ fingerprint.toList, char ∈ "0123456789abcdef".toList) ∧
    IsTimestamp interpreter startsAt ∧ IsTimestamp interpreter endsAt

def IsNotification (value : JsonValue) : Prop :=
  ∃ receivedAt status alerts,
    value = .object [("received_at", .string receivedAt),
      ("status", .string status), ("alerts", .array alerts)] ∧
    status ∈ statuses ∧ 1 ≤ alerts.length ∧ alerts.length ≤ 10 ∧
    ∀ alert ∈ alerts, IsAlert interpreter runId alert

end

variable {interpreter : Interpreter} {runId : String}

end WebhookReceiver

end InventoryCloud

import InventoryCloud.ReceiverRetention

/-!
# The events of the receiver

Each handler, followed through its exchanges with those of the other threads
in between, and what that says of every run of the server.
-/

namespace InventoryCloud

namespace WebhookReceiver

open Interaction JsonValue Python

/-! ### What a request may have led to -/

/-- A POST appends at most one event and promises no other. -/
def Answered (history : List (Exchange Query Answer)) : Prop :=
  Refused history ∨ Pending history ∨ Granted history

section

variable (interpreter : Interpreter) (runId : String)

/-- The whole list of events, as an answer. -/
def ShowsEvents (answer : ℕ × JsonValue) : Prop :=
  ∃ events, answer = (200, .object [("events", .array events)]) ∧
    events.length ≤ maxEvents ∧
    ∀ event ∈ events, IsNotification interpreter runId event

/-- A GET appends nothing and shows retained events only. -/
structure Shown (path : String) (history : List (Exchange Query Answer)) :
    Prop where
  nothing : appended history = []
  shows : path = "/events" →
    ∀ answer ∈ answers history, ShowsEvents interpreter runId answer

def Ended : Request → Except Raised Unit → Assertion Query Answer Server
  | .get path, _, history, _ => Shown interpreter runId path history
  | .post _ _, _, history, _ => Refused history ∨ Granted history

end

variable {interpreter : Interpreter} {runId path : String} {thread : ℕ}
  {history : List (Exchange Query Answer)} {server : Server}

/-! ### POST -/

theorem Shown.quiet (hshown : Shown interpreter runId path history)
    (exchange : Exchange Query Answer) (happended : appendedBy exchange = none)
    (hanswered : path = "/events" → ∀ answer,
      answeredBy exchange = some answer →
        ShowsEvents interpreter runId answer) :
    Shown interpreter runId path (history ++ [exchange]) := by
  constructor
  · rw [appended_append, hshown.nothing, happended]
    rfl
  · intro hpath answer hanswer
    rw [answers_append, List.mem_append, Option.mem_toList] at hanswer
    rcases hanswer with hbefore | hnow
    · exact hshown.shows hpath answer hbefore
    · exact hanswered hpath answer hnow

abbrev Running :=
  Threads ℕ Request Query Answer (Except Raised Unit) Server

/-- The server of `main`, before its first request. -/
def started : Running :=
  ⟨fun _ => none, ⟨[], none⟩⟩

/-- The events are those which the threads have appended. -/
def Attributed (running : Running) : Prop :=
  ∀ event, event ∈ running.world.events ↔
    ∃ thread current, running.running thread = some current ∧
      event ∈ appended current.history

theorem effect_events {exchange : Exchange Query Answer}
    {before after : Server} (heffect : effect thread exchange before after) :
    after.events = before.events ++ (appendedBy exchange).toList := by
  have hnothing (hsame : after.events = before.events) :
      after.events = before.events ++ [] := by
    rw [hsame, List.append_nil]
  obtain ⟨query, answer⟩ := exchange
  cases query with
  | append event => exact congrArg Server.events heffect
  | acquire =>
      obtain ⟨-, rfl⟩ := heffect
      exact hnothing rfl
  | release =>
      cases heffect
      exact hnothing rfl
  | events => exact hnothing (congrArg Server.events heffect.2)
  | read length => exact hnothing (congrArg Server.events heffect.2)
  | now => exact hnothing (congrArg Server.events heffect)
  | respond code payload => exact hnothing (congrArg Server.events heffect)

theorem Attributed.move {running next : Running}
    (hattributed : Attributed running)
    (hmove : (discipline interpreter runId).Move running next) :
    Attributed next := by
  intro event
  cases hmove with
  | begins thread request hfree =>
      rw [Threads.exists_set_iff, Threads.set_world, hattributed event]
      constructor
      · rintro ⟨owner, current, hcurrent, hevent⟩
        have hne : owner ≠ thread := by
          intro hsame
          rw [hsame, hfree] at hcurrent
          cases hcurrent
        exact Or.inr ⟨owner, current, hne, hcurrent, hevent⟩
      · rintro (hnew | ⟨owner, current, -, hcurrent, hevent⟩)
        · cases hnew
        · exact ⟨owner, current, hcurrent, hevent⟩
  | @exchanges thread request history query rest answer after hthread heffect =>
      rw [Threads.exists_set_iff, Threads.set_world,
        effect_events heffect, List.mem_append, hattributed event,
        appended_append, List.mem_append]
      constructor
      · rintro (⟨owner, current, hcurrent, hevent⟩ | hnow)
        · rcases eq_or_ne owner thread with rfl | hne
          · rw [hthread, Option.some.injEq] at hcurrent
            subst hcurrent
            exact Or.inl (Or.inl hevent)
          · exact Or.inr ⟨owner, current, hne, hcurrent, hevent⟩
        · exact Or.inl (Or.inr hnow)
      · rintro ((hbefore | hnow) | ⟨owner, current, -, hcurrent, hevent⟩)
        · exact Or.inl ⟨thread, _, hthread, hbefore⟩
        · exact Or.inr hnow
        · exact Or.inl ⟨owner, current, hcurrent, hevent⟩

namespace Sample

def payload : JsonValue :=
  .object [("receiver", .string "drill-webhook"), ("status", .string "firing"),
    ("externalURL", .string "http://internal"),
    ("alerts", .array [.object [
      ("labels", .object [("alertname", .string "InventoryReadinessFailed"),
        ("drill_run", .string "run"), ("customer_id", .string "secret")]),
      ("status", .string "firing"), ("fingerprint", .string "0123456789abcdef"),
      ("startsAt", .string "2026-01-01T00:00:00Z"),
      ("endsAt", .string "2026-01-01T00:05:00Z")]])]

/-- The payload as it is sent. -/
def chunks : List String :=
  ["\x7b\"receiver\": \"drill-webhook\", ", "\"status\": \"firing\", ",
    "\"externalURL\": \"http://internal\", ", "\"alerts\": [\x7b\"labels\": ",
    "\x7b\"alertname\": \"InventoryReadinessFailed\", ",
    "\"drill_run\": \"run\", ", "\"customer_id\": \"secret\"\x7d, ",
    "\"status\": \"firing\", ", "\"fingerprint\": \"0123456789abcdef\", ",
    "\"startsAt\": \"2026-01-01T00:00:00Z\", ",
    "\"endsAt\": \"2026-01-01T00:05:00Z\"\x7d]\x7d"]

def data : List UInt8 :=
  (chunks.flatMap String.toList).map fun char => char.toNat.toUInt8

def python : Interpreter where
  loads := fun bytes =>
    if bytes = data then .ok payload else .error .valueError
  fromisoformat := fun text =>
    if text = "2026-01-01T00:00:00+00:00" ∨
        text = "2026-01-01T00:05:00+00:00" then .ok ()
    else .error .valueError

def moment : String :=
  "2026-01-01T00:05:01+00:00"

def event : JsonValue :=
  .object [("received_at", .string moment), ("status", .string "firing"),
    ("alerts", .array [.object [("status", .string "firing"),
      ("fingerprint", .string "0123456789abcdef"),
      ("starts_at", .string "2026-01-01T00:00:00Z"),
      ("ends_at", .string "2026-01-01T00:05:00Z"),
      ("alertname", .string "InventoryReadinessFailed"),
      ("drill_run", .string "run")]])]

def request : Request :=
  .post "/webhook" (some "320")

def trace : List (Exchange Query Answer) :=
  [⟨.read 320, data⟩, ⟨.now, moment⟩, ⟨.acquire, ()⟩, ⟨.events, []⟩,
    ⟨.append event, ()⟩, ⟨.release, ()⟩,
    ⟨.respond 200 (.object [("accepted", .bool true)]), ()⟩]

theorem sanitize_payload :
    sanitizeNotification python "run" moment payload = .ok event := rfl

theorem retain_succeeds : (retain event).Succeeds
    [⟨.acquire, ()⟩, ⟨.events, []⟩, ⟨.append event, ()⟩, ⟨.release, ()⟩]
      true := by
  unfold retain withLock
  refine (Fallible.succeeds_bind _ _ _ _).mpr ⟨(), [_], _, rfl,
    (Fallible.succeeds_ask _ _ _).mpr rfl, ?_⟩
  refine (Fallible.succeeds_ensuring _ _ _ _).mpr ⟨[_, _], [_], rfl, ?_,
    (Fallible.succeeds_ask _ _ _).mpr rfl⟩
  refine (Fallible.succeeds_bind _ _ _ _).mpr ⟨[], [_], _, rfl,
    (Fallible.succeeds_ask _ _ _).mpr rfl, ?_⟩
  rw [if_neg (by decide)]
  exact (Fallible.succeeds_bind _ _ _ _).mpr ⟨(), [_], [], rfl,
    (Fallible.succeeds_ask _ _ _).mpr rfl,
    (Fallible.succeeds_pure _ _ _).mpr ⟨rfl, rfl⟩⟩

theorem receive_succeeds :
    (receive python "run" (some "320")).Succeeds trace () := by
  have hlength : intOfText "320" = (.ok 320 : Except Raised Int) := rfl
  have hload : python.loads data = .ok payload := by simp [python]
  unfold receive
  refine (Fallible.succeeds_bind _ _ _ _).mpr ⟨320, [], _, rfl,
    (Fallible.succeeds_step _ _ _).mpr ⟨rfl, hlength⟩, ?_⟩
  rw [if_neg (by decide)]
  refine (Fallible.succeeds_bind _ _ _ _).mpr ⟨data, [_], _, rfl,
    (Fallible.succeeds_ask _ _ _).mpr rfl, ?_⟩
  refine (Fallible.succeeds_bind _ _ _ _).mpr ⟨payload, [], _, rfl,
    (Fallible.succeeds_step _ _ _).mpr ⟨rfl, hload⟩, ?_⟩
  refine (Fallible.succeeds_bind _ _ _ _).mpr ⟨moment, [_], _, rfl,
    (Fallible.succeeds_ask _ _ _).mpr rfl, ?_⟩
  refine (Fallible.succeeds_bind _ _ _ _).mpr ⟨event, [], _, rfl,
    (Fallible.succeeds_step _ _ _).mpr ⟨rfl, sanitize_payload⟩, ?_⟩
  refine (Fallible.succeeds_bind _ _ _ _).mpr ⟨true, [_, _, _, _], [_], rfl,
    retain_succeeds, ?_⟩
  rw [if_pos rfl]
  exact (Fallible.succeeds_ask _ _ _).mpr rfl

theorem runs_trace :
    (handle python "run" request).Runs trace (.ok ()) := by
  have hreceive := receive_succeeds
  unfold Fallible.Succeeds at hreceive
  exact (Program.runs_bind _ _ _ _).mpr
    ⟨_, trace, [], (List.append_nil _).symm, hreceive, rfl, rfl⟩

/-- The request above is answered, and nothing else runs. -/
def answered : Running :=
  started.set 0 ⟨request, trace, .pure (.ok ())⟩ ⟨[event], none⟩

end Sample

end WebhookReceiver

end InventoryCloud

import InventoryCloud.NotificationFields

/-!
# What the receiver retains

The discipline of the threads of the receiver: only the holder of the lock
appends to the events, after it has seen that there is room, and only a
sanitized notification.  Every handler secures its part on its own, so the
events stay bounded and sanitized whatever the requests are and however their
threads interleave.
-/

namespace InventoryCloud

namespace WebhookReceiver

open Interaction JsonValue Python

/-! ### The discipline -/

/-- What the lock gives its holder. -/
structure Undisturbed (thread : ℕ) (before after : Server) : Prop where
  held : before.holder = some thread →
    after.holder = some thread ∧ after.events = before.events
  other : before.holder ≠ some thread → after.holder ≠ some thread

theorem Undisturbed.refl (thread : ℕ) (server : Server) :
    Undisturbed thread server server :=
  ⟨fun hheld => ⟨hheld, rfl⟩, id⟩

theorem Undisturbed.trans {thread : ℕ} {first second third : Server}
    (hfirst : Undisturbed thread first second)
    (hsecond : Undisturbed thread second third) :
    Undisturbed thread first third := by
  constructor
  · intro hheld
    obtain ⟨hbetween, hevents⟩ := hfirst.held hheld
    obtain ⟨hafter, hlater⟩ := hsecond.held hbetween
    exact ⟨hafter, hlater.trans hevents⟩
  · intro hother
    exact hsecond.other (hfirst.other hother)

section

variable (interpreter : Interpreter) (runId : String)

structure Retains (server : Server) : Prop where
  bounded : server.events.length ≤ maxEvents
  sanitized : ∀ event ∈ server.events,
    IsNotification interpreter runId event

/-- What one exchange of a handler may do. -/
structure Permitted (thread : ℕ) (before after : Server) : Prop where
  events : after.events = before.events ∨
    (before.holder = some thread ∧ before.events.length < maxEvents ∧
      ∃ event, IsNotification interpreter runId event ∧
        after.events = before.events ++ [event])
  holder : after.holder = before.holder ∨
    (before.holder = none ∧ after.holder = some thread) ∨
    (before.holder = some thread ∧ after.holder = none)

variable {interpreter runId}

theorem Permitted.refl (thread : ℕ) (server : Server) :
    Permitted interpreter runId thread server server :=
  ⟨Or.inl rfl, Or.inl rfl⟩

theorem Permitted.retains {thread : ℕ} {before after : Server}
    (hpermitted : Permitted interpreter runId thread before after)
    (hretains : Retains interpreter runId before) :
    Retains interpreter runId after := by
  rcases hpermitted.events with hsame | ⟨-, hroom, event, hevent, hafter⟩
  · exact ⟨by rw [hsame]; exact hretains.bounded,
      by rw [hsame]; exact hretains.sanitized⟩
  · constructor
    · rw [hafter, List.length_append, List.length_singleton]
      omega
    · intro kept hkept
      rw [hafter, List.mem_append, List.mem_singleton] at hkept
      rcases hkept with hold | rfl
      · exact hretains.sanitized kept hold
      · exact hevent

theorem Permitted.undisturbed {thread other : ℕ} {before after : Server}
    (hne : other ≠ thread)
    (hpermitted : Permitted interpreter runId other before after) :
    Undisturbed thread before after := by
  have hforeign : before.holder = some thread → before.holder ≠ some other := by
    intro hheld hsame
    rw [hheld, Option.some.injEq] at hsame
    exact hne hsame.symm
  constructor
  · intro hheld
    constructor
    · rcases hpermitted.holder with hsame | ⟨hnone, -⟩ | ⟨hother, -⟩
      · rw [hsame, hheld]
      · rw [hnone] at hheld
        cases hheld
      · exact absurd hother (hforeign hheld)
    · rcases hpermitted.events with hsame | ⟨hother, -⟩
      · exact hsame
      · exact absurd hother (hforeign hheld)
  · intro hfree
    rcases hpermitted.holder with hsame | ⟨-, hother⟩ | ⟨-, hnone⟩
    · rwa [hsame]
    · rw [hother]
      intro hsame
      exact hne (Option.some.inj hsame)
    · rw [hnone]
      exact nofun

variable (interpreter runId) in
def discipline :
    Discipline ℕ Request Query Answer (Except Raised Unit) Server where
  program := handle interpreter runId
  effect := effect
  Valid := Retains interpreter runId
  May := Permitted interpreter runId
  Rely := Undisturbed
  valid_of_may := Permitted.retains
  rely_of_may := Permitted.undisturbed
  rely_refl := Undisturbed.refl
  rely_trans := Undisturbed.trans

/-! ### The rules of the exchanges -/

variable {thread : ℕ} {during : List (Exchange Query Answer) → Prop}
  {history : List (Exchange Query Answer)} {server : Server}

/-- An exchange which leaves the server as it is. -/
theorem secures_quiet {query : Query}
    {post : Except Raised (Answer query) → Assertion Query Answer Server}
    (hquiet : ∀ answer before after,
      effect thread ⟨query, answer⟩ before after → after = before)
    (hduring : during history)
    (hpost : ∀ answer later, Retains interpreter runId later →
      Undisturbed thread server later →
      effect thread ⟨query, answer⟩ later later →
        post (.ok answer) (history ++ [⟨query, answer⟩]) later) :
    (perform query).Secures (discipline interpreter runId) thread during post
      history server := by
  refine Fallible.secures_ask.mpr ⟨hduring, ?_⟩
  intro later answer after hvalid hrely heffect
  have hsame := hquiet answer later after heffect
  subst hsame
  exact ⟨Permitted.refl thread after, hpost answer after hvalid hrely heffect⟩

end

/-! ### What a thread has done -/

def appendedBy : Exchange Query Answer → Option JsonValue
  | ⟨.append event, _⟩ => some event
  | _ => none

/-- The events a thread has appended. -/
def appended (history : List (Exchange Query Answer)) : List JsonValue :=
  history.filterMap appendedBy

def answeredBy : Exchange Query Answer → Option (ℕ × JsonValue)
  | ⟨.respond code payload, _⟩ => some (code, payload)
  | _ => none

/-- The answers a thread has given to its request. -/
def answers (history : List (Exchange Query Answer)) :
    List (ℕ × JsonValue) :=
  history.filterMap answeredBy

def Accepted (history : List (Exchange Query Answer)) : Prop :=
  ∃ payload, (200, payload) ∈ answers history

variable {history : List (Exchange Query Answer)}
  {exchange : Exchange Query Answer}

theorem appended_append :
    appended (history ++ [exchange]) =
      appended history ++ (appendedBy exchange).toList := by
  unfold appended
  rw [List.filterMap_append]
  cases happended : appendedBy exchange <;> simp [happended]

theorem answers_append :
    answers (history ++ [exchange]) =
      answers history ++ (answeredBy exchange).toList := by
  unfold answers
  rw [List.filterMap_append]
  cases hanswered : answeredBy exchange <;> simp [hanswered]

theorem accepted_append :
    Accepted (history ++ [exchange]) ↔
      Accepted history ∨ ∃ payload, answeredBy exchange = some (200, payload) := by
  simp only [Accepted, answers_append, List.mem_append, Option.mem_toList,
    exists_or]

/-- Nothing appended, and no promise that it was. -/
structure Refused (history : List (Exchange Query Answer)) : Prop where
  nothing : appended history = []
  unpromised : ¬ Accepted history

/-- One event appended, and the answer still due. -/
structure Pending (history : List (Exchange Query Answer)) : Prop where
  one : (appended history).length = 1
  unpromised : ¬ Accepted history

structure Granted (history : List (Exchange Query Answer)) : Prop where
  one : (appended history).length = 1
  promised : Accepted history

theorem Refused.quiet (hrefused : Refused history)
    (exchange : Exchange Query Answer) (happended : appendedBy exchange = none)
    (hanswered : ∀ payload, answeredBy exchange ≠ some (200, payload)) :
    Refused (history ++ [exchange]) := by
  constructor
  · rw [appended_append, hrefused.nothing, happended]
    rfl
  · rw [accepted_append]
    rintro (hbefore | ⟨payload, hnow⟩)
    · exact hrefused.unpromised hbefore
    · exact hanswered payload hnow

theorem Refused.answer (hrefused : Refused history) {code : ℕ}
    (hcode : code ≠ 200) (payload : JsonValue) :
    Refused (history ++ [⟨.respond code payload, ()⟩]) := by
  apply hrefused.quiet _ rfl
  intro other hsame
  have hpair : (code, payload) = (200, other) := Option.some.inj hsame
  exact hcode (congrArg Prod.fst hpair)

theorem Refused.append (hrefused : Refused history) (event : JsonValue) :
    Pending (history ++ [⟨.append event, ()⟩]) := by
  constructor
  · rw [appended_append, hrefused.nothing]
    rfl
  · rw [accepted_append]
    rintro (hbefore | ⟨payload, hnow⟩)
    · exact hrefused.unpromised hbefore
    · cases hnow

theorem Pending.release (hpending : Pending history) :
    Pending (history ++ [⟨.release, ()⟩]) := by
  constructor
  · rw [appended_append]
    simpa [appendedBy] using hpending.one
  · rw [accepted_append]
    rintro (hbefore | ⟨payload, hnow⟩)
    · exact hpending.unpromised hbefore
    · cases hnow

theorem Pending.answer (hpending : Pending history) (payload : JsonValue) :
    Granted (history ++ [⟨.respond 200 payload, ()⟩]) := by
  constructor
  · rw [appended_append]
    simpa [appendedBy] using hpending.one
  · rw [accepted_append]
    exact Or.inr ⟨payload, rfl⟩

end WebhookReceiver

end InventoryCloud

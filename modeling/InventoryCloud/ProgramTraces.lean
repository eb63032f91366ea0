import InventoryCloud.InteractionProgram
import Mathlib.Tactic

/-!
# Traces of interaction programs

A run of a program is the list of its exchanges: every query it asked with
the answer it was given, in order.  The answers are not assumed to agree with
each other, so a statement about every run is one about every behaviour of
the surroundings.  The second half treats programs which can fail: how a
successful run of a sequence, of a translated failure or of a body with a
cleanup splits into runs of its parts.
-/

namespace Interaction

universe u v w

structure Exchange (Q : Type u) (A : Q → Type v) where
  query : Q
  answer : A query

namespace Program

variable {Q : Type u} {A : Q → Type v}

/-- The program asks the queries of `trace` one after another, is given the
answers recorded there, and ends with `result`. -/
def Runs {α : Type w} : Program Q A α → List (Exchange Q A) → α → Prop
  | .pure value, trace, result => trace = [] ∧ result = value
  | .ask query next, trace, result =>
      ∃ answer rest, trace = ⟨query, answer⟩ :: rest ∧
        (next answer).Runs rest result

@[simp] theorem runs_pure {α : Type w} (value : α)
    (trace : List (Exchange Q A)) (result : α) :
    (Program.pure value : Program Q A α).Runs trace result ↔
      trace = [] ∧ result = value := Iff.rfl

@[simp] theorem runs_ask {α : Type w} (query : Q)
    (next : A query → Program Q A α) (trace : List (Exchange Q A))
    (result : α) :
    (Program.ask query next).Runs trace result ↔
      ∃ answer rest, trace = ⟨query, answer⟩ :: rest ∧
        (next answer).Runs rest result := Iff.rfl

theorem runs_ask_cons {α : Type w} (query : Q) (answer : A query)
    (next : A query → Program Q A α) (trace : List (Exchange Q A))
    (result : α) :
    (Program.ask query next).Runs (⟨query, answer⟩ :: trace) result ↔
      (next answer).Runs trace result := by
  constructor
  · rintro ⟨other, rest, hsame, hrun⟩
    cases hsame
    exact hrun
  · intro hrun
    exact ⟨answer, trace, rfl, hrun⟩

theorem runs_bind {α β : Type w} (program : Program Q A α)
    (next : α → Program Q A β) (trace : List (Exchange Q A)) (result : β) :
    (program >>= next).Runs trace result ↔
      ∃ value first rest, trace = first ++ rest ∧
        program.Runs first value ∧ (next value).Runs rest result := by
  induction program generalizing trace with
  | pure value =>
      rw [pure_bind']
      constructor
      · intro hrun
        exact ⟨value, [], trace, rfl, ⟨rfl, rfl⟩, hrun⟩
      · rintro ⟨value', first, rest, rfl, ⟨rfl, rfl⟩, hrun⟩
        exact hrun
  | ask query following ih =>
      rw [ask_bind]
      constructor
      · rintro ⟨answer, tail, rfl, hrun⟩
        obtain ⟨value, first, rest, rfl, hfirst, hrest⟩ :=
          (ih answer tail).mp hrun
        exact ⟨value, ⟨query, answer⟩ :: first, rest, rfl,
          ⟨answer, first, rfl, hfirst⟩, hrest⟩
      · rintro ⟨value, first, rest, rfl, ⟨answer, tail, rfl, hfirst⟩, hrest⟩
        have hrun : (following answer >>= next).Runs (tail ++ rest) result :=
          (ih answer (tail ++ rest)).mpr
            ⟨value, tail, rest, rfl, hfirst, hrest⟩
        exact ⟨answer, tail ++ rest, rfl, hrun⟩

/-- The exchanges of the run in which one oracle answers every query. -/
def transcript {α : Type w} (oracle : (query : Q) → A query) :
    Program Q A α → List (Exchange Q A)
  | .pure _ => []
  | .ask query next =>
      ⟨query, oracle query⟩ :: (next (oracle query)).transcript oracle

theorem runs_transcript {α : Type w} (oracle : (query : Q) → A query)
    (program : Program Q A α) :
    program.Runs (program.transcript oracle) (program.eval oracle) := by
  induction program with
  | pure value => exact ⟨rfl, rfl⟩
  | ask query next ih =>
      exact ⟨oracle query, _, rfl, ih (oracle query)⟩

/-- A program which is not finished has a run that goes on. -/
theorem exists_runs_of_ask {α : Type w} (oracle : (query : Q) → A query)
    {program : Program Q A α} {query : Q} {next : A query → Program Q A α}
    (hprogram : program = .ask query next) :
    ∃ exchange rest result, program.Runs (exchange :: rest) result := by
  subst hprogram
  exact ⟨_, _, _, runs_transcript oracle (.ask query next)⟩

theorem transcript_answer {α : Type w} {oracle : (query : Q) → A query}
    (program : Program Q A α) :
    ∀ exchange ∈ program.transcript oracle,
      exchange.answer = oracle exchange.query := by
  induction program with
  | pure value => simp [transcript]
  | ask query next ih =>
      intro exchange hmem
      rcases List.mem_cons.mp hmem with rfl | hmem
      · rfl
      · exact ih (oracle query) exchange hmem

/-- Whatever it is answered, the program asks allowed queries only. -/
def AsksOnly {α : Type w} (allowed : Q → Prop) : Program Q A α → Prop
  | .pure _ => True
  | .ask query next =>
      allowed query ∧ ∀ answer, (next answer).AsksOnly allowed

theorem AsksOnly.bind {α β : Type w} {allowed : Q → Prop}
    {program : Program Q A α} {next : α → Program Q A β}
    (hprogram : program.AsksOnly allowed)
    (hnext : ∀ value, (next value).AsksOnly allowed) :
    (program >>= next).AsksOnly allowed := by
  induction program with
  | pure value => exact hnext value
  | ask query following ih =>
      obtain ⟨hquery, hfollowing⟩ := hprogram
      exact ⟨hquery, fun answer => ih answer (hfollowing answer)⟩

theorem AsksOnly.mono {α : Type w} {allowed permitted : Q → Prop}
    {program : Program Q A α} (hprogram : program.AsksOnly allowed)
    (hsub : ∀ query, allowed query → permitted query) :
    program.AsksOnly permitted := by
  induction program with
  | pure value => trivial
  | ask query next ih =>
      obtain ⟨hquery, hnext⟩ := hprogram
      exact ⟨hsub query hquery, fun answer => ih answer (hnext answer)⟩

theorem AsksOnly.of_runs {α : Type w} {allowed : Q → Prop}
    {program : Program Q A α} {trace : List (Exchange Q A)} {result : α}
    (hprogram : program.AsksOnly allowed) (hrun : program.Runs trace result) :
    ∀ exchange ∈ trace, allowed exchange.query := by
  induction program generalizing trace with
  | pure value =>
      obtain ⟨rfl, -⟩ := hrun
      simp
  | ask query next ih =>
      obtain ⟨hquery, hnext⟩ := hprogram
      obtain ⟨answer, rest, rfl, hrest⟩ := hrun
      intro exchange hexchange
      rcases List.mem_cons.mp hexchange with rfl | hexchange
      · exact hquery
      · exact ih answer (hnext answer) hrest exchange hexchange

end Program

/-! ### Programs which can fail -/

/-- A program that ends with a value or raises an error of type `E`. -/
abbrev Fallible (E : Type w) (Q : Type u) (A : Q → Type v) :=
  ExceptT E (Program Q A)

namespace Fallible

variable {E : Type w} {Q : Type u} {A : Q → Type w} {α β : Type w}

def ask (query : Q) : Fallible E Q A (A query) :=
  ExceptT.mk (.ask query fun answer => .pure (.ok answer))

/-- A step without queries. -/
def step (outcome : Except E α) : Fallible E Q A α :=
  ExceptT.mk (.pure outcome)

def check (condition : Bool) (error : E) : Fallible E Q A PUnit :=
  step (if condition then .ok ⟨⟩ else .error error)

/-- The body, with every error it raises replaced by `replace error`. -/
def translating (replace : E → E) (body : Fallible E Q A α) :
    Fallible E Q A α :=
  ExceptT.mk (body.run >>= fun outcome => .pure (outcome.mapError replace))

/-- The body and then the cleanup, however the body ended.  An error of the
cleanup replaces the outcome of the body. -/
def ensuring (body : Fallible E Q A α) (cleanup : Fallible E Q A PUnit) :
    Fallible E Q A α :=
  ExceptT.mk (body.run >>= fun outcome =>
    cleanup.run >>= fun cleaned =>
      .pure (cleaned.bind fun _ => outcome))

/-- The body, with the handler taking over from every error it raises. -/
def catching (body : Fallible E Q A α) (handler : E → Fallible E Q A α) :
    Fallible E Q A α :=
  ExceptT.mk (body.run >>= fun outcome =>
    match outcome with
    | .ok value => .pure (.ok value)
    | .error error => (handler error).run)

/-- The program runs through `trace` and ends with `result`. -/
def Succeeds (program : Fallible E Q A α) (trace : List (Exchange Q A))
    (result : α) : Prop :=
  program.run.Runs trace (.ok result)

@[simp] theorem succeeds_pure (value : α) (trace : List (Exchange Q A))
    (result : α) :
    (Pure.pure value : Fallible E Q A α).Succeeds trace result ↔
      trace = [] ∧ result = value := by
  change trace = [] ∧ Except.ok result = Except.ok value ↔ _
  rw [Except.ok.injEq]

@[simp] theorem succeeds_ask (query : Q) (trace : List (Exchange Q A))
    (result : A query) :
    (ask query : Fallible E Q A (A query)).Succeeds trace result ↔
      trace = [⟨query, result⟩] := by
  constructor
  · rintro ⟨answer, rest, rfl, rfl, hresult⟩
    cases hresult
    rfl
  · rintro rfl
    exact ⟨result, [], rfl, rfl, rfl⟩

@[simp] theorem succeeds_step (outcome : Except E α)
    (trace : List (Exchange Q A)) (result : α) :
    (step outcome : Fallible E Q A α).Succeeds trace result ↔
      trace = [] ∧ outcome = .ok result := by
  change trace = [] ∧ Except.ok result = outcome ↔ _
  exact and_congr_right fun _ => eq_comm

@[simp] theorem succeeds_check (condition : Bool) (error : E)
    (trace : List (Exchange Q A)) (result : PUnit) :
    (check condition error : Fallible E Q A PUnit).Succeeds trace result ↔
      trace = [] ∧ condition = true := by
  rw [check, succeeds_step]
  cases condition <;> simp

theorem run_check_bind (condition : Bool) (error : E)
    (next : PUnit → Fallible E Q A α) :
    (check condition error >>= next).run =
      if condition then (next ⟨⟩).run else .pure (.error error) := by
  cases condition <;> rfl

@[simp] theorem succeeds_throw (error : E) (trace : List (Exchange Q A))
    (result : α) :
    ¬ (throw error : Fallible E Q A α).Succeeds trace result := by
  rintro ⟨-, hresult⟩
  cases hresult

theorem succeeds_bind (program : Fallible E Q A α)
    (next : α → Fallible E Q A β) (trace : List (Exchange Q A)) (result : β) :
    (program >>= next).Succeeds trace result ↔
      ∃ value first rest, trace = first ++ rest ∧
        program.Succeeds first value ∧ (next value).Succeeds rest result := by
  unfold Succeeds
  rw [ExceptT.run_bind, Program.runs_bind]
  constructor
  · rintro ⟨outcome, first, rest, rfl, hfirst, hrest⟩
    cases outcome with
    | error error =>
        obtain ⟨-, hresult⟩ := hrest
        cases hresult
    | ok value => exact ⟨value, first, rest, rfl, hfirst, hrest⟩
  · rintro ⟨value, first, rest, rfl, hfirst, hrest⟩
    exact ⟨.ok value, first, rest, rfl, hfirst, hrest⟩

@[simp] theorem succeeds_translating (replace : E → E)
    (body : Fallible E Q A α) (trace : List (Exchange Q A)) (result : α) :
    (translating replace body).Succeeds trace result ↔
      body.Succeeds trace result := by
  change (body.run >>= fun outcome =>
    Program.pure (outcome.mapError replace)).Runs trace (.ok result) ↔ _
  rw [Program.runs_bind]
  constructor
  · rintro ⟨outcome, first, rest, rfl, hfirst, rfl, hresult⟩
    cases outcome with
    | error error => cases hresult
    | ok value =>
        cases hresult
        rw [List.append_nil]
        exact hfirst
  · intro hbody
    exact ⟨.ok result, trace, [], (List.append_nil _).symm, hbody, rfl, rfl⟩

theorem succeeds_ensuring (body : Fallible E Q A α)
    (cleanup : Fallible E Q A PUnit) (trace : List (Exchange Q A))
    (result : α) :
    (ensuring body cleanup).Succeeds trace result ↔
      ∃ first rest, trace = first ++ rest ∧ body.Succeeds first result ∧
        cleanup.Succeeds rest ⟨⟩ := by
  change (body.run >>= fun outcome => cleanup.run >>= fun cleaned =>
    Program.pure (cleaned.bind fun _ => outcome)).Runs trace (.ok result) ↔ _
  simp only [Program.runs_bind]
  constructor
  · rintro ⟨outcome, first, rest, rfl, hbody, cleaned, last, after, rfl,
      hcleanup, rfl, hresult⟩
    cases cleaned with
    | error error => cases hresult
    | ok _ =>
        have houtcome : outcome = .ok result := hresult.symm
        subst houtcome
        rw [List.append_nil]
        exact ⟨first, last, rfl, hbody, hcleanup⟩
  · rintro ⟨first, rest, rfl, hbody, hcleanup⟩
    exact ⟨.ok result, first, rest, rfl, hbody, .ok ⟨⟩, rest, [],
      (List.append_nil _).symm, hcleanup, rfl, rfl⟩

/-- Whatever it is answered, the program asks allowed queries only. -/
def AsksOnly (allowed : Q → Prop) (program : Fallible E Q A α) : Prop :=
  program.run.AsksOnly allowed

theorem AsksOnly.of_succeeds {allowed : Q → Prop}
    {program : Fallible E Q A α} {trace : List (Exchange Q A)} {result : α}
    (hprogram : program.AsksOnly allowed)
    (hrun : program.Succeeds trace result) :
    ∀ exchange ∈ trace, allowed exchange.query :=
  Program.AsksOnly.of_runs hprogram hrun

theorem AsksOnly.ask {allowed : Q → Prop} {query : Q}
    (hquery : allowed query) :
    (Fallible.ask query : Fallible E Q A (A query)).AsksOnly allowed :=
  ⟨hquery, fun _ => trivial⟩

theorem AsksOnly.step {allowed : Q → Prop} (outcome : Except E α) :
    (Fallible.step outcome : Fallible E Q A α).AsksOnly allowed :=
  trivial

theorem AsksOnly.bind {allowed : Q → Prop} {program : Fallible E Q A α}
    {next : α → Fallible E Q A β} (hprogram : program.AsksOnly allowed)
    (hnext : ∀ value, (next value).AsksOnly allowed) :
    (program >>= next).AsksOnly allowed := by
  unfold AsksOnly
  rw [ExceptT.run_bind]
  apply Program.AsksOnly.bind hprogram
  intro outcome
  cases outcome with
  | error error => trivial
  | ok value => exact hnext value

theorem AsksOnly.translating {allowed : Q → Prop} {replace : E → E}
    {body : Fallible E Q A α} (hbody : body.AsksOnly allowed) :
    (Fallible.translating replace body).AsksOnly allowed :=
  Program.AsksOnly.bind hbody fun _ => trivial

theorem AsksOnly.ensuring {allowed : Q → Prop} {body : Fallible E Q A α}
    {cleanup : Fallible E Q A PUnit} (hbody : body.AsksOnly allowed)
    (hcleanup : cleanup.AsksOnly allowed) :
    (Fallible.ensuring body cleanup).AsksOnly allowed :=
  Program.AsksOnly.bind hbody fun _ =>
    Program.AsksOnly.bind hcleanup fun _ => trivial

/-- The run in which one oracle answers every query. -/
theorem succeeds_transcript (oracle : (query : Q) → A query)
    {program : Fallible E Q A α} {result : α}
    (hresult : program.run.eval oracle = .ok result) :
    program.Succeeds (program.run.transcript oracle) result := by
  have hrun := Program.runs_transcript oracle program.run
  rw [hresult] at hrun
  exact hrun

-- A run is read through the lemmas above and never by evaluating the program.
attribute [irreducible] Succeeds

end Fallible

end Interaction

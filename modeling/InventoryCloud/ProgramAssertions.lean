import InventoryCloud.ProgramTraces

/-!
# Assertions about interaction programs

The surroundings of a program are a world which every exchange may change,
and an assertion speaks about the exchanges so far and the world they led to.
`Establishes` is the weakest condition under which a program can only end
where its postcondition holds; `establishes_iff` reads it as a statement about
all runs.
-/

namespace Interaction

universe u v w x

section

variable {Q : Type u} {A : Q → Type v} {W : Type x}

/-- The exchanges lead from the first world to the last. -/
def Follows (effect : Exchange Q A → W → W → Prop) :
    W → List (Exchange Q A) → W → Prop
  | before, [], after => after = before
  | before, exchange :: rest, after =>
      ∃ between, effect exchange before between ∧
        Follows effect between rest after

/-- Exchanges which leave a world without content as it is. -/
theorem follows_of_forall {possible : Exchange Q A → Prop}
    {trace : List (Exchange Q A)}
    (htrace : ∀ exchange ∈ trace, possible exchange) :
    Follows (fun exchange (_ _ : Unit) => possible exchange) () trace () := by
  induction trace with
  | nil => rfl
  | cons exchange rest ih =>
      obtain ⟨hfirst, hrest⟩ := List.forall_mem_cons.mp htrace
      exact ⟨(), hfirst, ih hrest⟩

/-- An assertion about the exchanges so far and the world. -/
abbrev Assertion (Q : Type u) (A : Q → Type v) (W : Type x) :=
  List (Exchange Q A) → W → Prop

/-- Every exchange of a history is allowed after the ones before it. -/
def Lawful (allowed : List (Exchange Q A) → Exchange Q A → Prop)
    (history : List (Exchange Q A)) : Prop :=
  ∀ before exchange after, history = before ++ exchange :: after →
    allowed before exchange

variable {effect : Exchange Q A → W → W → Prop}
  {allowed : List (Exchange Q A) → Exchange Q A → Prop}

theorem lawful_nil : Lawful allowed [] := by
  intro before exchange after hsplit
  cases before <;> cases hsplit

theorem lawful_snoc {history : List (Exchange Q A)}
    {exchange : Exchange Q A} :
    Lawful allowed (history ++ [exchange]) ↔
      Lawful allowed history ∧ allowed history exchange := by
  constructor
  · intro hlawful
    constructor
    · intro before earlier after hsplit
      apply hlawful before earlier (after ++ [exchange])
      rw [hsplit, List.append_assoc, List.cons_append]
    · exact hlawful history exchange [] rfl
  · rintro ⟨hhistory, hlast⟩ before earlier after hsplit
    rcases List.eq_nil_or_concat after with rfl | ⟨initial, last, rfl⟩
    · obtain ⟨rfl, hsame⟩ := List.append_inj' hsplit rfl
      cases hsame
      exact hlast
    · rw [List.concat_eq_append, ← List.cons_append, ← List.append_assoc]
        at hsplit
      exact hhistory before earlier initial (List.append_inj' hsplit rfl).1

namespace Program

variable {α β : Type w}

/-- The program can only end where `post` holds. -/
def Establishes (effect : Exchange Q A → W → W → Prop)
    (post : α → Assertion Q A W) : Program Q A α → Assertion Q A W
  | .pure value, history, world => post value history world
  | .ask query next, history, world => ∀ answer after,
      effect ⟨query, answer⟩ world after →
        (next answer).Establishes effect post (history ++ [⟨query, answer⟩])
          after

theorem establishes_bind {program : Program Q A α}
    {next : α → Program Q A β} {post : β → Assertion Q A W} :
    (program >>= next).Establishes effect post =
      program.Establishes effect
        (fun value => (next value).Establishes effect post) := by
  induction program with
  | pure value => rfl
  | ask query following ih =>
      funext history world
      rw [ask_bind]
      unfold Establishes
      simp only [ih]

theorem Establishes.mono {program : Program Q A α}
    {post weaker : α → Assertion Q A W} {history : List (Exchange Q A)}
    {world : W} (hprogram : program.Establishes effect post history world)
    (hweaker : ∀ value history world, post value history world →
      weaker value history world) :
    program.Establishes effect weaker history world := by
  induction program generalizing history world with
  | pure value => exact hweaker value history world hprogram
  | ask query next ih =>
      intro answer after heffect
      exact ih answer (hprogram answer after heffect)

/-- What a program establishes is what holds after all of its runs. -/
theorem establishes_iff {program : Program Q A α}
    {post : α → Assertion Q A W} {history : List (Exchange Q A)} {world : W} :
    program.Establishes effect post history world ↔
      ∀ trace result after, program.Runs trace result →
        Follows effect world trace after →
          post result (history ++ trace) after := by
  induction program generalizing history world with
  | pure value =>
      constructor
      · rintro hpost trace result after ⟨rfl, rfl⟩ rfl
        rw [List.append_nil]
        exact hpost
      · intro hruns
        have hpost := hruns [] value world ⟨rfl, rfl⟩ rfl
        rwa [List.append_nil] at hpost
  | ask query next ih =>
      constructor
      · rintro hprogram _ result after ⟨answer, rest, rfl, hrest⟩
          ⟨between, heffect, hfollows⟩
        have hpost := (ih answer).mp (hprogram answer between heffect) rest
          result after hrest hfollows
        rwa [List.append_assoc] at hpost
      · intro hruns answer between heffect
        apply (ih answer).mpr
        intro rest result after hrest hfollows
        rw [List.append_assoc]
        exact hruns (⟨query, answer⟩ :: rest) result after
          ⟨answer, rest, rfl, hrest⟩ ⟨between, heffect, hfollows⟩

/-- An assertion which every allowed exchange preserves holds at the end. -/
theorem AsksOnly.establishes {program : Program Q A α} {queries : Q → Prop}
    {invariant : Assertion Q A W} {history : List (Exchange Q A)} {world : W}
    (hprogram : program.AsksOnly queries)
    (hstep : ∀ exchange history before after, queries exchange.query →
      effect exchange before after → invariant history before →
        invariant (history ++ [exchange]) after)
    (hinvariant : invariant history world) :
    program.Establishes effect (fun _ => invariant) history world := by
  induction program generalizing history world with
  | pure value => exact hinvariant
  | ask query next ih =>
      obtain ⟨hquery, hnext⟩ := hprogram
      intro answer after heffect
      apply ih answer (hnext answer)
      exact hstep ⟨query, answer⟩ history world after hquery heffect hinvariant

end Program

end

namespace Fallible

variable {E : Type w} {Q : Type u} {A : Q → Type w} {W : Type x}
  {α β : Type w} {effect : Exchange Q A → W → W → Prop}
  {history : List (Exchange Q A)} {world : W}

/-- The program can only end where `post` holds, whether it returns or
raises. -/
def Establishes (effect : Exchange Q A → W → W → Prop)
    (post : Except E α → Assertion Q A W) (program : Fallible E Q A α) :
    Assertion Q A W :=
  program.run.Establishes effect post

/-- An assertion for each way to end. -/
def either (returned : α → Assertion Q A W) (raised : E → Assertion Q A W) :
    Except E α → Assertion Q A W
  | .ok value => returned value
  | .error error => raised error

theorem establishes_iff {program : Fallible E Q A α}
    {post : Except E α → Assertion Q A W} :
    program.Establishes effect post history world ↔
      ∀ trace outcome after, program.run.Runs trace outcome →
        Follows effect world trace after →
          post outcome (history ++ trace) after :=
  Program.establishes_iff

theorem Establishes.mono {program : Fallible E Q A α}
    {post weaker : Except E α → Assertion Q A W}
    (hprogram : program.Establishes effect post history world)
    (hweaker : ∀ outcome history world, post outcome history world →
      weaker outcome history world) :
    program.Establishes effect weaker history world :=
  Program.Establishes.mono hprogram hweaker

theorem establishes_step {result : Except E α}
    {post : Except E α → Assertion Q A W} :
    (step result : Fallible E Q A α).Establishes effect post = post result :=
  rfl

theorem establishes_check {condition : Bool} {error : E}
    {post : Except E PUnit → Assertion Q A W} :
    (check condition error : Fallible E Q A PUnit).Establishes effect post =
      post (if condition then .ok ⟨⟩ else .error error) :=
  rfl

theorem establishes_ask {query : Q}
    {post : Except E (A query) → Assertion Q A W} :
    (ask query : Fallible E Q A (A query)).Establishes effect post history
        world ↔
      ∀ answer after, effect ⟨query, answer⟩ world after →
        post (.ok answer) (history ++ [⟨query, answer⟩]) after :=
  Iff.rfl

theorem establishes_bind {program : Fallible E Q A α}
    {next : α → Fallible E Q A β} {post : Except E β → Assertion Q A W} :
    (program >>= next).Establishes effect post =
      program.Establishes effect
        (either (fun value => (next value).Establishes effect post)
          (fun error => post (.error error))) := by
  unfold Establishes
  rw [ExceptT.run_bind, Program.establishes_bind]
  congr 1
  funext outcome
  cases outcome with
  | ok value => rfl
  | error error => rfl

theorem establishes_translating {replace : E → E}
    {body : Fallible E Q A α} {post : Except E α → Assertion Q A W} :
    (translating replace body).Establishes effect post =
      body.Establishes effect (fun outcome =>
        post (outcome.mapError replace)) :=
  Program.establishes_bind

/-- The cleanup has to do with every way the body can end. -/
theorem establishes_ensuring {body : Fallible E Q A α}
    {cleanup : Fallible E Q A PUnit} {post : Except E α → Assertion Q A W} :
    (ensuring body cleanup).Establishes effect post =
      body.Establishes effect (fun outcome => cleanup.Establishes effect
        fun cleaned => post (cleaned.bind fun _ => outcome)) := by
  change (body.run >>= fun outcome => cleanup.run >>= fun cleaned =>
    Program.pure (cleaned.bind fun _ => outcome)).Establishes effect post = _
  simp only [Program.establishes_bind]
  rfl

theorem AsksOnly.establishes {program : Fallible E Q A α} {queries : Q → Prop}
    {invariant : Assertion Q A W} (hprogram : program.AsksOnly queries)
    (hstep : ∀ exchange history before after, queries exchange.query →
      effect exchange before after → invariant history before →
        invariant (history ++ [exchange]) after)
    (hinvariant : invariant history world) :
    program.Establishes effect (fun _ => invariant) history world :=
  Program.AsksOnly.establishes hprogram hstep hinvariant

end Fallible

end Interaction

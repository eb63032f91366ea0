import InventoryCloud.ProgramTraces

/-!
# Shell statements under `errexit`

The statements of a script that runs under `set -e`.  A command that fails
ends the script, except where its status is asked for: in the condition of an
`if`, before `||` and under `!`, and in everything that runs there, functions
included.  `exec` takes whether this is so as a flag.  A function call is the
body of the function in its place.
-/

namespace Shell

open Interaction

universe u v

/-- A command, a substitution or a test: it may ask for answers and change
the variables, and has an exit status. -/
abbrev Command (Q : Type u) (A : Q → Type v) (S : Type v) :=
  S → Program Q A (Nat × S)

inductive Statement (Q : Type u) (A : Q → Type v) (S : Type v) where
  | command (run : Command Q A S)
  | sequence (first second : Statement Q A S)
  | whenTrue (condition body : Statement Q A S)
  | negate (body : Statement Q A S)
  | orElse (first second : Statement Q A S)
  | exit (status : Nat)

inductive Completion where
  | normal (status : Nat)
  | exited (status : Nat)

def Completion.status : Completion → Nat
  | .normal status => status
  | .exited status => status

namespace Statement

variable {Q : Type u} {A : Q → Type v} {S : Type v}

/-- The statements one after another. -/
def block : List (Statement Q A S) → Statement Q A S
  | [] => .command fun state => .pure (0, state)
  | [last] => last
  | first :: rest => .sequence first (block rest)

/-- A failed command ends the script unless its status is asked for. -/
def completion (suspended : Bool) (status : Nat) : Completion :=
  if status = 0 ∨ suspended = true then .normal status else .exited status

/-- What goes on after a statement, unless it has ended the script. -/
def andThen (outcome : Completion × S)
    (next : Nat → S → Program Q A (Completion × S)) :
    Program Q A (Completion × S) :=
  match outcome with
  | (.normal status, state) => next status state
  | (.exited status, state) => .pure (.exited status, state)

def exec (suspended : Bool) :
    Statement Q A S → S → Program Q A (Completion × S)
  | .command run, state =>
      run state >>= fun outcome =>
        .pure (completion suspended outcome.1, outcome.2)
  | .sequence first second, state =>
      exec suspended first state >>= fun outcome =>
        andThen outcome fun _ next => exec suspended second next
  | .whenTrue condition body, state =>
      exec true condition state >>= fun outcome =>
        andThen outcome fun status next =>
          if status = 0 then exec suspended body next
          else .pure (.normal 0, next)
  | .negate body, state =>
      exec true body state >>= fun outcome =>
        andThen outcome fun status next =>
          .pure (.normal (if status = 0 then 1 else 0), next)
  | .orElse first second, state =>
      exec true first state >>= fun outcome =>
        andThen outcome fun status next =>
          if status = 0 then .pure (.normal 0, next)
          else exec suspended second next
  | .exit status, state => .pure (.exited status, state)

/-- The statement run from `state` makes the exchanges of `trace`. -/
def Runs (suspended : Bool) (statement : Statement Q A S) (state : S)
    (trace : List (Exchange Q A)) (completion : Completion) (final : S) :
    Prop :=
  (statement.exec suspended state).Runs trace (completion, final)

variable {suspended : Bool} {state final : S} {trace : List (Exchange Q A)}
  {completion : Completion}

theorem runs_iff {statement : Statement Q A S} :
    statement.Runs suspended state trace completion final ↔
      (statement.exec suspended state).Runs trace (completion, final) :=
  Iff.rfl

theorem runs_command {run : Command Q A S} :
    (Statement.command run).Runs suspended state trace completion final ↔
      ∃ status, (run state).Runs trace (status, final) ∧
        completion = Statement.completion suspended status := by
  unfold Runs exec
  rw [Program.runs_bind]
  constructor
  · rintro ⟨⟨status, next⟩, first, rest, rfl, hrun, rfl, hsame⟩
    rw [Prod.mk.injEq] at hsame
    obtain ⟨rfl, rfl⟩ := hsame
    rw [List.append_nil]
    exact ⟨status, hrun, rfl⟩
  · rintro ⟨status, hrun, rfl⟩
    exact ⟨(status, final), trace, [], (List.append_nil _).symm, hrun, rfl,
      rfl⟩

/-- How a first statement and what follows it combine: the script ends with
the first, or the rest runs after it. -/
theorem runs_andThen {first : Program Q A (Completion × S)}
    {next : Nat → S → Program Q A (Completion × S)} :
    (first >>= fun outcome => andThen outcome next).Runs trace
        (completion, final) ↔
      (∃ status, first.Runs trace (.exited status, final) ∧
        completion = .exited status) ∨
      ∃ status middle left right, trace = left ++ right ∧
        first.Runs left (.normal status, middle) ∧
        (next status middle).Runs right (completion, final) := by
  rw [Program.runs_bind]
  constructor
  · rintro ⟨⟨outcome, middle⟩, left, right, rfl, hfirst, hnext⟩
    cases outcome with
    | normal status =>
        exact Or.inr ⟨status, middle, left, right, rfl, hfirst, hnext⟩
    | exited status =>
        obtain ⟨rfl, hsame⟩ := hnext
        rw [Prod.mk.injEq] at hsame
        obtain ⟨rfl, rfl⟩ := hsame
        rw [List.append_nil]
        exact Or.inl ⟨status, hfirst, rfl⟩
  · rintro (⟨status, hfirst, rfl⟩ | ⟨status, middle, left, right, rfl, hfirst,
      hnext⟩)
    · exact ⟨(.exited status, final), trace, [], (List.append_nil _).symm,
        hfirst, rfl, rfl⟩
    · exact ⟨(.normal status, middle), left, right, rfl, hfirst, hnext⟩

theorem runs_sequence {first second : Statement Q A S} :
    (Statement.sequence first second).Runs suspended state trace completion
        final ↔
      (∃ status, first.Runs suspended state trace (.exited status) final ∧
        completion = .exited status) ∨
      ∃ status middle left right, trace = left ++ right ∧
        first.Runs suspended state left (.normal status) middle ∧
        second.Runs suspended middle right completion final :=
  runs_andThen

theorem runs_whenTrue {condition body : Statement Q A S} :
    (Statement.whenTrue condition body).Runs suspended state trace completion
        final ↔
      (∃ status, condition.Runs true state trace (.exited status) final ∧
        completion = .exited status) ∨
      ∃ status middle left right, trace = left ++ right ∧
        condition.Runs true state left (.normal status) middle ∧
        ((status = 0 ∧ body.Runs suspended middle right completion final) ∨
          (status ≠ 0 ∧ right = [] ∧ completion = .normal 0 ∧
            final = middle)) := by
  unfold Runs
  rw [exec, runs_andThen]
  apply or_congr_right
  constructor
  · rintro ⟨status, middle, left, right, rfl, hcondition, hrest⟩
    refine ⟨status, middle, left, right, rfl, hcondition, ?_⟩
    by_cases hzero : status = 0
    · rw [if_pos hzero] at hrest
      exact Or.inl ⟨hzero, hrest⟩
    · rw [if_neg hzero, Program.runs_pure, Prod.mk.injEq] at hrest
      exact Or.inr ⟨hzero, hrest⟩
  · rintro ⟨status, middle, left, right, rfl, hcondition, hrest⟩
    refine ⟨status, middle, left, right, rfl, hcondition, ?_⟩
    rcases hrest with ⟨hzero, hrest⟩ | ⟨hzero, hrest⟩
    · rw [if_pos hzero]
      exact hrest
    · rw [if_neg hzero, Program.runs_pure, Prod.mk.injEq]
      exact hrest

theorem runs_negate {body : Statement Q A S} :
    (Statement.negate body).Runs suspended state trace completion final ↔
      (∃ status, body.Runs true state trace (.exited status) final ∧
        completion = .exited status) ∨
      ∃ status, body.Runs true state trace (.normal status) final ∧
        completion = .normal (if status = 0 then 1 else 0) := by
  unfold Runs
  rw [exec, runs_andThen]
  apply or_congr_right
  constructor
  · rintro ⟨status, middle, left, right, rfl, hbody, rfl, hsame⟩
    rw [Prod.mk.injEq] at hsame
    obtain ⟨rfl, rfl⟩ := hsame
    rw [List.append_nil]
    exact ⟨status, hbody, rfl⟩
  · rintro ⟨status, hbody, rfl⟩
    exact ⟨status, final, trace, [], (List.append_nil _).symm, hbody, rfl,
      rfl⟩

theorem runs_orElse {first second : Statement Q A S} :
    (Statement.orElse first second).Runs suspended state trace completion
        final ↔
      (∃ status, first.Runs true state trace (.exited status) final ∧
        completion = .exited status) ∨
      ∃ status middle left right, trace = left ++ right ∧
        first.Runs true state left (.normal status) middle ∧
        ((status = 0 ∧ right = [] ∧ completion = .normal 0 ∧
            final = middle) ∨
          (status ≠ 0 ∧ second.Runs suspended middle right completion
            final)) := by
  unfold Runs
  rw [exec, runs_andThen]
  apply or_congr_right
  constructor
  · rintro ⟨status, middle, left, right, rfl, hfirst, hrest⟩
    refine ⟨status, middle, left, right, rfl, hfirst, ?_⟩
    by_cases hzero : status = 0
    · rw [if_pos hzero, Program.runs_pure, Prod.mk.injEq] at hrest
      exact Or.inl ⟨hzero, hrest⟩
    · rw [if_neg hzero] at hrest
      exact Or.inr ⟨hzero, hrest⟩
  · rintro ⟨status, middle, left, right, rfl, hfirst, hrest⟩
    refine ⟨status, middle, left, right, rfl, hfirst, ?_⟩
    rcases hrest with ⟨hzero, hrest⟩ | ⟨hzero, hrest⟩
    · rw [if_pos hzero, Program.runs_pure, Prod.mk.injEq]
      exact hrest
    · rw [if_neg hzero]
      exact hrest

theorem runs_exit {status : Nat} :
    (Statement.exit status : Statement Q A S).Runs suspended state trace
        completion final ↔
      trace = [] ∧ completion = .exited status ∧ final = state := by
  unfold Runs exec
  rw [Program.runs_pure, Prod.mk.injEq]

/-! ### Statements that complete normally -/

theorem completion_false_normal {status result : Nat} :
    Completion.normal result = Statement.completion false status ↔
      status = 0 ∧ result = 0 := by
  unfold Statement.completion
  by_cases hzero : status = 0 <;> simp [hzero]

theorem completion_true {status : Nat} :
    Statement.completion true status = .normal status := by
  simp [Statement.completion]

theorem runs_command_normal {run : Command Q A S} {status : Nat} :
    (Statement.command run).Runs false state trace (.normal status) final ↔
      status = 0 ∧ (run state).Runs trace (0, final) := by
  rw [runs_command]
  constructor
  · rintro ⟨result, hrun, hnormal⟩
    obtain ⟨rfl, rfl⟩ := completion_false_normal.mp hnormal
    exact ⟨rfl, hrun⟩
  · rintro ⟨rfl, hrun⟩
    exact ⟨0, hrun, completion_false_normal.mpr ⟨rfl, rfl⟩⟩

theorem runs_sequence_normal {first second : Statement Q A S} {status : Nat} :
    (Statement.sequence first second).Runs suspended state trace
        (.normal status) final ↔
      ∃ result middle left right, trace = left ++ right ∧
        first.Runs suspended state left (.normal result) middle ∧
        second.Runs suspended middle right (.normal status) final := by
  rw [runs_sequence]
  simp

/-- Without an `exit`, a statement whose status is asked for completes
normally. -/
def NoExit : Statement Q A S → Prop
  | .command _ => True
  | .sequence first second => first.NoExit ∧ second.NoExit
  | .whenTrue condition body => condition.NoExit ∧ body.NoExit
  | .negate body => body.NoExit
  | .orElse first second => first.NoExit ∧ second.NoExit
  | .exit _ => False

theorem NoExit.of_runs {statement : Statement Q A S}
    (hstatement : statement.NoExit)
    (hrun : statement.Runs true state trace completion final) :
    ∃ status, completion = .normal status := by
  cases completion with
  | normal status => exact ⟨status, rfl⟩
  | exited status =>
      exfalso
      induction statement generalizing state trace final status with
      | command run =>
          obtain ⟨result, -, hexited⟩ := runs_command.mp hrun
          rw [completion_true] at hexited
          cases hexited
      | sequence first second ihfirst ihsecond =>
          rcases runs_sequence.mp hrun with ⟨_, hfirst, -⟩ |
            ⟨_, _, _, _, -, -, hsecond⟩
          · exact ihfirst hstatement.1 _ hfirst
          · exact ihsecond hstatement.2 _ hsecond
      | whenTrue condition body ihcondition ihbody =>
          rcases runs_whenTrue.mp hrun with ⟨_, hcondition, -⟩ |
            ⟨_, _, _, _, -, -, ⟨-, hbody⟩ | ⟨-, -, hnormal, -⟩⟩
          · exact ihcondition hstatement.1 _ hcondition
          · exact ihbody hstatement.2 _ hbody
          · cases hnormal
      | negate body ih =>
          rcases runs_negate.mp hrun with ⟨_, hbody, -⟩ | ⟨_, -, hnormal⟩
          · exact ih hstatement _ hbody
          · cases hnormal
      | orElse first second ihfirst ihsecond =>
          rcases runs_orElse.mp hrun with ⟨_, hfirst, -⟩ |
            ⟨_, _, _, _, -, -, ⟨-, -, hnormal, -⟩ | ⟨-, hsecond⟩⟩
          · exact ihfirst hstatement.1 _ hfirst
          · cases hnormal
          · exact ihsecond hstatement.2 _ hsecond
      | exit code => exact hstatement

/-! ### What holds of every run -/

/-- Every `exit` of the statement gives a nonzero status. -/
def ExitsFail : Statement Q A S → Prop
  | .command _ => True
  | .sequence first second => first.ExitsFail ∧ second.ExitsFail
  | .whenTrue condition body => condition.ExitsFail ∧ body.ExitsFail
  | .negate body => body.ExitsFail
  | .orElse first second => first.ExitsFail ∧ second.ExitsFail
  | .exit status => status ≠ 0

/-- Every command of the statement asks allowed queries only. -/
def AsksOnly (allowed : Q → Prop) : Statement Q A S → Prop
  | .command run => ∀ state, (run state).AsksOnly allowed
  | .sequence first second => first.AsksOnly allowed ∧ second.AsksOnly allowed
  | .whenTrue condition body =>
      condition.AsksOnly allowed ∧ body.AsksOnly allowed
  | .negate body => body.AsksOnly allowed
  | .orElse first second => first.AsksOnly allowed ∧ second.AsksOnly allowed
  | .exit _ => True

theorem AsksOnly.mono {allowed permitted : Q → Prop}
    {statement : Statement Q A S} (hstatement : statement.AsksOnly allowed)
    (hsub : ∀ query, allowed query → permitted query) :
    statement.AsksOnly permitted := by
  induction statement with
  | command run => exact fun state => (hstatement state).mono hsub
  | sequence first second ihfirst ihsecond =>
      exact ⟨ihfirst hstatement.1, ihsecond hstatement.2⟩
  | whenTrue condition body ihcondition ihbody =>
      exact ⟨ihcondition hstatement.1, ihbody hstatement.2⟩
  | negate body ih => exact ih hstatement
  | orElse first second ihfirst ihsecond =>
      exact ⟨ihfirst hstatement.1, ihsecond hstatement.2⟩
  | exit status => trivial

/-- What holds of the statements and of what follows one of them holds of the
block. -/
theorem block_induction {P : Statement Q A S → Prop} (hnothing : P (block []))
    (hsequence : ∀ first second, P first → P second →
      P (.sequence first second)) (statements : List (Statement Q A S))
    (hstatements : ∀ statement ∈ statements, P statement) :
    P (block statements) := by
  induction statements with
  | nil => exact hnothing
  | cons first rest ih =>
      have hrest := ih fun statement hmem =>
        hstatements statement (List.mem_cons_of_mem _ hmem)
      cases rest with
      | nil => exact hstatements first List.mem_cons_self
      | cons second others =>
          exact hsequence _ _ (hstatements first List.mem_cons_self) hrest

theorem asksOnly_block {allowed : Q → Prop}
    (statements : List (Statement Q A S))
    (hstatements : ∀ statement ∈ statements, statement.AsksOnly allowed) :
    (block statements).AsksOnly allowed :=
  block_induction (fun _ => trivial) (fun _ _ hfirst hsecond =>
    ⟨hfirst, hsecond⟩) statements hstatements

theorem exitsFail_block (statements : List (Statement Q A S))
    (hstatements : ∀ statement ∈ statements, statement.ExitsFail) :
    (block statements).ExitsFail :=
  block_induction trivial (fun _ _ hfirst hsecond => ⟨hfirst, hsecond⟩)
    statements hstatements

/-- A script that is ended under `errexit` ends with a nonzero status. -/
theorem ExitsFail.of_runs {statement : Statement Q A S}
    (hstatement : statement.ExitsFail) {status : Nat}
    (hrun : statement.Runs suspended state trace (.exited status) final) :
    status ≠ 0 := by
  induction statement generalizing suspended state trace final status with
  | command run =>
      obtain ⟨result, -, hexited⟩ := runs_command.mp hrun
      unfold Statement.completion at hexited
      split_ifs at hexited with hnormal
      rw [Completion.exited.injEq] at hexited
      rw [hexited]
      exact fun hzero => hnormal (Or.inl hzero)
  | sequence first second ihfirst ihsecond =>
      rcases runs_sequence.mp hrun with ⟨result, hfirst, hexited⟩ |
        ⟨_, _, _, _, -, -, hsecond⟩
      · rw [Completion.exited.injEq] at hexited
        rw [hexited]
        exact ihfirst hstatement.1 hfirst
      · exact ihsecond hstatement.2 hsecond
  | whenTrue condition body ihcondition ihbody =>
      rcases runs_whenTrue.mp hrun with ⟨result, hcondition, hexited⟩ |
        ⟨_, _, _, _, -, -, ⟨-, hbody⟩ | ⟨-, -, hnormal, -⟩⟩
      · rw [Completion.exited.injEq] at hexited
        rw [hexited]
        exact ihcondition hstatement.1 hcondition
      · exact ihbody hstatement.2 hbody
      · cases hnormal
  | negate body ih =>
      rcases runs_negate.mp hrun with ⟨result, hbody, hexited⟩ | ⟨_, -, hnormal⟩
      · rw [Completion.exited.injEq] at hexited
        rw [hexited]
        exact ih hstatement hbody
      · cases hnormal
  | orElse first second ihfirst ihsecond =>
      rcases runs_orElse.mp hrun with ⟨result, hfirst, hexited⟩ |
        ⟨_, _, _, _, -, -, ⟨-, -, hnormal, -⟩ | ⟨-, hsecond⟩⟩
      · rw [Completion.exited.injEq] at hexited
        rw [hexited]
        exact ihfirst hstatement.1 hfirst
      · cases hnormal
      · exact ihsecond hstatement.2 hsecond
  | exit code =>
      obtain ⟨-, hexited, -⟩ := runs_exit.mp hrun
      rw [Completion.exited.injEq] at hexited
      rw [hexited]
      exact hstatement

theorem AsksOnly.exec {allowed : Q → Prop} {statement : Statement Q A S}
    (hstatement : statement.AsksOnly allowed) (suspended : Bool) (state : S) :
    (statement.exec suspended state).AsksOnly allowed := by
  have hafter : ∀ (outcome : Completion × S)
      (next : Nat → S → Program Q A (Completion × S)),
      (∀ status middle, (next status middle).AsksOnly allowed) →
        (andThen outcome next).AsksOnly allowed := by
    rintro ⟨outcome, middle⟩ next hnext
    cases outcome with
    | normal status => exact hnext status middle
    | exited status => trivial
  induction statement generalizing suspended state with
  | command run =>
      exact Program.AsksOnly.bind (hstatement state) fun _ => trivial
  | sequence first second ihfirst ihsecond =>
      exact Program.AsksOnly.bind (ihfirst hstatement.1 suspended state)
        fun outcome => hafter outcome _ fun _ middle =>
          ihsecond hstatement.2 suspended middle
  | whenTrue condition body ihcondition ihbody =>
      apply Program.AsksOnly.bind (ihcondition hstatement.1 true state)
      intro outcome
      apply hafter
      intro status middle
      split
      · exact ihbody hstatement.2 suspended middle
      · trivial
  | negate body ih =>
      exact Program.AsksOnly.bind (ih hstatement true state)
        fun outcome => hafter outcome _ fun _ _ => trivial
  | orElse first second ihfirst ihsecond =>
      apply Program.AsksOnly.bind (ihfirst hstatement.1 true state)
      intro outcome
      apply hafter
      intro status middle
      split
      · trivial
      · exact ihsecond hstatement.2 suspended middle
  | exit status => trivial

theorem AsksOnly.of_runs {allowed : Q → Prop} {statement : Statement Q A S}
    (hstatement : statement.AsksOnly allowed)
    (hrun : statement.Runs suspended state trace completion final) :
    ∀ exchange ∈ trace, allowed exchange.query :=
  Program.AsksOnly.of_runs (hstatement.exec suspended state) hrun

/-- Every command of the statement keeps what holds of the variables. -/
def Keeps (invariant : S → Prop) : Statement Q A S → Prop
  | .command run => ∀ state trace status final, invariant state →
      (run state).Runs trace (status, final) → invariant final
  | .sequence first second => first.Keeps invariant ∧ second.Keeps invariant
  | .whenTrue condition body =>
      condition.Keeps invariant ∧ body.Keeps invariant
  | .negate body => body.Keeps invariant
  | .orElse first second => first.Keeps invariant ∧ second.Keeps invariant
  | .exit _ => True

theorem Keeps.of_runs {invariant : S → Prop} {statement : Statement Q A S}
    (hstatement : statement.Keeps invariant) (hstate : invariant state)
    (hrun : statement.Runs suspended state trace completion final) :
    invariant final := by
  induction statement generalizing suspended state trace completion final with
  | command run =>
      obtain ⟨status, hcommand, -⟩ := runs_command.mp hrun
      exact hstatement state trace status final hstate hcommand
  | sequence first second ihfirst ihsecond =>
      rcases runs_sequence.mp hrun with ⟨_, hfirst, -⟩ |
        ⟨_, _, _, _, -, hfirst, hsecond⟩
      · exact ihfirst hstatement.1 hstate hfirst
      · exact ihsecond hstatement.2
          (ihfirst hstatement.1 hstate hfirst) hsecond
  | whenTrue condition body ihcondition ihbody =>
      rcases runs_whenTrue.mp hrun with ⟨_, hcondition, -⟩ |
        ⟨_, _, _, _, -, hcondition, hrest⟩
      · exact ihcondition hstatement.1 hstate hcondition
      · have hmiddle := ihcondition hstatement.1 hstate hcondition
        rcases hrest with ⟨-, hbody⟩ | ⟨-, -, -, rfl⟩
        · exact ihbody hstatement.2 hmiddle hbody
        · exact hmiddle
  | negate body ih =>
      rcases runs_negate.mp hrun with ⟨_, hbody, -⟩ | ⟨_, hbody, -⟩
      · exact ih hstatement hstate hbody
      · exact ih hstatement hstate hbody
  | orElse first second ihfirst ihsecond =>
      rcases runs_orElse.mp hrun with ⟨_, hfirst, -⟩ |
        ⟨_, _, _, _, -, hfirst, hrest⟩
      · exact ihfirst hstatement.1 hstate hfirst
      · have hmiddle := ihfirst hstatement.1 hstate hfirst
        rcases hrest with ⟨-, -, -, rfl⟩ | ⟨-, hsecond⟩
        · exact hmiddle
        · exact ihsecond hstatement.2 hmiddle hsecond
  | exit status =>
      obtain ⟨-, -, rfl⟩ := runs_exit.mp hrun
      exact hstate

/-- What follows an `if` whose body ends the script: the condition was
false. -/
theorem runs_guarded {condition body rest : Statement Q A S}
    (hcondition : condition.NoExit)
    (hbody : ∀ middle right result last,
      ¬ body.Runs suspended middle right (.normal result) last)
    (hrun : (Statement.sequence (.whenTrue condition body) rest).Runs
      suspended state trace completion final) :
    ∃ status middle left right, trace = left ++ right ∧
      condition.Runs true state left (.normal status) middle ∧
      ((status = 0 ∧ (∃ code, completion = .exited code) ∧
          body.Runs suspended middle right completion final) ∨
        (status ≠ 0 ∧ rest.Runs suspended middle right completion final)) := by
  rcases runs_sequence.mp hrun with ⟨code, hguard, rfl⟩ |
    ⟨result, next, left, right, rfl, hguard, hrest⟩
  · rcases runs_whenTrue.mp hguard with ⟨_, hfailed, hexited⟩ |
      ⟨status, middle, first, second, rfl, hfailed, hends⟩
    · obtain ⟨_, hnormal⟩ := hcondition.of_runs hfailed
      cases hnormal
    · rcases hends with ⟨hzero, hends⟩ | ⟨-, -, hnormal, -⟩
      · exact ⟨status, middle, first, second, rfl, hfailed,
          Or.inl ⟨hzero, ⟨code, rfl⟩, hends⟩⟩
      · cases hnormal
  · rcases runs_whenTrue.mp hguard with ⟨_, -, hexited⟩ |
      ⟨status, middle, first, second, rfl, hfailed, hends⟩
    · cases hexited
    · rcases hends with ⟨-, hends⟩ | ⟨hnonzero, rfl, -, rfl⟩
      · exact absurd hends (hbody _ _ _ _)
      · rw [List.append_nil]
        exact ⟨status, next, first, right, rfl, hfailed,
          Or.inr ⟨hnonzero, hrest⟩⟩

/-- `first || rest`, where `rest` ends the script. -/
theorem runs_orElse_normal {first rest : Statement Q A S} {status : Nat}
    (hrest : ∀ middle right result last,
      ¬ rest.Runs false middle right (.normal result) last) :
    (Statement.orElse first rest).Runs false state trace (.normal status)
        final ↔
      status = 0 ∧ first.Runs true state trace (.normal 0) final := by
  rw [runs_orElse]
  constructor
  · rintro (⟨_, -, hexited⟩ | ⟨result, middle, left, right, rfl, hfirst,
      hlast⟩)
    · cases hexited
    · rcases hlast with ⟨rfl, rfl, hnormal, rfl⟩ | ⟨-, hends⟩
      · rw [List.append_nil]
        exact ⟨Completion.normal.inj hnormal, hfirst⟩
      · exact absurd hends (hrest _ _ _ _)
  · rintro ⟨rfl, hfirst⟩
    exact Or.inr ⟨0, final, trace, [], (List.append_nil _).symm, hfirst,
      Or.inl ⟨rfl, rfl, rfl, rfl⟩⟩

-- A run is read through the lemmas above and never by evaluating the program.
attribute [irreducible] Runs

end Statement

/-! ### Statements that ask nothing -/

section Silent

open Statement

variable {Q : Type u} {A : Q → Type v} {S : Type v} {state final : S}
  {trace : List (Exchange Q A)} {status : Nat}

/-- `[[ … ]]` -/
def test (condition : S → Bool) : Statement Q A S :=
  .command fun state => .pure (if condition state then 0 else 1, state)

/-- A change of the script's own state. -/
def note (store : S → S) : Statement Q A S :=
  .command fun state => .pure (0, store state)

theorem asksOnly_note {allowed : Q → Prop} {store : S → S} :
    (note store : Statement Q A S).AsksOnly allowed :=
  fun _ => trivial

theorem runs_test {condition : S → Bool} :
    (test condition : Statement Q A S).Runs true state trace (.normal status)
        final ↔
      trace = [] ∧ final = state ∧
        status = if condition state then 0 else 1 := by
  unfold test
  rw [runs_command]
  constructor
  · rintro ⟨result, ⟨rfl, hsame⟩, hcompletion⟩
    rw [Prod.mk.injEq] at hsame
    rw [completion_true, Completion.normal.injEq] at hcompletion
    exact ⟨rfl, hsame.2, by rw [hcompletion, hsame.1]⟩
  · rintro ⟨rfl, rfl, rfl⟩
    exact ⟨_, ⟨rfl, rfl⟩, completion_true.symm⟩

/-- `[[ … ]] || …`, where what follows ends the script. -/
theorem runs_test_orElse_normal {condition : S → Bool}
    {rest : Statement Q A S}
    (hrest : ∀ middle right result last,
      ¬ rest.Runs false middle right (.normal result) last) :
    (Statement.orElse (test condition) rest).Runs false state trace
        (.normal status) final ↔
      status = 0 ∧ trace = [] ∧ final = state ∧ condition state = true := by
  rw [runs_orElse_normal hrest, runs_test]
  apply and_congr_right
  intro hstatus
  apply and_congr_right
  intro htrace
  apply and_congr_right
  intro hfinal
  cases condition state <;> simp

theorem runs_note_normal {store : S → S} :
    (note store : Statement Q A S).Runs false state trace (.normal status)
        final ↔
      status = 0 ∧ trace = [] ∧ final = store state := by
  unfold note
  rw [runs_command_normal, Program.runs_pure, Prod.mk.injEq]
  simp

end Silent

end Shell

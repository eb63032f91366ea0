import InventoryCloud.JsonFilters
import InventoryCloud.ShellStatements
import Mathlib.Data.List.DropRight

/-!
# Commands of a shell script

External commands, jq and tests as statements of a script.  What a command
prints and its exit status are answers, so that a script is run against every
behaviour of its commands.  jq computes what its filter says, or breaks down
with some nonzero status.  The contents of the files that a command is told
to read are part of the request.
-/

namespace Shell

open Interaction

inductive Request where
  | echo (text : String)
  | external (arguments inputs : List String)
  | jq (arguments inputs : List String)

def Request.arguments : Request → List String
  | .external arguments _ => arguments
  | .jq arguments _ => arguments
  | .echo _ => []

/-- How a command ended; `output` is what it left in the file that an option
told it to write. -/
structure Finished where
  status : Nat
  stdout : String
  output : String

/-- A run of jq which did not come to its end. -/
structure Breakdown where
  status : Nat
  fails : status ≠ 0
  stdout : String

abbrev Answer : Request → Type
  | .echo _ => PUnit
  | .external _ _ => Finished
  | .jq _ _ => Option Breakdown

abbrev Trace := List (Exchange Request Answer)

theorem external_inj {arguments others inputs files : List String}
    {first second : Finished}
    (hsame : (⟨.external arguments inputs, first⟩ :
      Exchange Request Answer) = ⟨.external others files, second⟩) :
    arguments = others ∧ inputs = files ∧ first = second := by
  cases hsame
  exact ⟨rfl, rfl, rfl⟩

/-- `$(command)` for a command that printed `stdout`: without zero bytes and
without line breaks at the end. -/
def substituted (stdout : String) : String :=
  String.ofList
    ((stdout.toList.filter (· ≠ '\x00')).rdropWhile (· == '\n'))

/-- No zero byte, and no line break at the end. -/
def Plain (text : String) : Prop :=
  '\x00' ∉ text.toList ∧ text.toList.getLast? ≠ some '\n'

theorem plain_of_chars {text : String}
    (htext : ∀ char ∈ text.toList, char ≠ '\n' ∧ char ≠ '\x00') :
    Plain text :=
  ⟨fun hmem => (htext _ hmem).2 rfl,
    fun hlast => (htext _ (List.mem_of_getLast? hlast)).1 rfl⟩

/-- A plain line is substituted as it is. -/
theorem substituted_line {text : String} (htext : Plain text) :
    substituted (text ++ "\n") = text := by
  obtain ⟨hzero, hbreak⟩ := htext
  have hfilter : (text ++ "\n").toList.filter (· ≠ '\x00') =
      text.toList ++ ['\n'] := by
    rw [String.toList_append]
    apply List.filter_eq_self.mpr
    intro char hmem
    rcases List.mem_append.mp hmem with hchar | hchar
    · have hne : char ≠ '\x00' := fun hsame => hzero (hsame ▸ hchar)
      simpa using hne
    · rw [List.mem_singleton.mp hchar]
      decide
  have hdrop : (text.toList ++ ['\n']).rdropWhile (· == '\n') =
      text.toList := by
    rw [List.rdropWhile_concat_pos _ _ _ (by decide),
      List.rdropWhile_eq_self_iff]
    intro hne hlast
    rw [List.getLast?_eq_some_getLast hne, eq_of_beq hlast] at hbreak
    exact hbreak rfl
  unfold substituted
  rw [hfilter, hdrop, String.ofList_toList]

abbrev Script (S : Type) := Statement Request Answer S

section Commands

variable {S : Type}

/-- `echo`, which succeeds. -/
def echo (text : S → String) : Script S :=
  .command fun state =>
    .ask (.echo (text state)) fun _ => .pure (0, state)

/-- `[[ … ]] || { echo …; exit 1; }` -/
def require (condition : S → Bool) (message : String) : Script S :=
  .orElse (test condition)
    (.sequence (echo fun _ => message) (.exit 1))

def external (arguments inputs : S → List String)
    (store : Finished → S → S) : Script S :=
  .command fun state =>
    .ask (.external (arguments state) (inputs state)) fun done =>
      .pure (done.status, store done state)

/-- A command with `"$(dirname "$0")"` among its arguments, where `script` is
`$0`.  The status of the substitution is not looked at. -/
def externalIn (script : String) (arguments : String → S → List String)
    (store : Finished → S → S) : Script S :=
  .command fun state =>
    .ask (.external ["dirname", script] []) fun directory =>
      .ask (.external (arguments (substituted directory.stdout) state) [])
        fun done => .pure (done.status, store done state)

/-- How jq ended: by itself, or as its filter computes. -/
def jqOutcome (evaluated : Nat × String) : Option Breakdown → Nat × String
  | some breakdown => (breakdown.status, breakdown.stdout)
  | none => evaluated

def jq (arguments inputs : S → List String) (evaluate : S → Nat × String)
    (store : String → S → S) : Script S :=
  .command fun state =>
    .ask (.jq (arguments state) (inputs state)) fun answer =>
      .pure ((jqOutcome (evaluate state) answer).1,
        store (jqOutcome (evaluate state) answer).2 state)

/-- jq with a filter from a file beside the script. -/
def jqIn (script : String) (arguments : String → S → List String)
    (inputs : S → List String) (evaluate : S → Nat × String) : Script S :=
  .command fun state =>
    .ask (.external ["dirname", script] []) fun directory =>
      .ask (.jq (arguments (substituted directory.stdout) state)
        (inputs state)) fun answer =>
        .pure ((jqOutcome (evaluate state) answer).1, state)

end Commands

/-! ### What the commands ask -/

section Asks

open Statement

variable {S : Type} {allowed : Request → Prop}

theorem asksOnly_echo {text : S → String} :
    (echo text).AsksOnly allowed ↔ ∀ state, allowed (.echo (text state)) :=
  forall_congr' fun _ => and_iff_left fun _ => trivial

theorem asksOnly_failure {message : String}
    (hecho : allowed (.echo message)) :
    (Statement.sequence (echo fun _ => message) (.exit 1) :
      Script S).AsksOnly allowed :=
  ⟨asksOnly_echo.mpr fun _ => hecho, trivial⟩

theorem asksOnly_require {condition : S → Bool} {message : String}
    (hecho : allowed (.echo message)) :
    (require condition message).AsksOnly allowed :=
  ⟨fun _ => trivial, asksOnly_failure hecho⟩

theorem exitsFail_failure {message : String} :
    (Statement.sequence (echo fun _ => message) (.exit 1) :
      Script S).ExitsFail :=
  ⟨trivial, Nat.one_ne_zero⟩

theorem exitsFail_require {condition : S → Bool} {message : String} :
    (require condition message).ExitsFail :=
  ⟨trivial, exitsFail_failure⟩

theorem asksOnly_external {arguments inputs : S → List String}
    {store : Finished → S → S}
    (hallowed : ∀ state, allowed (.external (arguments state) (inputs state))) :
    (external arguments inputs store).AsksOnly allowed :=
  fun state => ⟨hallowed state, fun _ => trivial⟩

theorem asksOnly_externalIn {script : String}
    {arguments : String → S → List String} {store : Finished → S → S}
    (hdirname : allowed (.external ["dirname", script] []))
    (hallowed : ∀ directory state,
      allowed (.external (arguments directory state) [])) :
    (externalIn script arguments store).AsksOnly allowed :=
  fun state => ⟨hdirname, fun _ => ⟨hallowed _ state, fun _ => trivial⟩⟩

theorem asksOnly_jq {arguments inputs : S → List String}
    {evaluate : S → Nat × String} {store : String → S → S}
    (hallowed : ∀ state, allowed (.jq (arguments state) (inputs state))) :
    (jq arguments inputs evaluate store).AsksOnly allowed :=
  fun state => ⟨hallowed state, fun _ => trivial⟩

theorem asksOnly_jqIn {script : String}
    {arguments : String → S → List String} {inputs : S → List String}
    {evaluate : S → Nat × String}
    (hdirname : allowed (.external ["dirname", script] []))
    (hallowed : ∀ directory state,
      allowed (.jq (arguments directory state) (inputs state))) :
    (jqIn script arguments inputs evaluate).AsksOnly allowed :=
  fun state => ⟨hdirname, fun _ => ⟨hallowed _ state, fun _ => trivial⟩⟩

end Asks

/-! ### Runs of the commands -/

section Runs

open Statement

variable {S : Type} {state final : S} {trace : Trace} {status : Nat}
  {suspended : Bool}

theorem runs_echo {text : S → String} {completion : Completion} :
    (echo text).Runs suspended state trace completion final ↔
      trace = [⟨.echo (text state), ⟨⟩⟩] ∧ completion = .normal 0 ∧
        final = state := by
  unfold echo
  rw [runs_command]
  constructor
  · rintro ⟨result, ⟨answer, rest, rfl, rfl, hsame⟩, rfl⟩
    rw [Prod.mk.injEq] at hsame
    obtain ⟨rfl, rfl⟩ := hsame
    exact ⟨rfl, by simp [Statement.completion], rfl⟩
  · rintro ⟨rfl, rfl, rfl⟩
    exact ⟨0, ⟨⟨⟩, [], rfl, rfl, rfl⟩, by simp [Statement.completion]⟩

theorem failure_exits {message : String} {state final : S} {trace : Trace}
    {status : Nat} :
    ¬ (Statement.sequence (echo fun _ => message) (.exit 1) : Script S).Runs
      false state trace (.normal status) final := by
  intro hrun
  obtain ⟨_, _, _, _, -, -, hlast⟩ := runs_sequence_normal.mp hrun
  obtain ⟨-, hcompletion, -⟩ := runs_exit.mp hlast
  cases hcompletion

theorem runs_require_normal {condition : S → Bool} {message : String} :
    (require condition message).Runs false state trace (.normal status)
        final ↔
      status = 0 ∧ trace = [] ∧ final = state ∧ condition state = true :=
  runs_test_orElse_normal fun _ _ _ _ => failure_exits

theorem runs_external {arguments inputs : S → List String}
    {store : Finished → S → S} {completion : Completion} :
    (external arguments inputs store).Runs suspended state trace completion
        final ↔
      ∃ done, trace = [⟨.external (arguments state) (inputs state), done⟩] ∧
        completion = Statement.completion suspended done.status ∧
        final = store done state := by
  unfold external
  rw [runs_command]
  constructor
  · rintro ⟨result, ⟨done, rest, rfl, rfl, hsame⟩, rfl⟩
    rw [Prod.mk.injEq] at hsame
    obtain ⟨rfl, rfl⟩ := hsame
    exact ⟨done, rfl, rfl, rfl⟩
  · rintro ⟨done, rfl, rfl, rfl⟩
    exact ⟨done.status, ⟨done, [], rfl, rfl, rfl⟩, rfl⟩

theorem runs_external_normal {arguments inputs : S → List String}
    {store : Finished → S → S} :
    (external arguments inputs store).Runs false state trace (.normal status)
        final ↔
      status = 0 ∧ ∃ done, done.status = 0 ∧
        trace = [⟨.external (arguments state) (inputs state), done⟩] ∧
        final = store done state := by
  rw [runs_external]
  simp only [completion_false_normal]
  constructor
  · rintro ⟨done, rfl, ⟨hdone, rfl⟩, rfl⟩
    exact ⟨rfl, done, hdone, rfl, rfl⟩
  · rintro ⟨rfl, done, hdone, rfl, rfl⟩
    exact ⟨done, rfl, ⟨hdone, rfl⟩, rfl⟩

theorem runs_externalIn_normal {script : String}
    {arguments : String → S → List String} {store : Finished → S → S} :
    (externalIn script arguments store).Runs false state trace
        (.normal status) final ↔
      status = 0 ∧ ∃ (directory done : Finished), done.status = 0 ∧
        trace = [⟨.external ["dirname", script] [], directory⟩,
          ⟨.external (arguments (substituted directory.stdout) state) [],
            done⟩] ∧
        final = store done state := by
  unfold externalIn
  rw [runs_command_normal]
  constructor
  · rintro ⟨rfl, directory, rest, rfl, done, last, rfl, rfl, hsame⟩
    rw [Prod.mk.injEq] at hsame
    exact ⟨rfl, directory, done, hsame.1.symm, rfl, hsame.2⟩
  · rintro ⟨rfl, directory, done, hdone, rfl, rfl⟩
    exact ⟨rfl, directory, _, rfl, done, [], rfl, rfl, by rw [hdone]⟩

theorem runs_jq {arguments inputs : S → List String}
    {evaluate : S → Nat × String} {store : String → S → S}
    {completion : Completion} :
    (jq arguments inputs evaluate store).Runs suspended state trace completion
        final ↔
      ∃ answer, trace = [⟨.jq (arguments state) (inputs state), answer⟩] ∧
        completion = Statement.completion suspended
          (jqOutcome (evaluate state) answer).1 ∧
        final = store (jqOutcome (evaluate state) answer).2 state := by
  unfold jq
  rw [runs_command]
  constructor
  · rintro ⟨result, ⟨answer, rest, rfl, rfl, hsame⟩, rfl⟩
    rw [Prod.mk.injEq] at hsame
    obtain ⟨rfl, rfl⟩ := hsame
    exact ⟨answer, rfl, rfl, rfl⟩
  · rintro ⟨answer, rfl, rfl, rfl⟩
    exact ⟨_, ⟨answer, [], rfl, rfl, rfl⟩, rfl⟩

/-- `! command` -/
theorem runs_negate_external {arguments inputs : S → List String}
    {store : Finished → S → S} :
    (Statement.negate (external arguments inputs store)).Runs true state trace
        (.normal status) final ↔
      ∃ done : Finished, status = (if done.status = 0 then 1 else 0) ∧
        trace = [⟨.external (arguments state) (inputs state), done⟩] ∧
        final = store done state := by
  rw [runs_negate]
  constructor
  · rintro (⟨_, -, hexited⟩ | ⟨result, hrun, hnormal⟩)
    · cases hexited
    · obtain ⟨done, rfl, hcompletion, rfl⟩ := runs_external.mp hrun
      rw [completion_true, Completion.normal.injEq] at hcompletion
      rw [Completion.normal.injEq, hcompletion] at hnormal
      exact ⟨done, hnormal, rfl, rfl⟩
  · rintro ⟨done, rfl, rfl, rfl⟩
    exact Or.inr ⟨done.status,
      runs_external.mpr ⟨done, rfl, completion_true.symm, rfl⟩, rfl⟩

/-- jq succeeds only by coming to its end. -/
theorem jqOutcome_zero {evaluated : Nat × String}
    {answer : Option Breakdown} :
    (jqOutcome evaluated answer).1 = 0 ↔
      answer = none ∧ evaluated.1 = 0 := by
  cases answer with
  | none => simp [jqOutcome]
  | some breakdown => simp [jqOutcome, breakdown.fails]

/-- `! jq …` -/
theorem runs_negate_jq {arguments inputs : S → List String}
    {evaluate : S → Nat × String} {store : String → S → S} :
    (Statement.negate (jq arguments inputs evaluate store)).Runs true state
        trace (.normal status) final ↔
      ∃ answer,
        status = (if (jqOutcome (evaluate state) answer).1 = 0 then 1 else 0) ∧
        trace = [⟨.jq (arguments state) (inputs state), answer⟩] ∧
        final = store (jqOutcome (evaluate state) answer).2 state := by
  rw [runs_negate]
  constructor
  · rintro (⟨_, -, hexited⟩ | ⟨result, hrun, hnormal⟩)
    · cases hexited
    · obtain ⟨answer, rfl, hcompletion, rfl⟩ := runs_jq.mp hrun
      rw [completion_true, Completion.normal.injEq] at hcompletion
      rw [Completion.normal.injEq, hcompletion] at hnormal
      exact ⟨answer, hnormal, rfl, rfl⟩
  · rintro ⟨answer, rfl, rfl, rfl⟩
    exact Or.inr ⟨_, runs_jq.mpr ⟨answer, rfl, completion_true.symm, rfl⟩,
      rfl⟩

theorem runs_jq_normal {arguments inputs : S → List String}
    {evaluate : S → Nat × String} {store : String → S → S} :
    (jq arguments inputs evaluate store).Runs false state trace
        (.normal status) final ↔
      status = 0 ∧ (evaluate state).1 = 0 ∧
        trace = [⟨.jq (arguments state) (inputs state), none⟩] ∧
        final = store (evaluate state).2 state := by
  rw [runs_jq]
  simp only [completion_false_normal, jqOutcome_zero]
  constructor
  · rintro ⟨answer, rfl, ⟨⟨rfl, hzero⟩, rfl⟩, rfl⟩
    exact ⟨rfl, hzero, rfl, rfl⟩
  · rintro ⟨rfl, hzero, rfl, rfl⟩
    exact ⟨none, rfl, ⟨⟨rfl, hzero⟩, rfl⟩, rfl⟩

/-- `jq … || { echo …; exit 1; }` -/
theorem runs_jq_orElse_normal {message : String}
    {arguments inputs : S → List String} {evaluate : S → Nat × String}
    {store : String → S → S} :
    (Statement.orElse (jq arguments inputs evaluate store)
      (.sequence (echo fun _ => message) (.exit 1))).Runs false state trace
        (.normal status) final ↔
      status = 0 ∧ (evaluate state).1 = 0 ∧
        trace = [⟨.jq (arguments state) (inputs state), none⟩] ∧
        final = store (evaluate state).2 state := by
  rw [runs_orElse_normal fun _ _ _ _ => failure_exits, runs_jq]
  apply and_congr_right
  intro hstatus
  constructor
  · rintro ⟨answer, rfl, hcompletion, rfl⟩
    rw [completion_true, Completion.normal.injEq] at hcompletion
    obtain ⟨rfl, hzero⟩ := jqOutcome_zero.mp hcompletion.symm
    exact ⟨hzero, rfl, rfl⟩
  · rintro ⟨hzero, rfl, rfl⟩
    refine ⟨none, rfl, ?_, rfl⟩
    rw [completion_true, jqOutcome, hzero]

/-- `jq … || { echo …; exit 1; }` with a filter from a file. -/
theorem runs_jqIn_orElse_normal {script message : String}
    {arguments : String → S → List String} {inputs : S → List String}
    {evaluate : S → Nat × String} :
    (Statement.orElse (jqIn script arguments inputs evaluate)
      (.sequence (echo fun _ => message) (.exit 1))).Runs false state trace
        (.normal status) final ↔
      status = 0 ∧ (evaluate state).1 = 0 ∧ final = state ∧
        ∃ directory : Finished,
          trace = [⟨.external ["dirname", script] [], directory⟩,
            ⟨.jq (arguments (substituted directory.stdout) state)
              (inputs state), none⟩] := by
  rw [runs_orElse_normal fun _ _ _ _ => failure_exits]
  apply and_congr_right
  intro hstatus
  unfold jqIn
  rw [runs_command]
  constructor
  · rintro ⟨code, ⟨directory, rest, rfl, answer, last, rfl, rfl, hsame⟩,
      hcompletion⟩
    rw [Prod.mk.injEq] at hsame
    rw [completion_true, Completion.normal.injEq] at hcompletion
    obtain ⟨hcode, rfl⟩ := hsame
    rw [← hcompletion] at hcode
    obtain ⟨rfl, hevaluate⟩ := jqOutcome_zero.mp hcode.symm
    exact ⟨hevaluate, rfl, directory, rfl⟩
  · rintro ⟨hzero, rfl, directory, rfl⟩
    refine ⟨0, ⟨directory, _, rfl, none, [], rfl, rfl, ?_⟩,
      completion_true.symm⟩
    rw [jqOutcome, hzero]

end Runs

end Shell

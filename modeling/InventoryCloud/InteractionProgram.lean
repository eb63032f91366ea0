import Mathlib.Tactic

/-!
# Interaction programs

A program which asks its surroundings one query after another and continues
with the answers.  The same program text has several readings: `eval` answers
every query from one fixed oracle, and a machine which holds the program as
its remaining work may answer each query at a different moment.
-/

namespace Interaction

universe u v w

inductive Program (Q : Type u) (A : Q → Type v) (α : Type w) where
  | pure (value : α)
  | ask (query : Q) (next : A query → Program Q A α)

namespace Program

variable {Q : Type u} {A : Q → Type v}

def bind {α β : Type w} (program : Program Q A α)
    (next : α → Program Q A β) : Program Q A β :=
  match program with
  | .pure value => next value
  | .ask query rest => .ask query fun answer => (rest answer).bind next

instance : Monad (Program Q A) where
  pure := .pure
  bind := Program.bind

@[simp] theorem pure_eq {α : Type w} (value : α) :
    (Pure.pure value : Program Q A α) = .pure value := rfl

@[simp] theorem pure_bind' {α β : Type w} (value : α)
    (next : α → Program Q A β) :
    (Program.pure value >>= next : Program Q A β) = next value := rfl

@[simp] theorem ask_bind {α β : Type w} (query : Q)
    (rest : A query → Program Q A α) (next : α → Program Q A β) :
    (Program.ask query rest >>= next : Program Q A β) =
      .ask query fun answer => rest answer >>= next := rfl

theorem bind_pure' {α : Type w} (program : Program Q A α) :
    program >>= Program.pure = program := by
  induction program with
  | pure value => rfl
  | ask query rest ih =>
      rw [ask_bind]
      congr 1
      funext answer
      exact ih answer

theorem bind_assoc' {α β γ : Type w} (program : Program Q A α)
    (first : α → Program Q A β) (second : β → Program Q A γ) :
    (program >>= first) >>= second =
      program >>= fun value => first value >>= second := by
  induction program with
  | pure value => rfl
  | ask query rest ih =>
      simp only [ask_bind]
      congr 1
      funext answer
      exact ih answer

instance : LawfulMonad (Program Q A) :=
  LawfulMonad.mk' _ (fun program => bind_pure' program) (fun _ _ => rfl)
    bind_assoc'

/-- The result of a program all of whose queries are answered by one oracle. -/
def eval {α : Type w} (oracle : (query : Q) → A query) :
    Program Q A α → α
  | .pure value => value
  | .ask query rest => (rest (oracle query)).eval oracle

@[simp] theorem eval_pure {α : Type w} (oracle : (query : Q) → A query)
    (value : α) : (Program.pure value : Program Q A α).eval oracle = value :=
  rfl

@[simp] theorem eval_ask {α : Type w} (oracle : (query : Q) → A query)
    (query : Q) (rest : A query → Program Q A α) :
    (Program.ask query rest).eval oracle = (rest (oracle query)).eval oracle :=
  rfl

@[simp] theorem eval_bind {α β : Type w} (oracle : (query : Q) → A query)
    (program : Program Q A α) (next : α → Program Q A β) :
    (program >>= next).eval oracle = (next (program.eval oracle)).eval oracle := by
  induction program with
  | pure value => rfl
  | ask query rest ih =>
      simp only [ask_bind, eval_ask]
      exact ih (oracle query)

/-- What is left of the program after some of its queries were answered. -/
inductive LeadsTo {α : Type w} (program : Program Q A α) :
    Program Q A α → Prop
  | start : program.LeadsTo program
  | answered {query : Q} {rest : A query → Program Q A α}
      (hleads : program.LeadsTo (.ask query rest)) (answer : A query) :
      program.LeadsTo (rest answer)

/-- Either nothing was answered yet or the first query was. -/
theorem LeadsTo.of_ask {α : Type w} {query : Q}
    {rest : A query → Program Q A α} {program : Program Q A α}
    (hleads : (Program.ask query rest).LeadsTo program) :
    program = .ask query rest ∨ ∃ answer, (rest answer).LeadsTo program := by
  induction hleads with
  | start => exact Or.inl rfl
  | @answered other next hleads answer ih =>
      rcases ih with hfirst | ⟨first, hlater⟩
      · cases hfirst
        exact Or.inr ⟨answer, .start⟩
      · exact Or.inr ⟨first, .answered hlater answer⟩

theorem LeadsTo.of_pure {α : Type w} {value : α} {program : Program Q A α}
    (hleads : (Program.pure value : Program Q A α).LeadsTo program) :
    program = .pure value := by
  induction hleads with
  | start => rfl
  | answered hleads answer ih => cases ih

/-- However its queries are answered, the program asks at most so many. -/
def Within {α : Type w} : ℕ → Program Q A α → Prop
  | _, .pure _ => True
  | 0, .ask _ _ => False
  | bound + 1, .ask _ rest => ∀ answer, (rest answer).Within bound

@[simp] theorem within_pure {α : Type w} (bound : ℕ) (value : α) :
    (Program.pure value : Program Q A α).Within bound := by
  cases bound <;> trivial

theorem Within.mono {α : Type w} {program : Program Q A α}
    {bound larger : ℕ} (hwithin : program.Within bound)
    (hle : bound ≤ larger) : program.Within larger := by
  induction program generalizing bound larger with
  | pure value => exact within_pure larger value
  | ask query rest ih =>
      cases bound with
      | zero => exact hwithin.elim
      | succ bound =>
          obtain ⟨more, rfl⟩ := Nat.exists_eq_add_of_le hle
          rw [Nat.succ_add]
          intro answer
          exact ih answer (hwithin answer) (Nat.le_add_right bound more)

/-- Two oracles give the same answers to what the program asks. -/
def AgreeOn {α : Type w} (first second : (query : Q) → A query) :
    Program Q A α → Prop
  | .pure _ => True
  | .ask query rest => first query = second query ∧
      (rest (first query)).AgreeOn first second

theorem AgreeOn.eval {α : Type w} {first second : (query : Q) → A query}
    {program : Program Q A α} (hagree : program.AgreeOn first second) :
    program.eval first = program.eval second := by
  induction program with
  | pure value => rfl
  | ask query rest ih =>
      obtain ⟨hsame, hrest⟩ := hagree
      rw [eval_ask, eval_ask, ← hsame]
      exact ih (first query) hrest

end Program

end Interaction

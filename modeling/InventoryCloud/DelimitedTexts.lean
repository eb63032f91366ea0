import Mathlib.Data.List.Infix
import Mathlib.Tactic

/-!
# Texts with delimiters

A list splits in one way at the first and in one way at the last occurrence of
a delimiter.  What occurs inside a delimited list and does not contain the
delimiter occurs on one side of it.  `partition` and `rpartition` compute the
two splittings.
-/

namespace Delimited

variable {α : Type} {mark : α}

/-- Splitting at the first delimiter. -/
theorem eq_of_first {left other right rest : List α} (hleft : mark ∉ left)
    (hother : mark ∉ other)
    (hsame : left ++ mark :: right = other ++ mark :: rest) :
    left = other ∧ right = rest := by
  rcases List.append_eq_append_iff.mp hsame with
    ⟨between, rfl, hbetween⟩ | ⟨between, rfl, hbetween⟩
  · cases between with
    | nil => simpa using hbetween
    | cons first more =>
        rw [List.cons_append, List.cons.injEq] at hbetween
        exact absurd (by simp [hbetween.1]) hother
  · cases between with
    | nil => simpa [eq_comm] using hbetween
    | cons first more =>
        rw [List.cons_append, List.cons.injEq] at hbetween
        exact absurd (by simp [hbetween.1]) hleft

/-- Splitting at the last delimiter. -/
theorem eq_of_last {left other right rest : List α} (hright : mark ∉ right)
    (hrest : mark ∉ rest)
    (hsame : left ++ mark :: right = other ++ mark :: rest) :
    left = other ∧ right = rest := by
  have hreverse : right.reverse ++ mark :: left.reverse =
      rest.reverse ++ mark :: other.reverse := by
    simpa using congrArg List.reverse hsame
  obtain ⟨hright, hleft⟩ := eq_of_first (by simpa using hright)
    (by simpa using hrest) hreverse
  exact ⟨List.reverse_injective hleft, List.reverse_injective hright⟩

theorem takeWhile_first [DecidableEq α] {left right : List α}
    (hleft : mark ∉ left) :
    (left ++ mark :: right).takeWhile (· ≠ mark) = left := by
  rw [List.takeWhile_append_of_pos]
  · simp
  · intro other hother
    simpa using fun hsame : other = mark => hleft (hsame ▸ hother)

/-- A needle without the delimiter does not stretch over it. -/
theorem infix_side {needle left right : List α} (hneedle : mark ∉ needle)
    (hwithin : needle <:+: left ++ mark :: right) :
    needle <:+: left ∨ needle <:+: right := by
  obtain ⟨before, after, hsame⟩ := hwithin
  rw [List.append_assoc] at hsame
  rcases List.append_eq_append_iff.mp hsame with
    ⟨between, rfl, hbetween⟩ | ⟨between, rfl, hbetween⟩
  · rcases List.append_eq_append_iff.mp hbetween with
      ⟨more, rfl, -⟩ | ⟨more, rfl, hmore⟩
    · exact Or.inl ⟨before, more, by simp⟩
    · cases more with
      | nil => exact Or.inl ⟨before, [], by simp⟩
      | cons first more =>
          rw [List.cons_append, List.cons.injEq] at hmore
          exact absurd (by simp [hmore.1]) hneedle
  · cases between with
    | nil =>
        cases needle with
        | nil => exact Or.inl (List.nil_infix)
        | cons first more =>
            rw [List.nil_append, List.cons_append, List.cons.injEq] at hbetween
            exact absurd (by simp [hbetween.1]) hneedle
    | cons first more =>
        rw [List.cons_append, List.cons.injEq] at hbetween
        exact Or.inr ⟨more, after, by simp [hbetween.2]⟩

/-- A needle with its delimiter either ends at the first delimiter or comes
after it. -/
theorem suffix_or_infix {needle left right : List α} (hneedle : mark ∉ needle)
    (hleft : mark ∉ left)
    (hwithin : needle ++ [mark] <:+: left ++ mark :: right) :
    needle <:+ left ∨ needle ++ [mark] <:+: right := by
  obtain ⟨before, after, hsame⟩ := hwithin
  by_cases hbefore : mark ∈ before
  · obtain ⟨first, rest, rfl, hfirst⟩ := List.eq_append_cons_of_mem hbefore
    obtain ⟨-, hright⟩ := eq_of_first hfirst hleft
      (show first ++ mark :: (rest ++ (needle ++ [mark]) ++ after) =
        left ++ mark :: right by simpa using hsame)
    exact Or.inr ⟨rest, after, hright⟩
  · have hclean : mark ∉ before ++ needle := by
      rw [List.mem_append, not_or]
      exact ⟨hbefore, hneedle⟩
    obtain ⟨rfl, -⟩ := @eq_of_first _ mark (before ++ needle) left after right
      hclean hleft (by simpa using hsame)
    exact Or.inl ⟨before, rfl⟩

/-- A suffix without the delimiter comes after it. -/
theorem suffix_after {needle left right : List α} (hneedle : mark ∉ needle)
    (hsuffix : needle <:+ left ++ mark :: right) : needle <:+ right := by
  obtain ⟨before, hsame⟩ := hsuffix
  rcases List.append_eq_append_iff.mp hsame with
    ⟨between, rfl, hbetween⟩ | ⟨between, rfl, hbetween⟩
  · exact absurd (by simp [hbetween]) hneedle
  · cases between with
    | nil =>
        rw [List.nil_append] at hbetween
        exact absurd (by simp [← hbetween]) hneedle
    | cons first more =>
        rw [List.cons_append, List.cons.injEq] at hbetween
        exact ⟨more, hbetween.2.symm⟩

section Partition

variable [DecidableEq α]

/-- What is before the first delimiter, whether there is one, and what is after
it. -/
def partition (mark : α) : List α → List α × Bool × List α
  | [] => ([], false, [])
  | first :: rest =>
      if first = mark then ([], true, rest)
      else
        let (before, found, after) := partition mark rest
        (first :: before, found, after)

/-- The same at the last delimiter; without one everything is after it. -/
def rpartition (mark : α) (text : List α) : List α × Bool × List α :=
  let (after, found, before) := partition mark text.reverse
  if found then (before.reverse, true, after.reverse) else ([], false, text)

theorem partition_cases (mark : α) (text : List α) :
    (mark ∉ text ∧ partition mark text = (text, false, [])) ∨
      ∃ before after, text = before ++ mark :: after ∧ mark ∉ before ∧
        partition mark text = (before, true, after) := by
  induction text with
  | nil => exact Or.inl ⟨List.not_mem_nil, rfl⟩
  | cons first rest ih =>
      unfold partition
      by_cases hfirst : first = mark
      · right
        rw [if_pos hfirst, hfirst]
        exact ⟨[], rest, rfl, List.not_mem_nil, rfl⟩
      · rw [if_neg hfirst]
        rcases ih with ⟨hrest, hsame⟩ | ⟨before, after, rfl, hbefore, hsame⟩
        · left
          rw [hsame, List.mem_cons, not_or]
          exact ⟨⟨Ne.symm hfirst, hrest⟩, rfl⟩
        · right
          rw [hsame]
          refine ⟨first :: before, after, rfl, ?_, rfl⟩
          rw [List.mem_cons, not_or]
          exact ⟨Ne.symm hfirst, hbefore⟩

/-- Nothing is after the first delimiter: there is none, or it is the end. -/
theorem partition_ends {mark : α} {text before : List α} {found : Bool}
    (hsame : partition mark text = (before, found, [])) :
    mark ∉ before ∧ (text = before ∨ text = before ++ [mark]) := by
  rcases partition_cases mark text with
    ⟨hnone, hparts⟩ | ⟨first, rest, rfl, hfirst, hparts⟩
  · rw [hparts, Prod.mk.injEq] at hsame
    rw [← hsame.1]
    exact ⟨hnone, Or.inl rfl⟩
  · rw [hparts, Prod.mk.injEq, Prod.mk.injEq] at hsame
    obtain ⟨rfl, -, rfl⟩ := hsame
    exact ⟨hfirst, Or.inr rfl⟩

theorem rpartition_cases (mark : α) (text : List α) :
    (mark ∉ text ∧ rpartition mark text = ([], false, text)) ∨
      ∃ before after, text = before ++ mark :: after ∧ mark ∉ after ∧
        rpartition mark text = (before, true, after) := by
  unfold rpartition
  rcases partition_cases mark text.reverse with
    ⟨hnone, hsame⟩ | ⟨after, before, htext, hafter, hsame⟩
  · left
    rw [hsame]
    exact ⟨by simpa using hnone, rfl⟩
  · right
    rw [hsame]
    refine ⟨before.reverse, after.reverse, ?_, by simpa using hafter, rfl⟩
    simpa using congrArg List.reverse htext

end Partition

end Delimited

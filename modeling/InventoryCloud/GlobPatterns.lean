import InventoryCloud.DelimitedTexts
import InventoryCloud.TextPatterns

/-!
# Shell-style wildcards

Python's `fnmatch`: `*` matches every text, `?` every character, `[seq]` a
character of a sequence with ranges and `[!seq]` any other.  A pattern without
these characters matches itself only.
-/

namespace Python

open Delimited

/-- A character of the sequence, which may have ranges `a-z`. -/
def inSequence (char : Char) : List Char → Bool
  | low :: '-' :: high :: rest =>
      (low ≤ char && char ≤ high) || inSequence char rest
  | other :: rest => other == char || inSequence char rest
  | [] => false

/-- The set after a `[` and what follows its `]`, if there is one.  A `]` at
the start of the sequence belongs to it. -/
def bracketed (rest : List Char) : Option ((Char → Bool) × List Char) :=
  let (negated, body) :=
    match rest with
    | '!' :: body => (true, body)
    | body => (false, body)
  let (first, body) :=
    match body with
    | ']' :: body => ([']'], body)
    | body => ([], body)
  let (sequence, closed, after) := partition ']' body
  if closed then
    some (fun char => inSequence char (first ++ sequence) != negated, after)
  else none

/-- The pattern of a wildcard of at most the given length. -/
def globPattern : Nat → List Char → TextPattern
  | 0, _ => .blank
  | _ + 1, [] => .blank
  | length + 1, '*' :: rest =>
      .seq (.many (.one fun _ => true)) (globPattern length rest)
  | length + 1, '?' :: rest =>
      .seq (.one fun _ => true) (globPattern length rest)
  | length + 1, '[' :: rest =>
      match bracketed rest with
      | some (accepts, after) => .seq (.one accepts) (globPattern length after)
      | none => .seq (.one (· == '[')) (globPattern length rest)
  | length + 1, char :: rest =>
      .seq (.one (· == char)) (globPattern length rest)

/-- `fnmatch.fnmatchcase(name, wildcard)` -/
def fnmatchcase (name wildcard : List Char) : Bool :=
  (globPattern wildcard.length wildcard).fullmatch name

def isWildcardChar (char : Char) : Bool :=
  char == '*' || char == '?' || char == '['

theorem globPattern_cons {char : Char} {rest : List Char} {length : Nat}
    (hchar : isWildcardChar char = false) :
    globPattern (length + 1) (char :: rest) =
      .seq (.one (· == char)) (globPattern length rest) := by
  simp only [isWildcardChar, Bool.or_eq_false_iff, beq_eq_false_iff_ne]
    at hchar
  rw [globPattern]
  · exact hchar.1.1
  · exact hchar.1.2
  · exact hchar.2

/-- Without wildcard characters only the text itself matches. -/
theorem mem_globPattern_plain {text name : List Char}
    (hplain : ∀ char ∈ text, isWildcardChar char = false) :
    name ∈ (globPattern text.length text).language ↔ name = text := by
  induction text generalizing name with
  | nil => rfl
  | cons char rest ih =>
      obtain ⟨hchar, hrest⟩ := List.forall_mem_cons.mp hplain
      rw [List.length_cons, globPattern_cons hchar, TextPattern.mem_seq]
      constructor
      · rintro ⟨_, ⟨other, hother, rfl⟩, right, hright, rfl⟩
        rw [(ih hrest).mp hright, eq_of_beq hother]
        rfl
      · rintro rfl
        exact ⟨[char], ⟨char, beq_self_eq_true char, rfl⟩, rest,
          (ih hrest).mpr rfl, rfl⟩

/-- A star before a plain text matches what ends in the text. -/
theorem fnmatchcase_star {text name : List Char}
    (hplain : ∀ char ∈ text, isWildcardChar char = false) :
    fnmatchcase name ('*' :: text) = true ↔ text <:+ name := by
  unfold fnmatchcase
  rw [TextPattern.fullmatch_iff, List.length_cons, globPattern,
    TextPattern.mem_seq]
  constructor
  · rintro ⟨left, -, right, hright, rfl⟩
    rw [(mem_globPattern_plain hplain).mp hright]
    exact List.suffix_append left text
  · rintro ⟨left, rfl⟩
    refine ⟨left, ?_, text, (mem_globPattern_plain hplain).mpr rfl, rfl⟩
    rw [TextPattern.mem_many_one]
    simp

end Python
